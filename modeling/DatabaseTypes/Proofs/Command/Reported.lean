import DatabaseTypes.Proofs.Command

/-!
# What the command reports

Once its settings are loaded and its model is accepted, the command reports every problem of its run, but what breaks
the run breaks the command too.  The service reports both.

* `CommandLine.Accepts`     arguments that are accepted
* `CommandLine.Loads`       settings, a model and an output that the command can work with
* `CommandLine.Reports`     how the command ends for arguments
* `AnsweredAlike`           how the command ends and what the service answers
* `generate_reported`       they do so
* `generate_crashes`        a model that breaks the command
-/

namespace DatabaseTypes

open Outcome

namespace CommandLine

/-! ## arguments -/

/-- the arguments of the command are accepted: they ask for a run, and not for help -/
def Accepts (args : List Text) (s : Session) (a : Generate.Arguments) : Prop :=
  ∃ g, parsed Generate.names true args = .ok g ∧ (g.options.any (·.1 == .help)) = false
    ∧ (Generate.arguments g).run.run s = (.ok (.ok a), s)

theorem Accepts.unique {args : List Text} {s : Session} {a a' : Generate.Arguments} (h : Accepts args s a)
    (h' : Accepts args s a') : a = a' := by
  obtain ⟨g, hg, -, hrun⟩ := h
  obtain ⟨g', hg', -, hrun'⟩ := h'
  cases hg.symm.trans hg'
  cases hrun.symm.trans hrun'
  rfl

theorem accepts_told {a : Asked} {file : Text} {bytes : Bytes} {s : Session} (h : IsAccepted a file bytes s) :
    Accepts (argumentsFor a file) s (told a file) := by
  refine ⟨optionsFor a file, parsed_arguments a h.argument, ?_, run_arguments h⟩
  obtain ⟨o, _, docs, format, r⟩ := a
  rcases docs with _ | _ | _ <;> rcases format with _ | _ | _ <;> rfl

/-- a check leaves the session as it is; it can fail with a text that no path has -/
def Checks {α : Type} (c : Checking α) : Prop :=
  ∀ s, (c.run.run s).2 = s ∧ Outcome.Fails Run.IsBreak (c.run.run s).1

theorem checks_pure {α : Type} (x : α) : Checks (pure x) := fun _ => ⟨rfl, .ok _⟩

theorem checks_throw {α : Type} (m : Misuse) : Checks (throw m : Checking α) := fun _ => ⟨rfl, .ok _⟩

theorem Checks.bind {α β : Type} {c : Checking α} {f : α → Checking β} (hc : Checks c) (hf : ∀ x, Checks (f x)) :
    Checks (c >>= f) := by
  intro s
  have hbind : (c >>= f).run = c.run >>= fun r => match r with
      | .ok x => (f x).run
      | .error m => pure (.error m) :=
    (ExceptT.run_bind c f).trans (bind_congr fun r => by cases r <;> rfl)
  obtain ⟨hs, hfails⟩ := hc s
  rw [hbind, Action.run_bind]
  rcases hr : c.run.run s with ⟨f' | (m | x), s₁⟩
  · rw [hr] at hs hfails
    exact ⟨hs, .error (hfails f' rfl)⟩
  · rw [hr] at hs
    exact ⟨hs, .ok _⟩
  · rw [hr] at hs
    obtain rfl : s₁ = s := hs
    exact hf x s₁

theorem checks_checkPath (parameter : Text) (kind : Kind) (mustExist : Bool) (t : Text) :
    Checks (checkPath parameter kind mustExist t) := by
  have hentry (s : Session) : Outcome.Fails Run.IsBreak (entryAt? s t) := by
    unfold entryAt?
    dsimp only
    split
    · rename_i f hf
      exact .error (Run.isBreak_of_nameFault hf)
    · split
      · exact .ok _
      · split <;> exact .ok _
  intro s
  have hlift : Checks (liftM (Action.lift (entryAt? s t)) : Checking (Option Entry)) := by
    intro s'
    have hrun : ((liftM (Action.lift (entryAt? s t)) : Checking (Option Entry))).run.run s'
        = ((entryAt? s t).map .ok, s') := by
      cases entryAt? s t <;> rfl
    rw [hrun]
    exact ⟨rfl, (hentry s).map _⟩
  rw [run_checkPath_eq]
  refine (hlift.bind fun e => ?_) s
  split
  · exact checks_throw _
  · exact checks_pure _

theorem checks_arguments (g : Given Generate.Choice) : Checks (Generate.arguments g) := by
  have houtput : Checks (Generate.outputPath g) := by
    unfold Generate.outputPath
    split
    · exact checks_pure _
    · exact (checks_checkPath _ _ _ _).bind fun _ => checks_pure _
  have hproject : Checks (Generate.projectPath g) := by
    unfold Generate.projectPath
    split
    · exact checks_pure _
    · exact (checks_checkPath _ _ _ _).bind fun _ => checks_pure _
  have hpaths : Checks (Generate.optionPaths g) := by
    unfold Generate.optionPaths
    split
    · exact hproject.bind fun _ => houtput.bind fun _ => checks_pure _
    · exact houtput.bind fun _ => hproject.bind fun _ => checks_pure _
  unfold Generate.arguments
  refine hpaths.bind fun paths => ?_
  obtain ⟨output, project⟩ := paths
  dsimp only
  split
  · exact checks_throw _
  · refine (checks_checkPath _ _ _ _).bind fun model => ?_
    split
    · exact checks_pure _
    · exact checks_throw _

/-- what the command does with arguments -/
inductive Performs (args : List Text) (verbose : Bool) (s : Session) : Except Fault Rest × Session → Prop
  /-- it gives help -/
  | helped {g : Given Generate.Choice} (hg : parsed Generate.names true args = .ok g)
    (h : (g.options.any (·.1 == .help)) = true) :
    Performs args verbose s (.ok (.finished 0), { s with output := s.output ++ (Place.command .generate).help })
  /-- it refuses the arguments -/
  | refused {m : Misuse} (h : ∀ a, ¬ Accepts args s a) :
    Performs args verbose s (.ok (.finished 2), s.complained ((Place.command .generate).refusal m))
  /-- no path is like an argument -/
  | unnamed {f : Fault} (h : ∀ a, ¬ Accepts args s a) (hbreak : Run.IsBreak f) : Performs args verbose s (.error f, s)
  /-- it accepts the arguments -/
  | accepted {a : Generate.Arguments} (h : Accepts args s a) : Performs args verbose s
    (((Generate.perform a verbose).run s).1.map .finished, ((Generate.perform a verbose).run s).2)

theorem performs (args : List Text) (verbose : Bool) (s : Session) :
    Performs args verbose s ((perform .generate args verbose).run s) := by
  show Performs args verbose s ((performGenerate args verbose).run s)
  unfold performGenerate
  dsimp only
  cases hg : parsed Generate.names true args with
  | error m =>
    refine .refused ?_
    rintro a ⟨g, hg', _⟩
    rw [hg] at hg'
    cases hg'
  | ok g =>
    dsimp only
    cases hhelp : g.options.any (·.1 == .help) with
    | true => exact .helped hg hhelp
    | false =>
      rw [if_neg Bool.false_ne_true, Action.run_bind]
      have hchecks := checks_arguments g s
      have hnone {x : Except Fault (Except Misuse Generate.Arguments)} {s₁ : Session}
          (hr : (Generate.arguments g).run.run s = (x, s₁)) (hx : ∀ a, x ≠ .ok (.ok a)) (a : Generate.Arguments) :
          ¬ Accepts args s a := by
        rintro ⟨g', hg', -, hrun⟩
        cases hg.symm.trans hg'
        exact hx a (Prod.mk.inj (hr.symm.trans hrun)).1
      rcases hr : (Generate.arguments g).run.run s with ⟨f | (m | a), s₁⟩
      · rw [hr] at hchecks
        obtain rfl : s₁ = s := hchecks.1
        exact .unnamed (hnone hr nofun) (hchecks.2 f rfl)
      · rw [hr] at hchecks
        obtain rfl : s₁ = s := hchecks.1
        exact .refused (hnone hr nofun)
      · rw [hr] at hchecks
        obtain rfl : s₁ = s := hchecks.1
        have haccepted : Performs args verbose s₁ _ := .accepted ⟨g, hg, hhelp, hr⟩
        dsimp only
        rw [Action.run_bind]
        generalize (Generate.perform a verbose).run s₁ = x at haccepted ⊢
        obtain ⟨f | n, s'⟩ := x
        · exact haccepted
        · exact haccepted

/-- the command with arguments that it accepts -/
theorem run_perform_of_accepts {args : List Text} {s : Session} {a : Generate.Arguments} (h : Accepts args s a)
    (verbose : Bool) : (perform .generate args verbose).run s
      = (((Generate.perform a verbose).run s).1.map .finished, ((Generate.perform a verbose).run s).2) := by
  have hp := performs args verbose s
  generalize (perform .generate args verbose).run s = p at hp ⊢
  cases hp with
  | helped hg hhelp =>
    obtain ⟨g', hg', hnot, _⟩ := h
    cases hg.symm.trans hg'
    rw [hhelp] at hnot
    cases hnot
  | refused hnone => exact absurd h (hnone a)
  | unnamed hnone => exact absurd h (hnone a)
  | accepted h' => rw [h.unique h']

/-! ## the command -/

/-- the directory of the project -/
def Generate.Arguments.root (a : Generate.Arguments) (host : Host) : Path := a.project.getD host.directory

/-- a file has a model that is accepted -/
structure IsModel (s : Session) (path : Path) (datamodel : Json) : Prop where
  named : Files.pathFault? path = none
  accepted : ∃ bytes document, s.files.entry s.host.here path = .ok (.file bytes)
    ∧ Run.document path bytes = .ok document ∧ Document.datamodel document = .ok datamodel

/-- for every run that arguments ask for there are settings, in which no bracket stands in the path that the output
goes to, and a model that is accepted; and the clock does not go back -/
structure Loads (args : List Text) (s : Session) : Prop where
  settings : ∀ a, Accepts args s a → ∃ settings,
    Settings.loadFrom s.host s.files (a.root s.host) (Generate.overrides a) = .ok settings
      ∧ ∀ path, Run.resolved s.host settings.generator.output (some (a.root s.host)) = .ok path → Bracketless path.text
  model : ∀ a, Accepts args s a → ∃ datamodel, IsModel s a.model datamodel
  time : ∃ t, s.host.elapsed.text? = .ok t

/-- how the command ends for arguments that are accepted -/
inductive Generate.Reported (a : Arguments) (verbose : Bool) (s : Session) : Except Fault Nat → Session → Prop
  /-- an output of the log cannot be opened -/
  | unlogged {settings : Settings} {f : Fault} {s' : Session} (hc : (prepared a verbose).run s = (.error f, s'))
    (h : (Action.openLog (logSettings settings verbose)).run s = (.error f, s')) (hf : ∃ p, Files.Refusal p f) :
    Reported a verbose s (.error f) s'
  /-- a run was made -/
  | ended {c : Run.Call} {s₁ s' : Session} {r : Except Fault Nat} (hc : (prepared a verbose).run s = (.ok c, s₁))
    (h : Ends c s₁ r s') : Reported a verbose s r s'

/-- how the command ends for arguments -/
inductive Reports (args : List Text) (verbose : Bool) (s : Session) : Except Fault Rest → Session → Prop
  /-- it was asked for help -/
  | helped {s' : Session} : Reports args verbose s (.ok (.finished 0)) s'
  /-- the arguments are refused -/
  | refused {m : Misuse} {s' : Session}
    (hsaid : Session.Said ((Place.command .generate).refusal m).halvesSpelt s s') :
    Reports args verbose s (.ok (.finished 2)) s'
  /-- no path is like an argument -/
  | unnamed {f : Fault} {s' : Session} (h : ∀ a, ¬ Accepts args s a) (hbreak : Run.IsBreak f) :
    Reports args verbose s (.error f) s'
  /-- the arguments are accepted -/
  | accepted {a : Generate.Arguments} {s' : Session} {r : Except Fault Nat} (ha : Accepts args s a)
    (h : Generate.Reported a verbose s r s') : Reports args verbose s (r.map .finished) s'

namespace Generate

variable {a : Arguments} {settings : Settings} {datamodel : Json} {s : Session}
  (hsettings : Settings.loadFrom s.host s.files (a.root s.host) (overrides a) = .ok settings)
  (hmodel : IsModel s a.model datamodel)
include hsettings hmodel

/-- a run is prepared once its log is opened -/
theorem run_prepared_of_loads (verbose : Bool) : (prepared a verbose).run s
    = (((Action.openLog (logSettings settings verbose)).run s).1.map fun _ =>
        { datamodel, settings, base := some (a.root s.host) },
      ((Action.openLog (logSettings settings verbose)).run s).2) := by
  have hbind : (prepared a verbose).run s
      = (Settings.load (a.root s.host) (overrides a) >>= fun settings =>
        Action.openLog (logSettings settings verbose) >>= fun _ => Run.loadDatamodel a.model >>= fun datamodel =>
          pure { datamodel, settings, base := some (a.root s.host) }).run s := rfl
  rw [hbind, Action.run_bind, Settings.run_load, hsettings]
  dsimp only
  rw [Action.run_bind]
  have hstands := Action.standing_openLog (logSettings settings verbose) s
  generalize (Action.openLog (logSettings settings verbose)).run s = x at hstands ⊢
  obtain ⟨f | u, s₁⟩ := x
  · rfl
  -- the file of the model is still there when the log is open
  · obtain ⟨bytes, document, hentry, hdocument, haccepted⟩ := hmodel.accepted
    have hentry₁ : s₁.files.entry s₁.host.here a.model = .ok (.file bytes) := by
      rw [hstands.host]
      exact hstands.files.entry hentry
    dsimp only
    rw [Action.run_bind, run_loadDatamodel hmodel.named hentry₁ hdocument, haccepted]
    rfl

theorem perform_reported (verbose : Bool)
    (hplace : ∀ path, Run.resolved s.host settings.generator.output (some (a.root s.host)) = .ok path →
      Bracketless path.text) (htime : ∃ t, s.host.elapsed.text? = .ok t) :
    Reported a verbose s ((perform a verbose).run s).1 ((perform a verbose).run s).2 := by
  have hprepared := run_prepared_of_loads hsettings hmodel verbose
  have hfails := Action.fails_openLog (logSettings settings verbose) s
  have hstands := Action.standing_openLog (logSettings settings verbose) s
  rcases hopen : (Action.openLog (logSettings settings verbose)).run s with ⟨f | u, s₁⟩
  · rw [hopen] at hprepared hfails
    have hperform : (perform a verbose).run s = (.error f, s₁) := by
      rw [perform_eq, Action.run_bind, Action.run_outcome, generate_eq, Action.run_bind, hprepared]
      exact run_toldOf_refusal (hfails f rfl) s₁
    rw [hperform]
    exact .unlogged hprepared hopen (hfails f rfl)
  · rw [hopen] at hprepared hstands
    have hhost : s₁.host = s.host := hstands.host
    exact .ended hprepared (perform_ends hprepared (fun path hpath => hplace path (hhost ▸ hpath))
      (by rw [hhost]; exact htime))

end Generate

theorem perform_generate_reports {args : List Text} {s : Session} (h : Loads args s) (verbose : Bool) :
    Reports args verbose s ((perform .generate args verbose).run s).1 ((perform .generate args verbose).run s).2 := by
  have hp := performs args verbose s
  generalize (perform .generate args verbose).run s = p at hp ⊢
  cases hp with
  | helped => exact .helped
  | refused => exact .refused ⟨[], by rw [List.append_nil]; rfl⟩
  | unnamed hnone hbreak => exact .unnamed hnone hbreak
  | @accepted a ha =>
    obtain ⟨settings, hsettings, hplace⟩ := h.settings a ha
    obtain ⟨datamodel, hmodel⟩ := h.model a ha
    exact .accepted ha (Generate.perform_reported hsettings hmodel verbose hplace h.time)

end CommandLine

/-! ## the service -/

open CommandLine Service

/-- how the command ends, and what the service answers to a request for the same run: both tell of success, or of one
problem, and where the command breaks the service reports an unforeseen problem -/
inductive AnsweredAlike (request : List (Text × Json)) : Except Fault Nat → Except Fault (Option Json) → Prop
  | done : AnsweredAlike request (.ok 0) (.ok (success (identifier request) .null))
  | failed {p : Problem} : AnsweredAlike request (.ok 1) (.ok (some (problemResponse (identifier request) p)))
  | broken {f : Fault} (h : ∀ p, f ≠ .problem p) : AnsweredAlike request (.error f)
    (.ok (some (problemResponse (identifier request) (.unexpected f.message [("method", method request)]))))

theorem reportOf_of_not_problem {f : Fault} (h : ∀ p, f ≠ .problem p) (method : Json) :
    reportOf method f = .unexpected f.message [("method", method)] := by
  cases f with
  | problem p => exact absurd rfl (h p)
  | _ => rfl

theorem answeredAlike {a : Asked} {file : Text} {bytes : Bytes} {document : Json} {root : Option Path}
    {request : List (Text × Json)} {s : Session} (hh : s.host.Transforms)
    (hlog : Settings.Unlogged s (Path.ofText a.project)) (hcommand : IsAccepted a file bytes s)
    (hdocument : Run.document (Path.ofText file) bytes = .ok document)
    (hmethod : method request = .text "generate") (hasks : AsksFor (parameters request) a document)
    {r : Except Fault Nat} {s' : Session} (hr : Generate.Reported (told a file) false (onTerminal s) r s') :
    AnsweredAlike request r ((handle root request).run s).1 := by
  have hagree : Agree a file root request s := generate_agrees hh hlog hcommand hdocument hmethod hasks
  have hended := hagree.ended
  -- what the service answers, by how the run ends on the command line
  have hdone {summary : Run.Summary} {s₁ : Session}
      (h : (Generate.generate (told a file) false).run (onTerminal s) = (.ok summary, s₁)) :
      ((handle root request).run s).1 = .ok (success (identifier request) .null) := by
    rw [h] at hended
    rw [run_handle_generate hmethod (Prod.ext hended.symm rfl)]
  have hfailed {f : Fault} {s₁ : Session}
      (h : (Generate.generate (told a file) false).run (onTerminal s) = (.error f, s₁)) :
      ((handle root request).run s).1
        = .ok (some (problemResponse (identifier request) (reportOf (method request) f))) := by
    rw [h] at hended
    obtain ⟨m, hm⟩ := run_handle_failed hmethod (Prod.ext hended.symm rfl)
    rw [hm]
  have hgenerate : (Generate.generate (told a file) false).run (onTerminal s)
      = (Generate.prepared (told a file) false >>= Run.Call.action).run (onTerminal s) := by
    rw [Generate.generate_eq]
  rw [Action.run_bind] at hgenerate
  cases hr with
  | unlogged hc h hf =>
    obtain ⟨p, hf⟩ := hf
    rw [hc] at hgenerate
    have hnot : ∀ p, _ ≠ Fault.problem p := hf.not_problem
    rw [hfailed hgenerate, reportOf_of_not_problem hnot]
    exact .broken hnot
  | ended hc h =>
    rw [hc] at hgenerate
    cases h with
    | done hrun ht hshown hsaid =>
      rw [hdone (hgenerate.trans hrun)]
      exact .done
    | failed hrun hshown hsaid =>
      rw [hfailed (hgenerate.trans hrun)]
      exact .failed
    | broken hrun hbreak =>
      rw [hfailed (hgenerate.trans hrun), reportOf_of_not_problem hbreak.not_problem]
      exact .broken hbreak.not_problem

/-- **The command reports the problems of its run**, whatever its arguments are: it ends with zero, or it says what is
wrong and ends with one or two, unless the run breaks or the log cannot be opened.  A request for the same run is
answered alike, and there a break is reported as an unforeseen problem. -/
theorem generate_reported (args : List Text) (verbose : Bool) (s : Session) :
    (Loads args s →
      Reports args verbose s ((perform .generate args verbose).run s).1 ((perform .generate args verbose).run s).2)
    ∧ ∀ a file bytes document root request s, s.host.Transforms → Settings.Unlogged s (Path.ofText a.project) →
        IsAccepted a file bytes s → Run.document (Path.ofText file) bytes = .ok document →
        method request = .text "generate" → AsksFor (parameters request) a document →
        Loads (argumentsFor a file) (onTerminal s) →
        ∃ r s', (start ("generate" :: argumentsFor a file)).run s = (r.map .finished, s')
          ∧ Generate.Reported (told a file) false (onTerminal s) r s'
          ∧ AnsweredAlike request r ((handle root request).run s).1 := by
  refine ⟨fun h => perform_generate_reports h verbose, ?_⟩
  intro a file bytes document root request s hh hlog hcommand hdocument hmethod hasks hloads
  have haccepted : IsAccepted a file bytes (onTerminal s) :=
    ⟨hcommand.argument, hcommand.model, hcommand.output, hcommand.project⟩
  obtain ⟨settings, hsettings, hplace⟩ := hloads.settings _ (accepts_told haccepted)
  obtain ⟨datamodel, hmodel⟩ := hloads.model _ (accepts_told haccepted)
  have hreported := Generate.perform_reported hsettings hmodel false hplace hloads.time
  refine ⟨_, _, ?_, hreported, answeredAlike hh hlog hcommand hdocument hmethod hasks hreported⟩
  rw [run_start hcommand, Action.run_bind]
  rcases (Generate.perform (told a file) false).run (onTerminal s) with ⟨f | n, s'⟩
  · rfl
  · rfl

/-- a session with a model whose text is given, and with the directory of a project -/
def Asked.sessionOf (model : Text) : Session where
  host := Asked.session.host
  files := Files.plant ["p"] .directory (Files.plant ["m.json"] (.file model.toBytes) {})

section
variable {a : Asked} {model : Text}

/-- what is asked for is accepted there -/
def Asked.acceptable (a : Asked) (model : Text) : Bool :=
  let s := Asked.sessionOf model
  (entryAt? s "m.json").toOption.any (· == some (.file model.toBytes))
    && (entryAt? s a.output).toOption.any (· == none) && (entryAt? s a.project).toOption.any (· == some .directory)

theorem Asked.isAccepted (h : a.acceptable model = true) :
    IsAccepted a "m.json" model.toBytes (Asked.sessionOf model) := by
  have hentry {t : Text} {e : Option Entry}
      (h : (entryAt? (Asked.sessionOf model) t).toOption.any (· == e) = true) :
      entryAt? (Asked.sessionOf model) t = .ok e := by
    obtain ⟨e', h, he⟩ := exists_ok_of_any h
    rw [h, eq_of_beq he]
  simp only [Asked.acceptable, Bool.and_eq_true] at h
  exact ⟨nofun, hentry h.1.1, ⟨none, hentry h.1.2, nofun⟩, hentry h.2⟩

theorem Asked.accepts (h : a.acceptable model = true) :
    Accepts (argumentsFor a "m.json") (onTerminal (Asked.sessionOf model)) (told a "m.json") :=
  have haccepted := Asked.isAccepted h
  accepts_told ⟨haccepted.argument, haccepted.model, haccepted.output, haccepted.project⟩

/-- the settings for what is asked for, if they have a property -/
def Asked.settled (a : Asked) (model : Text) (p : Settings → Bool) : Bool :=
  let s := Asked.sessionOf model
  (Settings.loadFrom s.host s.files (Path.ofText a.project) (Generate.overrides (told a "m.json"))).toOption.any p

/-- the model is accepted -/
def Asked.readable (model : Text) : Bool :=
  let s := Asked.sessionOf model
  (s.files.entry s.host.here (Path.ofText "m.json")).toOption.any (· == .file model.toBytes)
    && (Run.document (Path.ofText "m.json") model.toBytes).toOption.any fun document =>
      (Document.datamodel document).toOption.any fun _ => true

theorem Asked.isModel (h : Asked.readable model = true) :
    ∃ datamodel, IsModel (onTerminal (Asked.sessionOf model)) (Path.ofText "m.json") datamodel := by
  simp only [Asked.readable, Bool.and_eq_true] at h
  obtain ⟨e, he, hfile⟩ := exists_ok_of_any h.1
  obtain ⟨document, hok, hmodel⟩ := exists_ok_of_any h.2
  obtain ⟨datamodel, hdatamodel, -⟩ := exists_ok_of_any hmodel
  rw [eq_of_beq hfile] at he
  exact ⟨datamodel, by decide +kernel, _, document, he, hok, hdatamodel⟩

theorem Asked.loads (h : a.acceptable model = true) (hmodel : Asked.readable model = true)
    (hsettings : a.settled model (fun settings => (Run.resolved Asked.session.host settings.generator.output
      (some (Path.ofText a.project))).toOption.all fun path => decide (Bracketless path.text)) = true) :
    Loads (argumentsFor a "m.json") (onTerminal (Asked.sessionOf model)) := by
  refine ⟨fun a' ha => ?_, fun a' ha => ?_, _, rfl⟩
  · rw [ha.unique (Asked.accepts h)]
    obtain ⟨settings, hok, hplace⟩ := exists_ok_of_any hsettings
    refine ⟨settings, hok, fun path hpath => ?_⟩
    have hpath : Run.resolved Asked.session.host settings.generator.output (some (Path.ofText a.project))
        = .ok path := hpath
    rw [hpath] at hplace
    exact of_decide_eq_true hplace
  · rw [ha.unique (Asked.accepts h)]
    exact Asked.isModel hmodel

end

/-- a model without anything in it -/
def Asked.emptyModel : Text := "\x7b\"models\": []\x7d"

/-- a model with a table that has no name -/
def Asked.namelessModel : Text := "\x7b\"models\": [\x7b\"fields\": []\x7d]\x7d"

theorem generate_reported_samples :
    Loads (argumentsFor .sample "m.json") (onTerminal (Asked.sessionOf Asked.emptyModel))
      ∧ Reports (argumentsFor .sample "m.json") true (onTerminal (Asked.sessionOf Asked.emptyModel))
        ((perform .generate (argumentsFor .sample "m.json") true).run (onTerminal (Asked.sessionOf Asked.emptyModel))).1
        ((perform .generate (argumentsFor .sample "m.json") true).run (onTerminal (Asked.sessionOf Asked.emptyModel))).2
      ∧ ∃ document r s', (start ("generate" :: argumentsFor .sample "m.json")).run
          (Asked.sessionOf Asked.namelessModel) = (r.map .finished, s')
        ∧ Generate.Reported (told .sample "m.json") false (onTerminal (Asked.sessionOf Asked.namelessModel)) r s'
        ∧ AnsweredAlike (Asked.request document) r
          ((handle none (Asked.request document)).run (Asked.sessionOf Asked.namelessModel)).1 := by
  have hloads : Loads (argumentsFor .sample "m.json") (onTerminal (Asked.sessionOf Asked.emptyModel)) :=
    Asked.loads (by decide +kernel) (by decide +kernel) (by decide +kernel)
  refine ⟨hloads, (generate_reported _ _ _).1 hloads, ?_⟩
  have hh : (Asked.sessionOf Asked.namelessModel).host.Transforms :=
    ⟨fun _ bytes _ => .finished 0 bytes [], fun _ _ _ _ => rfl⟩
  have hacceptable : Asked.acceptable .sample Asked.namelessModel = true := by decide +kernel
  obtain ⟨document, hdocument, -⟩ := exists_ok_of_any
    (x := Run.document (Path.ofText "m.json") (Text.toBytes Asked.namelessModel))
    (p := fun d => (d.get? "models").isSome) (by decide +kernel)
  exact ⟨document, (generate_reported [] true (Asked.sessionOf Asked.namelessModel)).2 _ _ _ document none _ _ hh
    (fun _ _ _ _ => List.not_mem_nil) (Asked.isAccepted hacceptable) hdocument rfl (Asked.asksFor_request document)
    (Asked.loads hacceptable (by decide +kernel) (by decide +kernel))⟩

/-- a model that breaks the command -/
theorem generate_crashes : ¬ ∀ args verbose s, Loads args s →
    ∃ n, ((perform .generate args verbose).run s).1 = .ok (.finished n) := by
  intro h
  have hacceptable : Asked.acceptable .sample Asked.namelessModel = true := by decide +kernel
  obtain ⟨n, hn⟩ := h _ false _ (Asked.loads hacceptable (by decide +kernel) (by decide +kernel))
  have hcrash : ((perform .generate (argumentsFor .sample "m.json") false).run
      (onTerminal (Asked.sessionOf Asked.namelessModel))).1.isOk = false := by decide +kernel
  rw [hn] at hcrash
  exact Bool.noConfusion hcrash

end DatabaseTypes
