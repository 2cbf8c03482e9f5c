import DatabaseTypes.Proofs.Asked
import DatabaseTypes.Proofs.Run.Begun

/-!
# The command and the service agree

A run can be asked for on the command line and by a request to the service.  Both load settings that are the same
but for the text of the output, and then begin and end alike.

* `Settings.loadFrom_same`   settings do not change with files that are left out of account
* `CommandLine.Generate.run_prepared`, `Service.run_prepared`   how the two begin
* `CommandLine.keeps_start`, `Service.keeps_handle`   what they do after the run
* `Agree`                    what it means that they do the same
* `generate_agrees`          they do
-/

namespace DatabaseTypes

open Yaml

/-! ## settings -/

theorem Asked.entriesAlike (a : Asked) (t t' : Text) :
    Settings.EntriesAlike t t' (Value.ofJsonMembers (a.settings t)) (Value.ofJsonMembers (a.settings t')) := by
  have hmembers (ms : List (Text × Json)) : Entries.Alike (Value.Alike t t' []) "output"
      (Value.ofJsonMembers (("output", .text t) :: ms)) (Value.ofJsonMembers (("output", .text t') :: ms)) :=
    .cons ⟨rfl, .inr ⟨rfl, .inr ⟨rfl, rfl⟩⟩⟩ (Entries.Alike.refl _ _ _)
  exact .cons ⟨rfl, .inr ⟨rfl, .inr ⟨_, _, rfl, rfl, hmembers _⟩⟩⟩ (Entries.Alike.refl _ _ _)

namespace Settings

/-- a settings file that is not left out of account -/
theorem fileSays_same {ls : List Location} {files files' : Files} {here : Location} {path : Path}
    (h : Files.SameBut ls files files') (hl : ∀ l, files.locate here path = .ok l → l ∉ ls) :
    fileSays files' here path = fileSays files here path := by
  have hentry : files'.entry here path = files.entry here path := by
    unfold Files.entry
    rw [h.locate]
    cases hlocate : files.locate here path with
    | error cause => rfl
    | ok l =>
      dsimp only [bind, Except.bind]
      rw [h.find? (hl l hlocate)]
  unfold fileSays Files.exists? Files.holds Files.read
  rw [hentry]

/-- the settings files of a project and of the user are not open for log messages -/
def Unlogged (s : Session) (root : Path) : Prop :=
  ∀ path ∈ [s.host.globalSettings, (Path.ofText fileName).under root], ∀ l,
    s.files.locate s.host.here path = .ok l → l ∉ s.log.files

/-- settings do not change with files that are left out of account, unless they are read from those -/
theorem loadFrom_same {host : Host} {ls : List Location} {files files' : Files} {root : Path}
    (h : ∀ path ∈ [host.globalSettings, (Path.ofText fileName).under root], ∀ l,
      files.locate host.here path = .ok l → l ∉ ls) (hfiles : Files.SameBut ls files files')
    (given : List (Text × Json)) : loadFrom host files' root given = loadFrom host files root given := by
  have huser := fileSays_same hfiles (h _ List.mem_cons_self)
  have hproject := fileSays_same hfiles (h _ (List.mem_cons_of_mem _ List.mem_cons_self))
  rw [loadFrom, loadFrom, huser, hproject]

end Settings

/-! ## the command -/

namespace CommandLine

section
variable {a : Asked} {file : Text} {bytes : Bytes} {document : Json} {s : Session}

theorem entryAt?_eq_some {t : Text} {e : Entry} (h : entryAt? s t = .ok (some e)) :
    Files.pathFault? (Path.ofText t) = none ∧ s.files.entry s.host.here (Path.ofText t) = .ok e := by
  unfold entryAt? at h
  dsimp only at h
  split at h
  · cases h
  · rename_i hfault
    refine ⟨Option.eq_none_iff_forall_ne_some.mpr hfault, ?_⟩
    split at h
    · cases h
    · rename_i e' he'
      split at h
      · cases h
      · cases h
        exact he'

/-- a file of a model that can be read -/
theorem run_loadDatamodel {path : Path} (hfault : Files.pathFault? path = none)
    (hentry : s.files.entry s.host.here path = .ok (.file bytes))
    (hdocument : Run.document path bytes = .ok document) :
    (Run.loadDatamodel path).run s = ((Document.datamodel document).mapError .problem, s) := by
  have hexists : s.files.exists? s.host.here path = .ok true := by
    rw [Files.exists?, Files.holds, hfault, hentry]
    rfl
  have hread : s.files.read s.host.here path = .ok bytes := by
    rw [Files.read, hfault, hentry]
  have hstep : (Run.loadDatamodel path).run s
      = (Action.lift (s.files.exists? s.host.here path) >>= fun there =>
        if there then do
          let bytes ← (Action.lift (s.files.read s.host.here path)).reporting
            fun f => .modelUnreadable path.text f.message
          let document ← Action.lift (Run.document path bytes)
          Action.liftProblem (Document.datamodel document)
        else Action.report (.modelNotFound path.text)).run s := rfl
  rw [hstep, hexists, hread, Action.run_bind, Action.run_lift]
  dsimp only
  rw [if_pos rfl, Action.run_bind, Action.run_reporting, Action.run_lift]
  dsimp only
  rw [hdocument, Action.run_bind, Action.run_lift]
  exact Action.run_liftProblem _ s

namespace Generate

/-- the run that the arguments ask for, once its settings are loaded, the log is opened and the model is read -/
def prepared (a : Arguments) (verbose : Bool) : Action Run.Call := do
  let root := a.project.getD (← Action.host).directory
  let settings ← Settings.load root (overrides a)
  Action.openLog (logSettings settings verbose)
  let datamodel ← Run.loadDatamodel a.model
  pure { datamodel, settings, base := some root }

theorem generate_eq (a : Arguments) (verbose : Bool) :
    generate a verbose = prepared a verbose >>= Run.Call.action := by
  simp only [generate, prepared, bind_assoc, pure_bind]
  rfl

theorem run_prepared (h : IsAccepted a file bytes s)
    (hdocument : Run.document (Path.ofText file) bytes = .ok document) :
    (prepared (told a file) false).run (onTerminal s)
      = (Run.begun (Settings.loadFrom s.host s.files (Path.ofText a.project)
          (a.settings (Path.ofText a.output).text)) document (Path.ofText a.project)).run (onTerminal s) := by
  have hbind : (prepared (told a file) false).run (onTerminal s)
      = (Settings.load (Path.ofText a.project) (a.settings (Path.ofText a.output).text) >>= fun settings =>
        Action.openLog settings.logging >>= fun _ => Run.loadDatamodel (Path.ofText file) >>= fun datamodel =>
          pure { datamodel, settings, base := some (Path.ofText a.project) }).run (onTerminal s) := rfl
  have hhost : (onTerminal s).host = s.host := rfl
  have hfiles : (onTerminal s).files = s.files := rfl
  rw [hbind, Action.run_bind, Settings.run_load, hhost, hfiles]
  cases Settings.loadFrom s.host s.files (Path.ofText a.project) (a.settings (Path.ofText a.output).text) with
  | error f => rfl
  | ok settings =>
    dsimp only
    rw [Run.run_begun_ok, Action.run_bind]
    -- the file of the model is still there when the log is open
    have hstands := Action.standing_openLog settings.logging (onTerminal s)
    generalize (Action.openLog settings.logging).run (onTerminal s) = x at hstands ⊢
    obtain ⟨f | u, s₁⟩ := x
    · rfl
    · obtain ⟨hfault, hentry⟩ := entryAt?_eq_some h.model
      have hentry₁ : s₁.files.entry s₁.host.here (Path.ofText file) = .ok (.file bytes) := by
        rw [hstands.host]
        exact hstands.files.entry hentry
      dsimp only
      rw [Action.run_bind, run_loadDatamodel hfault hentry₁ hdocument]
      cases Document.datamodel document <;> rfl

end Generate
end

/-! ### what is told of a run -/

theorem quiet_status (message style : Text) : Action.Quiet (Action.status message style) fun _ => True := by
  refine Action.quiet_lift.bind fun shown _ => ?_
  have hcomplain : Action.Quiet (modify fun s : Session => s.complained (shown ++ ['\n'])) fun _ => True :=
    fun s => ⟨⟨rfl, rfl, .refl _ _⟩, trivial⟩
  exact hcomplain.bind fun _ _ => Action.quiet_log

theorem quiet_told (message style : Text) (n : Nat) :
    Action.Quiet (Action.status message style >>= fun _ => pure n : Action Nat) fun _ => True :=
  (quiet_status message style).bind fun _ _ => Action.quiet_pure trivial

/-- what is told of a run, and the status after it -/
def Generate.toldOf : Except Fault Run.Summary → Action Nat
  | .error (.problem p) => do
    Action.status p.message "error"
    pure 1
  | .error f => throw f
  | .ok r => do
    Action.status (← Action.lift (Generate.summary r (← Action.host).elapsed)) "success"
    pure 0

theorem Generate.perform_eq (a : Generate.Arguments) (verbose : Bool) :
    Generate.perform a verbose = (Generate.generate a verbose).outcome >>= Generate.toldOf := by
  unfold Generate.perform
  refine bind_congr fun r => ?_
  unfold Generate.toldOf
  rcases r with f | summary
  · cases f <;> rfl
  · rfl

theorem quiet_toldOf (r : Except Fault Run.Summary) : Action.Quiet (Generate.toldOf r) fun _ => True := by
  unfold Generate.toldOf
  split
  · exact quiet_told _ _ _
  · exact fun s => .refl s
  · have hhost : Action.Quiet Action.host fun _ => True := fun s => ⟨.refl s, trivial⟩
    exact hhost.bind fun host _ => Action.quiet_lift.bind fun text _ => quiet_told _ _ _

theorem keeps_perform (a : Generate.Arguments) (verbose : Bool) (s : Session) :
    ((Generate.generate a verbose).run s).2.Keeps ((Generate.perform a verbose).run s).2 := by
  rw [Generate.perform_eq, Action.run_bind, Action.run_outcome]
  exact (quiet_toldOf _).keeps _

theorem keeps_start {a : Asked} {file : Text} {bytes : Bytes} {s : Session} (h : IsAccepted a file bytes s) :
    ((Generate.generate (told a file) false).run (onTerminal s)).2.Keeps
      ((start ("generate" :: argumentsFor a file)).run s).2 := by
  have hk := keeps_perform (told a file) false (onTerminal s)
  have hrun := run_start h
  rw [Action.run_bind] at hrun
  rw [hrun]
  generalize (Generate.perform (told a file) false).run (onTerminal s) = x at hk ⊢
  obtain ⟨f | n, s₁⟩ := x
  · exact hk
  · exact hk

end CommandLine

/-! ## the service -/

namespace Service

theorem run_prepared {params document : Json} {a : Asked} (h : AsksFor params a document)
    (root : Option Path) (s : Session) : (prepared root params).run s
      = (Run.begun (Settings.loadFrom s.host s.files (Path.ofText a.project) (a.settings a.output)) document
        (Path.ofText a.project)).run s := by
  have hdmmf : params.lookup "dmmf" = .ok (some document) := by
    rw [lookup_eq (isObject_of_get? h.document), h.document]
  have hbind : (prepared root params).run s
      = (Settings.load (Path.ofText a.project) (a.settings a.output) >>= fun settings =>
        Action.openLog settings.logging >>= fun _ =>
          Action.liftProblem (Document.datamodel document) >>= fun datamodel =>
            pure { datamodel, settings, base := some (Path.ofText a.project) }).run s := by
    unfold prepared
    rw [h.directory, h.overrides, hdmmf]
    rfl
  rw [hbind, Action.run_bind, Settings.run_load]
  cases Settings.loadFrom s.host s.files (Path.ofText a.project) (a.settings a.output) with
  | error f => rfl
  | ok settings => rfl

theorem run_generate (root : Option Path) (params : Json) (s : Session) :
    (generate root params).run s = (((prepared root params >>= Run.Call.action).run s).1.map fun _ => (),
      ((prepared root params >>= Run.Call.action).run s).2) := by
  have hassoc : generate root params
      = (prepared root params >>= Run.Call.action) >>= fun _ => pure () := by
    rw [generate_eq, bind_assoc]
  rw [hassoc, Action.run_bind]
  rcases (prepared root params >>= Run.Call.action).run s with ⟨f | summary, s'⟩
  · rfl
  · rfl

/-- what follows a run is logged at most -/
theorem keeps_handle {root : Option Path} {request : List (Text × Json)}
    (h : method request = .text "generate") (s : Session) :
    ((prepared root (parameters request) >>= Run.Call.action).run (received request s)).2.Keeps
      ((handle root request).run s).2 := by
  have hgenerate := run_generate root (parameters request) (received request s)
  rcases hr : (generate root (parameters request)).run (received request s) with ⟨f | u, s'⟩
  · obtain ⟨m, hm⟩ := run_handle_failed h hr
    rw [← (Prod.mk.inj (hr.symm.trans hgenerate)).2, hm]
    exact s'.keeps_record m
  · rw [← (Prod.mk.inj (hr.symm.trans hgenerate)).2, run_handle_generate h hr]
    exact .refl s'

end Service

/-! ## agreement -/

/-- files are the same after what follows, but for those that are open for log messages -/
theorem Session.Alike.bytesAt?_eq {h : Host} {ls : List Location} {t t' u u' : Session}
    (hs : Alike h ls (Log.Aside ls) t t') (ht : t.Keeps u) (ht' : t'.Keeps u') {l : Location} (hl : l ∉ ls) :
    u.files.bytesAt? l = u'.files.bytesAt? l := by
  rw [ht.files.bytes l fun h => hl (hs.log.1 h), ht'.files.bytes l fun h => hl (hs.log.2 h),
    hs.files.bytesAt? hl]

open CommandLine Service Outcome

/-- the command and the service do the same when they are asked for one run in a session: their output goes to one
place, both runs end well or with one fault, and afterwards every file is the same that is not open for log
messages -/
structure Agree (a : Asked) (file : Text) (root : Option Path) (request : List (Text × Json)) (s : Session) :
    Prop where
  settled : Related (fun c c' => c.place s.host = c'.place s.host)
    ((Generate.prepared (told a file) false).run (onTerminal s)).1
    ((Service.prepared root (parameters request)).run (received request s)).1
  ended : ((Generate.generate (told a file) false).run (onTerminal s)).1.map (fun _ => ())
    = ((Service.generate root (parameters request)).run (received request s)).1
  written : ∀ l, l ∉ s.log.files →
    l ∉ ((start ("generate" :: argumentsFor a file)).run s).2.log.files →
    ((start ("generate" :: argumentsFor a file)).run s).2.files.bytesAt? l
      = ((handle root request).run s).2.files.bytesAt? l

/-- **The command and the service agree**, if other programs are functions of their input. -/
theorem generate_agrees {a : Asked} {file : Text} {bytes : Bytes} {document : Json} {root : Option Path}
    {request : List (Text × Json)} {s : Session} (hh : s.host.Transforms)
    (hlog : Settings.Unlogged s (Path.ofText a.project)) (hcommand : IsAccepted a file bytes s)
    (hdocument : Run.document (Path.ofText file) bytes = .ok document)
    (hmethod : method request = .text "generate") (hasks : AsksFor (parameters request) a document) :
    Agree a file root request s := by
  -- the service has logged the request, so that files that are open for messages differ
  have hs : Session.Alike s.host s.log.files (Log.Aside s.log.files) (onTerminal s) (received request s) :=
    ⟨rfl, (s.keeps_record _).host, ⟨List.nil_subset _, (s.keeps_record _).log ▸ List.Subset.refl _⟩,
      s.sameBut_record _⟩
  have hsettings : Related (Settings.Alike (Path.ofText a.output).text a.output)
      (Settings.loadFrom s.host s.files (Path.ofText a.project) (a.settings (Path.ofText a.output).text))
      (Settings.loadFrom (received request s).host (received request s).files (Path.ofText a.project)
        (a.settings a.output)) := by
    rw [hs.host', Settings.loadFrom_same hlog hs.files]
    exact Settings.related_loadFrom _ _ _ (a.entriesAlike _ _)
  obtain ⟨hsame, hs₁⟩ := Run.begun_alike a.given hsettings hs (Generate.run_prepared hcommand hdocument)
    (Service.run_prepared hasks root (received request s))
  obtain ⟨hend, hopen, hs₂⟩ := Run.action_alike hh (Generate.generate_eq (told a file) false) rfl hsame hs₁
  have hstart := keeps_start hcommand
  refine ⟨?_, ?_, fun l hl hl' => ?_⟩
  · exact hsame.mono fun c c' hc => hc.place s.host
  · exact (congrArg (Except.map fun _ => ()) hend).trans (congrArg Prod.fst (Service.run_generate _ _ _)).symm
  -- files that were open before, and those that are now
  · refine hs₂.bytesAt?_eq hstart (keeps_handle hmethod s) fun hmem => ?_
    rcases List.mem_append.mp hmem with hmem | hmem
    · exact hl hmem
    · rw [← hopen, ← hstart.log] at hmem
      exact hl' hmem

/-- a run with all choices, on a host with a formatter that gives back what it is given -/
def Asked.sample : Asked where
  output := "db.ts"
  given := by decide
  docs := some false
  format := some true
  project := "/p"

/-- a session with a model and the directory of a project -/
def Asked.session : Session where
  host := { run := fun files _ bytes _ => (.finished 0 bytes [], files) }
  files := Files.plant ["p"] .directory
    (Files.plant ["m.json"] (.file (Text.toBytes "\x7b\"models\": []\x7d")) {})

/-- a request for the same run of a document, with the choices in words -/
def Asked.request (document : Json) : List (Text × Json) :=
  let options : List (Text × Json) := [("documentation", .text " NO "), ("format", .text "Yes")]
  let generator : List (Text × Json) :=
    [("output", .object [("value", .text "db.ts")]), ("config", .object options)]
  [("id", .int 1), ("method", .text "generate"),
    ("params", .object [("generator", .object generator), ("schemaPath", .text "/p/schema.prisma"),
      ("dmmf", document)])]

theorem Asked.asksFor_request (document : Json) :
    AsksFor (parameters (Asked.request document)) .sample document where
  schema := ⟨"/p/schema.prisma", rfl, by decide +kernel⟩
  document := rfl
  output := rfl
  config := by
    rintro v ⟨⟩
    rfl
  docs := show Flag.ofJson (.text " NO ") = some false by decide +kernel
  format := show Flag.ofJson (.text "Yes") = some true by decide +kernel

theorem generate_agrees_sample : ∃ bytes document, IsAccepted .sample "m.json" bytes Asked.session
    ∧ Run.document (Path.ofText "m.json") bytes = .ok document
    ∧ AsksFor (parameters (Asked.request document)) .sample document
    ∧ Agree .sample "m.json" none (Asked.request document) Asked.session := by
  have hh : Asked.session.host.Transforms := ⟨fun _ bytes _ => .finished 0 bytes [], fun _ _ _ _ => rfl⟩
  have hlog : Settings.Unlogged Asked.session (Path.ofText Asked.sample.project) :=
    fun _ _ _ _ => List.not_mem_nil
  have hentry {t : Text} {e : Option Entry}
      (h : (entryAt? Asked.session t).toOption.any (· == e) = true) : entryAt? Asked.session t = .ok e := by
    obtain ⟨e', h, he⟩ := exists_ok_of_any h
    rw [h, eq_of_beq he]
  have hcommand : IsAccepted .sample "m.json" (Text.toBytes "\x7b\"models\": []\x7d") Asked.session :=
    ⟨nofun, hentry (by decide +kernel), ⟨none, hentry (by decide +kernel), nofun⟩, hentry (by decide +kernel)⟩
  obtain ⟨document, hdocument, -⟩ := exists_ok_of_any
    (x := Run.document (Path.ofText "m.json") (Text.toBytes "\x7b\"models\": []\x7d"))
    (p := fun d => (d.get? "models").isSome) (by decide +kernel)
  have hasks := Asked.asksFor_request document
  exact ⟨_, document, hcommand, hdocument, hasks,
    generate_agrees hh hlog hcommand hdocument rfl hasks⟩

end DatabaseTypes
