import DatabaseTypes.Proofs.Command.Reported
import DatabaseTypes.Proofs.Run.Unformatted

/-!
# What the status of the command tells

Without formatting, and with a log that goes to the terminal, the command ends with zero exactly if its output was
written and can be told of.  If it ends otherwise, every regular file is what it was, unless the output was written and
cannot be told of, or has halves of surrogate pairs and leaves its file empty.

* `CommandLine.Undisturbed`   arguments that ask for no help, for no formatting and for no log file
* `CommandLine.Generated`     the types that were generated are in the file at the destination
* `CommandLine.Tells`         what the status tells
* `CommandLine.exit_tells`    it does so
* `not_tellable`              paths that cannot be told of
* `exit_misleads`             a run that writes its output to such a path
-/

namespace DatabaseTypes

open Outcome

/-! ## the status -/

namespace Session

/-- every regular file is what it was -/
def SameBytes (s s' : Session) : Prop := ∀ l, s'.files.bytesAt? l = s.files.bytesAt? l

/-- the file at a path holds a text, and every other regular file is what it was -/
def Replaced (path : Path) (text : Text) (s s' : Session) : Prop :=
  ∃ l, s'.files.locate s.host.here path = .ok l
    ∧ ∀ m, s'.files.bytesAt? m = if m = l then some text.toBytes else s.files.bytesAt? m

theorem Keeps.sameBytes {s s' : Session} (h : s.Keeps s') (hlog : s.log.files = []) : s.SameBytes s' :=
  fun l => h.files.bytes l (hlog ▸ List.not_mem_nil)

theorem Untouched.sameBytes {s s₁ s₂ s' : Session} (h : s.Untouched s₁) (h' : s₁.SameBytes s₂)
    (h'' : s₂.Untouched s') : s.SameBytes s' := by
  intro l
  rw [h''.files, h' l, h.files]

theorem Untouched.replaced {s s₁ s₂ s' : Session} (h : s.Untouched s₁) {path : Path} {text : Text} {l : Location}
    (hw : Run.Wrote path text l s₁ s₂) (h' : s₂.Untouched s') : s.Replaced path text s' := by
  refine ⟨l, ?_, fun m => ?_⟩
  · rw [h'.files, ← h.host]
    exact hw.locate
  · rw [h'.files, hw.bytes m (h.log ▸ List.not_mem_nil), h.files]

end Session

namespace CommandLine

/-- the status at the end of the program; it is one if the program ends with a fault -/
def exitStatus : Except Fault Rest → Nat
  | .ok (.finished n) => n
  | .ok .requests => 0
  | .error _ => 1

/-- what a run has done can be told -/
def Generate.Tellable (r : Run.Summary) (elapsed : Duration) : Prop :=
  ∃ t shown, summary r elapsed = .ok t ∧ Markup.shown (Status.line t "success" 0) = .ok shown

/-- the run that arguments ask for, and the session in which it is made -/
def Asks (args : List Text) (verbose : Bool) (s : Session) (c : Run.Call) (s₁ : Session) : Prop :=
  ∃ a, Accepts args s a ∧ (Generate.prepared a verbose).run s = (.ok c, s₁)

/-- arguments ask for a run, which has written the types that were generated -/
structure Generated (args : List Text) (verbose : Bool) (s : Session) (r : Run.Summary) (text : Text) (s' : Session) :
    Prop where
  run : ∃ c s₁ s₂, Asks args verbose s c s₁ ∧ c.action.run s₁ = (.ok r, s₂) ∧ c.place s.host = .ok r.destination
    ∧ generateTypes c.datamodel c.emission.documentation = .ok text
  written : s.Replaced r.destination text s'

/-- arguments do not ask for help, their run is not formatted, and its log goes to the terminal -/
structure Undisturbed (args : List Text) (s : Session) : Prop where
  unhelped : ∀ g, parsed Generate.names true args = .ok g → (g.options.any (·.1 == .help)) = false
  log : s.log.files = []
  settings : ∀ a settings, Accepts args s a →
    Settings.loadFrom s.host s.files (a.root s.host) (Generate.overrides a) = .ok settings →
      settings.formatting.enabled = false ∧ ∀ o ∈ settings.logging.outputs, o.destination = "stderr"

/-- what the status at the end tells -/
structure Tells (args : List Text) (verbose : Bool) (s : Session) (r : Except Fault Rest) (s' : Session) : Prop where
  /-- it is zero exactly if the types were written and that can be told -/
  zero_iff : exitStatus r = 0
    ↔ ∃ summary text, Generated args verbose s summary text s' ∧ Generate.Tellable summary s.host.elapsed
  /-- otherwise nothing was written, or it cannot be told, or the text has no bytes -/
  other : exitStatus r ≠ 0 → s.SameBytes s'
    ∨ (∃ summary text, Generated args verbose s summary text s' ∧ ¬ Generate.Tellable summary s.host.elapsed)
    ∨ ∃ c s₁ path text e, Asks args verbose s c s₁ ∧ c.place s.host = .ok path
      ∧ generateTypes c.datamodel c.emission.documentation = .ok text ∧ text.encoded = .error e ∧ s.Replaced path [] s'

namespace Generate

variable {a : Arguments} {verbose : Bool} {s : Session}

theorem still_toldOf (r : Except Fault Run.Summary) : Action.Still (toldOf r) := by
  unfold toldOf
  split
  · exact (Action.still_status _ _).bind fun _ => Action.still_pure _
  · exact fun s h => ⟨rfl, rfl, h⟩
  · exact Action.still_host.bind fun host => (Action.still_lift _).bind fun t =>
      (Action.still_status _ _).bind fun _ => Action.still_pure _

theorem toldOf_fault {f : Fault} (h : ∀ p, f ≠ .problem p) : toldOf (.error f) = throw f := by
  cases f with
  | problem p => exact absurd rfl (h p)
  | _ => rfl

/-- the status is zero only if a run has ended well and what it has done can be told -/
theorem tellable_of_toldOf {x : Except Fault Run.Summary} {s' : Session} (h : (toldOf x).run s = (.ok 0, s')) :
    ∃ r, x = .ok r ∧ Tellable r s.host.elapsed := by
  cases x with
  | error f =>
    by_cases hf : ∃ p, f = .problem p
    · obtain ⟨p, rfl⟩ := hf
      rw [toldOf_problem] at h
      obtain ⟨_, s₁, _, hdone⟩ := Action.run_bind_eq_ok_iff.mp h
      exact absurd (Except.ok.inj (Prod.mk.inj hdone).1) (by decide)
    · rw [toldOf_fault fun p e => hf ⟨p, e⟩] at h
      exact absurd (Prod.mk.inj h).1 nofun
  | ok r =>
    rw [toldOf_ok, Action.run_bind, Action.run_host] at h
    dsimp only at h
    rw [Action.run_bind, Action.run_lift] at h
    cases ht : summary r s.host.elapsed with
    | error f =>
      rw [ht] at h
      exact absurd (Prod.mk.inj h).1 nofun
    | ok t =>
      rw [ht] at h
      obtain ⟨_, s₁, hstatus, _⟩ := Action.run_bind_eq_ok_iff.mp h
      rw [run_status_eq] at hstatus
      cases hshown : Markup.shown (Status.line t "success" 0) with
      | error f =>
        rw [hshown] at hstatus
        exact absurd (Prod.mk.inj hstatus).1 nofun
      | ok shown => exact ⟨r, rfl, t, shown, ht, hshown⟩

theorem still_loadDatamodel (path : Path) : Action.Still (Run.loadDatamodel path) := by
  refine Action.Still.bind (fun s h => ⟨rfl, rfl, h⟩) fun s => (Action.still_lift _).bind fun there => ?_
  split
  · refine ((Action.still_lift _).reporting _).bind fun _ => (Action.still_lift _).bind fun document => ?_
    intro s h
    rw [Action.run_liftProblem]
    exact ⟨rfl, rfl, h⟩
  · exact fun s h => ⟨rfl, rfl, h⟩

theorem untouched_prepared (hs : s.log.files = [])
    (hlog : ∀ settings, Settings.loadFrom s.host s.files (a.root s.host) (overrides a) = .ok settings →
      ∀ o ∈ settings.logging.outputs, o.destination = "stderr") : s.Untouched ((prepared a verbose).run s).2 := by
  have hbind : (prepared a verbose).run s
      = (Settings.load (a.root s.host) (overrides a) >>= fun settings =>
        Action.openLog (logSettings settings verbose) >>= fun _ => Run.loadDatamodel a.model >>= fun datamodel =>
          pure { datamodel, settings, base := some (a.root s.host) }).run s := rfl
  rw [hbind, Action.run_bind, Settings.run_load]
  cases hsettings : Settings.loadFrom s.host s.files (a.root s.host) (overrides a) with
  | error f => exact ⟨rfl, rfl, hs⟩
  | ok settings =>
    have houtputs : (logSettings settings verbose).outputs = settings.logging.outputs := by
      unfold logSettings
      split <;> rfl
    refine ((Action.still_openLog (l := logSettings settings verbose) ?_).bind fun _ =>
      (still_loadDatamodel _).bind fun _ => Action.still_pure _) s hs
    rw [houtputs]
    exact hlog settings hsettings

/-- the run that is prepared is one for the settings that are loaded -/
theorem settings_of_prepared {c : Run.Call} {s₁ : Session} (h : (prepared a verbose).run s = (.ok c, s₁)) :
    Settings.loadFrom s.host s.files (a.root s.host) (overrides a) = .ok c.settings := by
  have hbind : (prepared a verbose).run s
      = (Settings.load (a.root s.host) (overrides a) >>= fun settings =>
        Action.openLog (logSettings settings verbose) >>= fun _ => Run.loadDatamodel a.model >>= fun datamodel =>
          pure { datamodel, settings, base := some (a.root s.host) }).run s := rfl
  rw [hbind] at h
  obtain ⟨settings, s₂, hload, h⟩ := Action.run_bind_eq_ok_iff.mp h
  obtain ⟨_, _, _, h⟩ := Action.run_bind_eq_ok_iff.mp h
  obtain ⟨datamodel, _, _, h⟩ := Action.run_bind_eq_ok_iff.mp h
  cases h
  rw [Settings.run_load] at hload
  exact (Prod.mk.inj hload).1

end Generate

section
variable {args : List Text} {verbose : Bool} {s s' : Session}

theorem Asks.unique {c c' : Run.Call} {s₁ s₁' : Session} (h : Asks args verbose s c s₁)
    (h' : Asks args verbose s c' s₁') : c = c' ∧ s₁ = s₁' := by
  obtain ⟨a, ha, hc⟩ := h
  obtain ⟨a', ha', hc'⟩ := h'
  rw [ha.unique ha', hc', Prod.mk.injEq, Except.ok.injEq] at hc
  exact ⟨hc.1.symm, hc.2.symm⟩

theorem exitStatus_map_eq_zero_iff {r : Except Fault Nat} : exitStatus (r.map .finished) = 0 ↔ r = .ok 0 := by
  cases r with
  | error f => exact ⟨nofun, nofun⟩
  | ok n => exact ⟨fun h => congrArg Except.ok h, fun h => Except.ok.inj h⟩

/-- a command that makes no run touches no file -/
theorem Tells.of_unasked {r : Except Fault Rest} (h : ∀ c s₁, ¬ Asks args verbose s c s₁) (hr : exitStatus r ≠ 0)
    (hs : s.SameBytes s') : Tells args verbose s r s' where
  zero_iff := ⟨fun e => absurd e hr, fun ⟨_, _, hg, _⟩ =>
    have ⟨c, s₁, _, hc, _⟩ := hg.run
    absurd hc (h c s₁)⟩
  other _ := .inl hs

/-- nothing but a run that has ended well makes the status zero -/
theorem exitStatus_toldOf_error {f : Fault} {s s' : Session} {r : Except Fault Nat}
    (h : (Generate.toldOf (.error f)).run s = (r, s')) : exitStatus (r.map .finished) ≠ 0 := by
  intro e
  rw [exitStatus_map_eq_zero_iff.mp e] at h
  obtain ⟨summary, hnot, _⟩ := Generate.tellable_of_toldOf h
  cases hnot

section
variable {a : Generate.Arguments} (ha : Accepts args s a) (h : Undisturbed args s)
include ha h

theorem untouched_of_prepared {x : Except Fault Run.Call} {s₁ : Session}
    (hc : (Generate.prepared a verbose).run s = (x, s₁)) : s.Untouched s₁ := by
  have hs : s.Untouched ((Generate.prepared a verbose).run s).2 :=
    Generate.untouched_prepared h.log fun settings hsettings => (h.settings a settings ha hsettings).2
  rwa [hc] at hs

/-- without a run nothing is written -/
theorem tells_unprepared {f : Fault} {s₁ : Session} (hc : (Generate.prepared a verbose).run s = (.error f, s₁)) :
    Tells args verbose s (((Generate.toldOf (.error f)).run s₁).1.map .finished)
      ((Generate.toldOf (.error f)).run s₁).2 := by
  have hs := untouched_of_prepared ha h hc
  refine .of_unasked ?_ (exitStatus_toldOf_error rfl)
    (hs.sameBytes (fun _ => rfl) (Generate.still_toldOf (.error f) s₁ hs.log))
  rintro c s₂ ⟨a', ha', hc'⟩
  rw [← ha.unique ha', hc] at hc'
  cases hc'

variable {c : Run.Call} {s₁ s₂ : Session} (hc : (Generate.prepared a verbose).run s = (.ok c, s₁))
include hc

theorem unformatted_of_prepared : c.settings.formatting.enabled = false :=
  (h.settings a c.settings ha (Generate.settings_of_prepared hc)).1

/-- a run that has failed has written nothing, or has emptied its file -/
theorem tells_failed {f : Fault} (hrun : c.action.run s₁ = (.error f, s₂)) :
    Tells args verbose s (((Generate.toldOf (.error f)).run s₂).1.map .finished)
      ((Generate.toldOf (.error f)).run s₂).2 := by
  have hs := untouched_of_prepared ha h hc
  have hkept := (Action.leads_iff.mp (Run.Call.leads_unformatted (unformatted_of_prepared ha h hc) s₁)).2
  rw [hrun] at hkept
  have hlog : s₂.log.files = [] := by
    rcases hkept f rfl with hk | ⟨_, _, _, _, _, _, _, hw⟩
    · rw [hk.log, hs.log]
    · rw [hw.log, hs.log]
  have hs' := Generate.still_toldOf (.error f) s₂ hlog
  refine ⟨⟨fun e => absurd e (exitStatus_toldOf_error rfl), fun ⟨_, _, hg, _⟩ => ?_⟩, fun _ => ?_⟩
  · obtain ⟨c', s₁', s₂', hc', hrun', _⟩ := hg.run
    obtain ⟨rfl, rfl⟩ := hc'.unique ⟨a, ha, hc⟩
    rw [hrun] at hrun'
    cases hrun'
  · rcases hkept f rfl with hk | ⟨path, hplace, text, e, l, hgenerated, hencoded, hw⟩
    · exact .inl (hs.sameBytes (hk.sameBytes hs.log) hs')
    · rw [hs.host] at hplace
      exact .inr (.inr ⟨c, s₁, path, text, e, ⟨a, ha, hc⟩, hplace, hgenerated, hencoded, hs.replaced hw hs'⟩)

variable {summary : Run.Summary} (hrun : c.action.run s₁ = (.ok summary, s₂))
include hrun

/-- a run that has ended well has written its output, whatever is told of it -/
theorem exists_generated : s₂.host = s.host ∧ s₂.log.files = [] ∧ ∃ text,
    Generated args verbose s summary text ((Generate.toldOf (.ok summary)).run s₂).2 := by
  have hs := untouched_of_prepared ha h hc
  have hwritten := (Action.leads_iff.mp (Run.Call.leads_unformatted (unformatted_of_prepared ha h hc) s₁)).1
  rw [hrun] at hwritten
  obtain ⟨hplace, text, hgenerated, l, hw⟩ := hwritten summary rfl
  have hlog : s₂.log.files = [] := by rw [hw.log, hs.log]
  rw [hs.host] at hplace
  exact ⟨hw.host.trans hs.host, hlog, text, ⟨c, s₁, s₂, ⟨a, ha, hc⟩, hrun, hplace, hgenerated⟩,
    hs.replaced hw (Generate.still_toldOf (.ok summary) s₂ hlog)⟩

theorem tells_done : Tells args verbose s (((Generate.toldOf (.ok summary)).run s₂).1.map .finished)
    ((Generate.toldOf (.ok summary)).run s₂).2 := by
  obtain ⟨hhost, _, text, hg⟩ := exists_generated ha h hc hrun
  have hzero : exitStatus (((Generate.toldOf (.ok summary)).run s₂).1.map .finished) = 0
      ↔ Generate.Tellable summary s.host.elapsed := by
    rw [exitStatus_map_eq_zero_iff, ← hhost]
    constructor
    · intro e
      obtain ⟨_, hsame, htell⟩ := Generate.tellable_of_toldOf (Prod.ext e rfl)
      cases hsame
      exact htell
    · rintro ⟨t, shown, ht, hshown⟩
      obtain ⟨s'', hs'', -⟩ := Generate.run_toldOf_ok ht hshown
      rw [hs'']
  refine ⟨⟨fun e => ⟨summary, text, hg, hzero.mp e⟩, fun ⟨summary', _, hg', htell⟩ => hzero.mpr ?_⟩, fun hne => ?_⟩
  · obtain ⟨c', s₁', s₂', hc', hrun', _⟩ := hg'.run
    obtain ⟨rfl, rfl⟩ := hc'.unique ⟨a, ha, hc⟩
    rw [hrun] at hrun'
    cases hrun'
    exact htell
  · exact .inr (.inl ⟨summary, text, hg, fun htell => hne (hzero.mpr htell)⟩)

end

theorem tells_perform {a : Generate.Arguments} (ha : Accepts args s a) (h : Undisturbed args s) :
    Tells args verbose s (((Generate.perform a verbose).run s).1.map .finished)
      ((Generate.perform a verbose).run s).2 := by
  rw [Generate.perform_eq, Action.run_bind, Action.run_outcome, Generate.generate_eq, Action.run_bind]
  rcases hc : (Generate.prepared a verbose).run s with ⟨f | c, s₁⟩
  · exact tells_unprepared ha h hc
  dsimp only
  rcases hrun : c.action.run s₁ with ⟨f | summary, s₂⟩
  · exact tells_failed ha h hc hrun
  · exact tells_done ha h hc hrun

end

/-- **The status tells what became of the output** of the command, whatever its arguments are, if its run is not
formatted and its log goes to the terminal. -/
theorem exit_tells {args : List Text} {s : Session} (h : Undisturbed args s) (verbose : Bool) :
    Tells args verbose s ((perform .generate args verbose).run s).1 ((perform .generate args verbose).run s).2 := by
  have hp := performs args verbose s
  generalize (perform .generate args verbose).run s = p at hp ⊢
  have hnothing (hnone : ∀ a, ¬ Accepts args s a) (c : Run.Call) (s₁ : Session) : ¬ Asks args verbose s c s₁ :=
    fun ⟨a, ha, _⟩ => hnone a ha
  cases hp with
  | helped hg hhelp =>
    rw [h.unhelped _ hg] at hhelp
    cases hhelp
  | refused hnone => exact .of_unasked (hnothing hnone) nofun fun _ => rfl
  | unnamed hnone => exact .of_unasked (hnothing hnone) nofun fun _ => rfl
  | accepted ha => exact tells_perform ha h

end CommandLine

/-! ## a path that cannot be told of -/

open CommandLine

/-- nothing can be told of a run if its output goes to a path in which a closing tag without a name comes before any
other tag -/
theorem not_tellable {r : Run.Summary} {before rest : Text}
    (h : r.destination.text = before ++ '[' :: '/' :: ']' :: rest) (hb : '[' ∉ before) (hb' : '\\' ∉ before)
    (elapsed : Duration) : ¬ Generate.Tellable r elapsed := by
  rintro ⟨t, shown, ht, hshown⟩
  obtain ⟨e, _, ht⟩ := bind_eq_ok_iff.mp ht
  have hwrote : '[' ∉ "Wrote " ++ before ∧ '\\' ∉ "Wrote " ++ before :=
    ⟨fun hm => (List.mem_append.mp hm).elim (by decide) hb, fun hm => (List.mem_append.mp hm).elim (by decide) hb'⟩
  have hsign : '✓' ≠ '[' ∧ '✓' ≠ '\\' := by decide
  have ht := Except.ok.inj ht
  rw [h] at ht
  dsimp only at ht
  generalize Text.joined ", " _ = counts at ht
  have htext : t = ("Wrote " ++ before) ++ '[' :: '/' :: ']' :: (rest ++ (" (" ++ (counts ++ [')']))) := by
    rw [← ht]
    simp only [List.append_assoc, List.cons_append]
  have hline : Status.line t "success" 0 = Markup.signed "green" '✓' t := rfl
  obtain ⟨position, hunopened⟩ := Markup.isPaired_green.shown_unopened hsign.1 hsign.2 hwrote.1 hwrote.2
    (rest ++ (" (" ++ (counts ++ [')'])))
  rw [hline, htext, hunopened] at hshown
  cases hshown

/-- what is asked for is neither formatted nor logged to a file -/
theorem Asked.undisturbed {a : Asked} {model : Text} (h : a.acceptable model = true)
    (hsettings : a.settled model (fun settings => !settings.formatting.enabled
      && settings.logging.outputs.all fun o => o.destination == "stderr") = true) :
    Undisturbed (argumentsFor a "m.json") (onTerminal (Asked.sessionOf model)) where
  unhelped g hg := by
    obtain ⟨g', hg', hhelp, _⟩ := Asked.accepts h
    cases hg.symm.trans hg'
    exact hhelp
  log := rfl
  settings a' settings ha hloaded := by
    rw [ha.unique (Asked.accepts h)] at hloaded
    obtain ⟨settings', hok, hplain⟩ := exists_ok_of_any hsettings
    obtain rfl : settings = settings' := Except.ok.inj (hloaded.symm.trans hok)
    rw [Bool.and_eq_true, Bool.not_eq_true', List.all_eq_true] at hplain
    exact ⟨hplain.1, fun o ho => eq_of_beq (hplain.2 o ho)⟩

/-- a run whose output goes to a path that reads like a closing tag -/
def Asked.tagged : Asked where
  output := "[/].ts"
  given := by decide
  project := "/p"

theorem exit_tells_sample : Undisturbed (argumentsFor .tagged "m.json") (onTerminal (Asked.sessionOf Asked.emptyModel))
    ∧ Tells (argumentsFor .tagged "m.json") false (onTerminal (Asked.sessionOf Asked.emptyModel))
      ((perform .generate (argumentsFor .tagged "m.json") false).run (onTerminal (Asked.sessionOf Asked.emptyModel))).1
      ((perform .generate (argumentsFor .tagged "m.json") false).run
        (onTerminal (Asked.sessionOf Asked.emptyModel))).2 := by
  have h : Undisturbed (argumentsFor .tagged "m.json") (onTerminal (Asked.sessionOf Asked.emptyModel)) :=
    Asked.undisturbed (by decide +kernel) (by decide +kernel)
  exact ⟨h, exit_tells h false⟩

theorem Files.mem_of_bytesAt? {files : Files} {l : Location} {bytes : Bytes} (h : files.bytesAt? l = some bytes) :
    ∃ m, (m, Entry.file bytes) ∈ files.entries := by
  unfold bytesAt? find? at h
  split at h
  · rename_i found hfound
    cases h
    split at hfound
    · cases hfound
    · obtain ⟨e, he, hentry⟩ := Option.map_eq_some_iff.mp hfound
      exact ⟨e.1, by rw [← hentry]; exact List.mem_of_find?_eq_some he⟩
  · cases h

/-- its model is the only file of the session -/
theorem Asked.bytes_emptyModel {l : Location} {bytes : Bytes}
    (h : (l, Entry.file bytes) ∈ (Asked.sessionOf Asked.emptyModel).files.entries) :
    bytes = Asked.emptyModel.toBytes := by
  have hfiles : ((Asked.sessionOf Asked.emptyModel).files.entries.all fun e =>
      decide (e.2 = .directory ∨ e.2 = .file Asked.emptyModel.toBytes)) = true := by decide +kernel
  obtain hdirectory | hfile := of_decide_eq_true (List.all_eq_true.mp hfiles _ h)
  · cases hdirectory
  · exact Entry.file.inj hfile

/-- the path that the output goes to -/
def Asked.taggedPath : Path := ⟨1, ["p", "[", "].ts"]⟩

theorem Asked.isWritable_taggedPath :
    Run.IsWritable Asked.taggedPath Asked.session.host (Asked.sessionOf Asked.emptyModel).files := by
  obtain ⟨_, hmade, -⟩ := exists_ok_of_any
    (x := ((Asked.sessionOf Asked.emptyModel).files.makeDirectories Asked.session.host.here Asked.taggedPath.parent).2)
    (p := fun _ => true) (by decide +kernel)
  obtain ⟨l, hl, hnone⟩ := exists_ok_of_any
    (x := ((Asked.sessionOf Asked.emptyModel).files.makeDirectories Asked.session.host.here
      Asked.taggedPath.parent).1.locate Asked.session.host.here Asked.taggedPath)
    (p := fun l => (((Asked.sessionOf Asked.emptyModel).files.makeDirectories Asked.session.host.here
      Asked.taggedPath.parent).1.find? l).isNone) (by decide +kernel)
  exact ⟨by decide +kernel, _, l, Prod.ext rfl hmade, hl, Option.isNone_iff_eq_none.mp hnone⟩

/-- a run that writes its output there -/
theorem Asked.exists_run_tagged : ∃ c s₁ r s₂ text,
    (Generate.prepared (told .tagged "m.json") false).run (onTerminal (Asked.sessionOf Asked.emptyModel)) = (.ok c, s₁)
      ∧ c.action.run s₁ = (.ok r, s₂) ∧ c.place Asked.session.host = .ok Asked.taggedPath
      ∧ generateTypes c.datamodel c.emission.documentation = .ok text ∧ text.toBytes.head? = some 10 := by
  have hacceptable : Asked.acceptable .tagged Asked.emptyModel = true := by decide +kernel
  have hundisturbed := Asked.undisturbed hacceptable (by decide +kernel)
  obtain ⟨c, hc, hcall⟩ := exists_ok_of_any
    (x := ((Generate.prepared (told .tagged "m.json") false).run (onTerminal (Asked.sessionOf Asked.emptyModel))).1)
    (p := fun c => (c.datamodel.chars.all fun x => !isHalf x)
      && ((generateTypes c.datamodel c.emission.documentation).toOption.any fun t => t.toBytes.head? == some 10)
      && (c.place Asked.session.host).toOption.any (· == Asked.taggedPath)) (by decide +kernel)
  simp only [Bool.and_eq_true] at hcall
  obtain ⟨⟨hwhole, htypes⟩, hplace⟩ := hcall
  obtain ⟨text, ht, hhead⟩ := exists_ok_of_any htypes
  obtain ⟨path, hpath, htagged⟩ := exists_ok_of_any hplace
  rw [eq_of_beq htagged] at hpath
  have hencoded := encoded_generateTypes ht fun x hx => by
    have := List.all_eq_true.mp hwhole x hx
    rwa [Bool.not_eq_true'] at this
  rcases hp : (Generate.prepared (told .tagged "m.json") false).run (onTerminal (Asked.sessionOf Asked.emptyModel))
    with ⟨x, s₁⟩
  rw [hp] at hc
  obtain rfl : x = .ok c := hc
  have hs := untouched_of_prepared (Asked.accepts hacceptable) hundisturbed hp
  obtain ⟨r, s₂, hrun⟩ := Run.Call.exists_run
    (unformatted_of_prepared (Asked.accepts hacceptable) hundisturbed hp) hs.log ht hencoded
    (by rw [hs.host]; exact hpath) (by rw [hs.host, hs.files]; exact Asked.isWritable_taggedPath)
  exact ⟨c, s₁, r, s₂, text, rfl, hrun, hpath, ht, eq_of_beq hhead⟩

/-- a run that can be told nothing of, though it writes its output -/
theorem exit_misleads : ¬ ∀ args verbose s, Undisturbed args s →
    exitStatus ((perform .generate args verbose).run s).1 ≠ 0 →
      s.SameBytes ((perform .generate args verbose).run s).2 := by
  intro h
  have hacceptable : Asked.acceptable .tagged Asked.emptyModel = true := by decide +kernel
  have hundisturbed := Asked.undisturbed hacceptable (by decide +kernel)
  have haccepts := Asked.accepts hacceptable
  obtain ⟨c, s₁, r, s₂, text, hp, hrun, hplace, ht, hhead⟩ := Asked.exists_run_tagged
  obtain ⟨_, _, _, hg⟩ := exists_generated haccepts hundisturbed hp hrun
  have htells := tells_done haccepts hundisturbed hp hrun
  have hperform : (perform .generate (argumentsFor .tagged "m.json") false).run
      (onTerminal (Asked.sessionOf Asked.emptyModel))
        = (((Generate.toldOf (.ok r)).run s₂).1.map .finished, ((Generate.toldOf (.ok r)).run s₂).2) := by
    rw [run_perform_of_accepts haccepts, Generate.perform_eq, Action.run_bind, Action.run_outcome,
      Generate.generate_eq, Action.run_bind, hp]
    dsimp only
    rw [hrun]
  have hsame {summary : Run.Summary} {text' : Text} {s' : Session} (hg : Generated (argumentsFor .tagged "m.json") false
      (onTerminal (Asked.sessionOf Asked.emptyModel)) summary text' s') :
      summary.destination = Asked.taggedPath ∧ text' = text := by
    obtain ⟨c', s₁', _, hc', _, hplace', ht'⟩ := hg.run
    obtain ⟨rfl, rfl⟩ := hc'.unique ⟨_, haccepts, hp⟩
    exact ⟨Except.ok.inj (hplace'.symm.trans hplace), Except.ok.inj (ht'.symm.trans ht)⟩
  -- nothing can be told of it, so that the status is not zero
  have hbytes := h _ false _ hundisturbed fun e => by
    rw [hperform] at e
    obtain ⟨summary, _, hg', htell⟩ := htells.zero_iff.mp e
    have htext : summary.destination.text = "/p/" ++ '[' :: '/' :: ']' :: ".ts" := by
      rw [(hsame hg').1]
      rfl
    exact not_tellable htext (by decide) (by decide) _ htell
  rw [hperform] at hbytes
  -- but there was no file before that begins as the output does
  obtain ⟨l, _, hl⟩ := hg.written
  have hfile := hbytes l
  rw [hl, if_pos rfl, (hsame hg).2] at hfile
  obtain ⟨m, hm⟩ := Files.mem_of_bytesAt? hfile.symm
  rw [Asked.bytes_emptyModel hm] at hhead
  exact absurd hhead (by decide +kernel)

end DatabaseTypes
