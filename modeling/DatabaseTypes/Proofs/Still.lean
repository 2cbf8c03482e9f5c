import DatabaseTypes.Proofs.Blind
import DatabaseTypes.Proofs.Run
import DatabaseTypes.Status

/-!
# Steps that leave things as they are

A step can change files, the log and what is said, but not the host that the session is on.  As long as the log goes
to the terminal, most steps leave the files as they are too.

* `Action.Rests`              a step that leaves the host as it is, however it ends
* `Run.Call.rests_action`     a run is one
* `Session.Untouched`   a later session with the same host and the same files
* `Action.Still`        a step that touches no file, however it ends
* `Action.Passes`       a step that ends well with a value besides
* `Action.still_openLog`, `Action.still_status`   opening a log on the terminal, and writing a status line
-/

namespace DatabaseTypes

/-! ## the host -/

namespace Action

variable {α β : Type}

/-- a step that leaves the host as it is, however it ends -/
def Rests (a : Action α) : Prop := ∀ s, (a.run s).2.host = s.host

theorem Quiet.rests {P : α → Prop} {a : Action α} (h : Quiet a P) : Rests a := fun s => (h.keeps s).host

theorem Standing.rests {a : Action α} (h : Standing a) : Rests a := fun s => (h s).host

theorem rests_pure (x : α) : Rests (pure x) := fun _ => rfl

theorem rests_lift (x : Except Fault α) : Rests (lift x) := fun s => by rw [run_lift]

theorem rests_modify {f : Session → Session} (h : ∀ s, (f s).host = s.host) : Rests (modify f : Action PUnit) := h

theorem Rests.bind {a : Action α} {f : α → Action β} (ha : Rests a) (hf : ∀ x, Rests (f x)) :
    Rests (a >>= f) := by
  intro s
  have hs := ha s
  rw [run_bind]
  generalize a.run s = x at hs ⊢
  obtain ⟨e | x, s₁⟩ := x
  · exact hs
  · exact (hf x s₁).trans hs

theorem Rests.reporting {a : Action α} (h : Rests a) (problem : SystemFault → Problem) :
    Rests (a.reporting problem) := fun s => by rw [run_reporting]; exact h s

theorem rests_changeFiles (change : Files → Except Fault Files) : Rests (changeFiles change) := by
  intro s
  rw [run_changeFiles]
  split <;> rfl

end Action

namespace Formatter

theorem rests_taken (f : FormatterSettings) (t : Text) (r : ProgramResult) : Action.Rests (taken f t r) := by
  refine (Action.rests_lift _).bind fun outcome => ?_
  cases outcome with
  | error failure => exact Action.quiet_log.rests.bind fun _ => Action.rests_pure _
  | ok text =>
    dsimp only
    split
    · exact Action.quiet_log.rests.bind fun _ => Action.rests_pure _
    · exact Action.rests_pure _

theorem rests_formatted (f : FormatterSettings) (t : Text) : Action.Rests (formatted f t) := by
  cases he : f.enabled with
  | false =>
    rw [formatted_disabled he]
    exact Action.rests_pure t
  | true =>
    intro s
    cases hname : f.command.findSome? Files.nameFault? with
    | some fault => rw [run_formatted_unnamed he hname]
    | none =>
      have hfiles (files : Files) : Action.Rests (modify fun s : Session => s.withFiles files) :=
        Action.rests_modify fun _ => rfl
      rw [run_formatted_run he hname rfl]
      exact (Action.rests_lift _).bind (fun _ => (hfiles _).bind fun _ => rests_taken f t _) s

end Formatter

namespace Run

theorem rests_write (text : Text) (path : Path) : Action.Rests (write text path) := by
  refine Action.Rests.bind (fun _ => rfl) fun host => ?_
  refine Action.Rests.bind (Action.Rests.reporting ?_ _) fun _ =>
    Action.quiet_log.rests.bind fun _ => Action.rests_pure _
  exact (Action.quiet_makeDirectories _).rests.bind fun _ =>
    (Action.rests_changeFiles _).bind fun _ => (Action.rests_lift _).bind fun _ => Action.rests_pure _

theorem rests_generateTo (path : Path) (datamodel : Json) (settings : Settings) :
    Action.Rests (generateTo path datamodel settings) := by
  refine (quiet_readSchema datamodel).rests.bind fun s => (quiet_assemble settings s).rests.bind fun t => ?_
  refine (Formatter.rests_formatted _ t).bind fun text => (rests_write text path).bind fun _ => ?_
  exact Action.quiet_log.rests.bind fun _ => Action.rests_pure _

/-- a run leaves the host as it is -/
theorem Call.rests_action (c : Call) : Action.Rests c.action := by
  have hdestination : Action.Rests (destination c.settings.generator.output c.base) :=
    Action.Rests.bind (fun _ => rfl) fun host => Action.rests_lift _
  refine hdestination.bind fun path => ?_
  exact Action.Rests.bind (fun _ => rfl) fun _ => fun s => rests_generateTo path c.datamodel c.settings s

end Run

/-! ## the files -/

/-- a later session with the same host and the same files, in which no file is open for log messages -/
structure Session.Untouched (s s' : Session) : Prop where
  host : s'.host = s.host
  files : s'.files = s.files
  log : s'.log.files = []

theorem Session.Untouched.trans {s s' s'' : Session} (h : s.Untouched s') (h' : s'.Untouched s'') :
    s.Untouched s'' := ⟨h'.host.trans h.host, h'.files.trans h.files, h'.log⟩

namespace Action

variable {α β : Type}

/-- a step that touches no file if the log goes to the terminal, however it ends -/
def Still (a : Action α) : Prop := ∀ s : Session, s.log.files = [] → s.Untouched (a.run s).2

theorem still_pure (x : α) : Still (pure x) := fun _ h => ⟨rfl, rfl, h⟩

theorem still_lift (x : Except Fault α) : Still (lift x) := by
  intro s h
  rw [run_lift]
  exact ⟨rfl, rfl, h⟩

theorem still_host : Still host := fun _ h => ⟨rfl, rfl, h⟩

theorem still_log {level : Level} {event : Text} {fields : List (Text × Json)} {logger : Option Text} :
    Still (log level event fields logger) := by
  intro s h
  rw [run_log]
  -- a message goes to no file, for no file is open
  refine Session.record_induction (P := s.Untouched) _ ⟨rfl, rfl, h⟩ fun t line sink ht hsink => ?_
  refine ht.trans ?_
  unfold Session.emit
  split
  · exact ⟨rfl, rfl, ht.log⟩
  · exact ⟨rfl, rfl, ht.log⟩
  · have hl := hsink _ rfl
    rw [h] at hl
    cases hl
  all_goals exact ⟨rfl, rfl, ht.log⟩

theorem Still.bind {a : Action α} {f : α → Action β} (ha : Still a) (hf : ∀ x, Still (f x)) : Still (a >>= f) := by
  intro s h
  have hs := ha s h
  rw [run_bind]
  generalize a.run s = x at hs ⊢
  obtain ⟨e | x, s₁⟩ := x
  · exact hs
  · exact hs.trans (hf x s₁ hs.log)

theorem Still.forM {xs : List β} {f : β → Action Unit} (hf : ∀ x ∈ xs, Still (f x)) : Still (xs.forM f) := by
  induction xs with
  | nil => exact still_pure _
  | cons x xs ih =>
    exact (hf x List.mem_cons_self).bind fun _ => ih fun y hy => hf y (List.mem_cons_of_mem _ hy)

theorem Still.reporting {a : Action α} (h : Still a) (problem : SystemFault → Problem) :
    Still (a.reporting problem) := fun s hs => by rw [run_reporting]; exact h s hs

theorem still_status (message style : Text) : Still (status message style) := by
  have hcomplain (t : Text) : Still (modify fun s : Session => s.complained t) := fun s h => ⟨rfl, rfl, h⟩
  exact (still_lift _).bind fun shown => (hcomplain _).bind fun _ => still_log

/-- a log whose outputs are the messages of the terminal -/
theorem still_openLog {l : LogSettings} (h : ∀ o ∈ l.outputs, o.destination = "stderr") : Still (openLog l) := by
  refine Still.bind (fun s _ => ⟨rfl, rfl, rfl⟩) fun _ => Still.forM fun o ho => ?_
  have hsink : openSink o.destination = pure .errors := by
    unfold openSink
    rw [h o ho, if_pos rfl]
  unfold openRoute
  rw [hsink]
  intro s hs
  refine ⟨rfl, rfl, ?_⟩
  show Log.files { s.log with routes := s.log.routes ++ [_] } = []
  unfold Log.files at hs ⊢
  rw [List.filterMap_append, hs]
  rfl

/-- a step that ends well with a value and touches no file, if the log goes to the terminal -/
def Passes (a : Action α) (x : α) : Prop :=
  ∀ s : Session, s.log.files = [] → ∃ s', a.run s = (.ok x, s') ∧ s.Untouched s'

theorem passes_pure (x : α) : Passes (pure x) x := fun s h => ⟨s, rfl, rfl, rfl, h⟩

theorem passes_lift {x : Except Fault α} {v : α} (h : x = .ok v) : Passes (lift x) v := by
  rw [h]
  exact passes_pure v

theorem passes_log {level : Level} {event : Text} {fields : List (Text × Json)} {logger : Option Text} :
    Passes (log level event fields logger) () := fun s h => ⟨_, rfl, still_log s h⟩

theorem Passes.bind {a : Action α} {f : α → Action β} {x : α} {y : β} (ha : Passes a x) (hf : Passes (f x) y) :
    Passes (a >>= f) y := by
  intro s h
  obtain ⟨s₁, hrun, h₁⟩ := ha s h
  obtain ⟨s₂, hrun', h₂⟩ := hf s₁ h₁.log
  exact ⟨s₂, run_bind_eq_ok_iff.mpr ⟨x, s₁, hrun, hrun'⟩, h₁.trans h₂⟩

theorem Passes.forM {xs : List β} {f : β → Action Unit} (hf : ∀ x, Passes (f x) ()) : Passes (xs.forM f) () := by
  induction xs with
  | nil => exact passes_pure ()
  | cons x xs ih => exact (hf x).bind ih

end Action

end DatabaseTypes
