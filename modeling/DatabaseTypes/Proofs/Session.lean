import DatabaseTypes.Proofs.Action
import DatabaseTypes.Proofs.Files

/-!
# What steps keep

A step is quiet if it changes nothing on the machine but what it says and the directories that it makes:
log messages go to the terminal and to the files that are open for them.

* `Log.files`          the files that are open for log messages
* `Session.Keeps`      a later session in which the machine is still the same
* `Action.Quiet`       a step that keeps the machine, whatever it ends with
* `Action.Standing`    a step that leaves every entry as it is
* `Action.standing_openLog`   opening the log is one
-/

namespace DatabaseTypes

/-- where the files are that are open for log messages -/
def Log.files (log : Log) : List Location :=
  log.routes.filterMap fun r => match r.sink with
    | .file l => some l
    | _ => none

namespace Session

/-- what a later session has kept: the machine, the log and, but for open log files, all regular files -/
structure Keeps (s s' : Session) : Prop where
  host : s'.host = s.host
  log : s'.log = s.log
  files : Files.Kept s.log.files s.files s'.files

theorem Keeps.refl (s : Session) : s.Keeps s := ⟨rfl, rfl, .refl _ _⟩

theorem Keeps.trans {s s' s'' : Session} (h : s.Keeps s') (h' : s'.Keeps s'') : s.Keeps s'' where
  host := h'.host.trans h.host
  log := h'.log.trans h.log
  files := h.files.trans (h.log ▸ h'.files)

/-- a message goes to the terminal, or to a file that is open for messages -/
theorem keeps_emit (s : Session) (line : Text) {sink : Sink}
    (h : ∀ l, sink = .file l → l ∈ s.log.files) : s.Keeps (s.emit line sink) := by
  unfold emit
  split
  · exact ⟨rfl, rfl, .refl _ _⟩
  · exact ⟨rfl, rfl, .refl _ _⟩
  · rename_i l bytes _
    refine ⟨rfl, rfl, (Files.kept_extend s.files l bytes).mono ?_⟩
    intro m hm
    rw [List.mem_singleton.mp hm]
    exact h l rfl
  all_goals exact .refl s

theorem mem_files {log : Log} {r : Route} (hr : r ∈ log.routes) {l : Location}
    (h : r.sink = .file l) : l ∈ log.files :=
  List.mem_filterMap.mpr ⟨r, hr, by rw [h]⟩

/-- what holds of a session holds after a log message, if it is kept by what is said to the terminal and to files
that are open for messages -/
theorem record_induction {P : Session → Prop} {s : Session} (m : Message) (hs : P s)
    (hemit : ∀ t line sink, P t → (∀ l, sink = .file l → l ∈ s.log.files) → P (t.emit line sink)) :
    P (s.record m) := by
  unfold record
  split
  · exact hs
  · dsimp only
    split
    · split
      · exact hemit s _ _ hs fun l h => by cases h
      · exact hs
    · refine List.foldlRecOn (motive := P) s.log.routes _ hs fun t ht r hr => ?_
      split
      · split
        · exact hemit t _ _ ht fun l hl => mem_files hr hl
        · exact ht
      · exact ht

theorem keeps_record (s : Session) (m : Message) : s.Keeps (s.record m) := by
  refine record_induction (P := s.Keeps) m (.refl s) fun t line sink ht hsink => ?_
  refine ht.trans (keeps_emit t line fun l hl => ?_)
  rw [ht.log]
  exact hsink l hl

/-- a later session on the same host, in which every entry is still there as it was -/
structure Stands (s s' : Session) : Prop where
  host : s'.host = s.host
  files : s.files.Grown s'.files

end Session

namespace Action

variable {α β : Type} {P : α → Prop} {Q : β → Prop}

/-- a step that keeps the machine, and gives values with a property if it gives any -/
def Quiet (a : Action α) (P : α → Prop) : Prop :=
  ∀ s, a.Leads s (fun x s' => s.Keeps s' ∧ P x) fun _ s' => s.Keeps s'

theorem Quiet.keeps {a : Action α} (h : Quiet a P) (s : Session) : s.Keeps (a.run s).2 := by
  obtain ⟨hok, herror⟩ := leads_iff.mp (h s)
  rcases hr : (a.run s).1 with f | x
  · exact herror f hr
  · exact (hok x hr).1

theorem quiet_pure {x : α} (h : P x) : Quiet (pure x) P := fun s => ⟨.refl s, h⟩

theorem quiet_log {level : Level} {event : Text} {fields : List (Text × Json)}
    {logger : Option Text} : Quiet (log level event fields logger) fun _ => True :=
  fun s => ⟨s.keeps_record _, trivial⟩

theorem quiet_lift {x : Except Fault α} : Quiet (lift x) fun a => x = .ok a :=
  fun s => leads_lift (fun _ h => ⟨.refl s, h⟩) fun _ _ => .refl s

theorem Quiet.bind {a : Action α} {f : α → Action β} (ha : Quiet a P)
    (hf : ∀ x, P x → Quiet (f x) Q) : Quiet (a >>= f) Q := by
  intro s
  rw [leads_bind]
  refine (ha s).mono (fun x s' h => ?_) fun _ _ h => h
  exact (hf x h.2 s').mono (fun y s'' h' => ⟨h.1.trans h'.1, h'.2⟩) fun _ _ h' => h.1.trans h'

theorem quiet_forM {xs : List β} {f : β → Action Unit} (hf : ∀ x, Quiet (f x) fun _ => True) :
    Quiet (xs.forM f) fun _ => True := by
  induction xs with
  | nil => exact quiet_pure trivial
  | cons x xs ih => exact (hf x).bind fun _ _ => ih

theorem quiet_makeDirectories (p : Path) : Quiet (makeDirectories p) fun _ => True := by
  intro s
  have hk : s.Keeps { s with files := (s.files.makeDirectories s.host.here p).1 } :=
    ⟨rfl, rfl, (Files.kept_makeDirectories s.files s.host.here p).mono (List.nil_subset _)⟩
  exact leads_iff.mpr ⟨fun _ _ => ⟨hk, trivial⟩, fun _ _ => hk⟩

/-! ## opening the log -/

/-- a step that leaves every entry as it is -/
def Standing (a : Action α) : Prop := ∀ s : Session, s.Stands (a.run s).2

theorem Standing.bind {a : Action α} {f : α → Action β} (ha : Standing a) (hf : ∀ x, Standing (f x)) :
    Standing (a >>= f) := by
  intro s
  have hs := ha s
  rw [run_bind]
  generalize a.run s = x at hs ⊢
  obtain ⟨e | x, s₁⟩ := x
  · exact hs
  · have hs' := hf x s₁
    exact ⟨hs'.host.trans hs.host, hs.files.trans hs'.files⟩

theorem standing_pure (x : α) : Standing (pure x) := fun s => ⟨rfl, .refl s.files⟩

theorem Standing.forM {xs : List β} {f : β → Action Unit} (hf : ∀ x, Standing (f x)) :
    Standing (xs.forM f) := by
  induction xs with
  | nil => exact standing_pure _
  | cons x xs ih => exact (hf x).bind fun _ => ih

theorem standing_openRoute (level : Level) (o : LogOutput) : Standing (openRoute level o) := by
  refine Standing.bind ?_ fun sink s => ⟨rfl, .refl s.files⟩
  unfold openSink
  split
  · exact standing_pure _
  split
  · exact standing_pure _
  refine Standing.bind (fun s => ⟨rfl, (Files.kept_makeDirectories _ _ _).grown⟩) fun _ => ?_
  refine Standing.bind (fun s => ⟨rfl, .refl s.files⟩) fun s₁ => Standing.bind (fun s => ?_) fun _ => ?_
  -- a file for messages that is not there yet is made, and one that is there gets nothing
  · rw [run_changeFiles]
    split
    · rename_i files hfiles
      exact ⟨rfl, Files.grown_append_nil hfiles⟩
    · exact ⟨rfl, .refl s.files⟩
  · split
    · exact standing_pure _
    · exact standing_pure _

theorem standing_openLog (l : LogSettings) : Standing (openLog l) :=
  Standing.bind (fun s => ⟨rfl, .refl s.files⟩) fun _ => .forM fun o => standing_openRoute l.level o

end Action
end DatabaseTypes
