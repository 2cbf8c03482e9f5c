import DatabaseTypes.Proofs.Blind
import DatabaseTypes.Proofs.Misshapen
import DatabaseTypes.Proofs.Path
import DatabaseTypes.Proofs.Run

/-!
# The faults of runs

Of all that can go wrong in a run two things are problems: that nothing says where the output goes, and that the
system refuses to write it.  A run ends with any other fault only because of its model, because of what a formatter
writes, because of a home directory that is not known, or because of a text or a path that has no bytes.

* `Action.Fails`            a step whose faults have a property
* `Files.Refusal`           the refusals of the system on the way to a path
* `Run.Faulted`             the faults of a run
* `Run.Call.fails_action`   a run has no others
-/

namespace DatabaseTypes

open Outcome

/-! ## steps -/

namespace Action

variable {α β : Type} {P Q : Fault → Prop}

/-- every fault of a step has a property -/
def Fails (P : Fault → Prop) (a : Action α) : Prop := ∀ s, Outcome.Fails P (a.run s).1

theorem fails_pure (x : α) : Fails P (pure x : Action α) := fun _ => .ok x

theorem fails_fail {f : Fault} (h : P f) : Fails P (fail f : Action α) := fun _ => .error h

theorem fails_lift {x : Except Fault α} (h : Outcome.Fails P x) : Fails P (lift x) := by
  intro s
  rw [run_lift]
  exact h

theorem fails_log {level : Level} {event : Text} {fields : List (Text × Json)} {logger : Option Text} :
    Fails P (log level event fields logger) := fun _ => .ok ()

theorem fails_get : Fails P (get : Action Session) := fun s => .ok s

theorem fails_modify (f : Session → Session) : Fails P (modify f : Action PUnit) := fun _ => .ok PUnit.unit

theorem fails_host : Fails P host := fun s => .ok s.host

theorem Fails.mono {a : Action α} (h : Fails P a) (hPQ : ∀ f, P f → Q f) : Fails Q a :=
  fun s => (h s).mono hPQ

theorem Fails.bind {a : Action α} {f : α → Action β} (ha : Fails P a) (hf : ∀ x, Fails P (f x)) :
    Fails P (a >>= f) := by
  intro s g hg
  rw [run_bind] at hg
  rcases hr : a.run s with ⟨e | x, s'⟩
  · rw [hr] at hg
    cases hg
    exact ha s _ (by rw [hr])
  · rw [hr] at hg
    exact hf x s' g hg

theorem Fails.forM {xs : List β} {f : β → Action Unit} (hf : ∀ x, Fails P (f x)) : Fails P (xs.forM f) := by
  induction xs with
  | nil => exact fails_pure _
  | cons x xs ih => exact (hf x).bind fun _ => ih

theorem Fails.thenAlways {a : Action α} (h : Fails P a) (after : Session → Session) :
    Fails P (a.thenAlways after) := fun s => h s

/-- refusals by the system become problems -/
theorem Fails.reporting {a : Action α} {problem : SystemFault → Problem} (h : Fails P a)
    (hsystem : ∀ f, P (.system f) → Q (.problem (problem f))) (hother : ∀ f, P f → (∀ g, f ≠ .system g) → Q f) :
    Fails Q (a.reporting problem) := by
  intro s g hg
  rw [run_reporting] at hg
  dsimp only at hg
  split at hg
  · rename_i f hf
    cases hg
    exact hsystem f (h s _ hf)
  · rename_i hnot
    exact hother g (h s g hg) fun f e => hnot f (by rw [hg, e])

end Action

/-! ## files -/

namespace Files

/-- the refusals on the way to a path: the system refuses it or a directory above it, or it has a name that no
operation takes -/
inductive Refusal (p : Path) : Fault → Prop
  | refused {cause : SystemCause} {q : Path} (hslashes : q.slashes = p.slashes) (hparts : q.parts <+: p.parts) :
    Refusal p (.system ⟨cause, q.text⟩)
  | unencodable {f : HalfFault} : Refusal p (.unencodable f)
  | null : Refusal p .nullInPath

theorem Refusal.of_parent {p : Path} {f : Fault} (h : Refusal p.parent f) : Refusal p f := by
  cases h with
  | refused hslashes hparts => exact .refused hslashes (hparts.trans (List.dropLast_prefix _))
  | unencodable => exact .unencodable
  | null => exact .null

theorem Refusal.not_problem {p : Path} {f : Fault} (h : Refusal p f) (problem : Problem) : f ≠ .problem problem := by
  rintro rfl
  cases h

theorem refusal_of_pathFault {p : Path} {f : Fault} (h : pathFault? p = some f) : Refusal p f := by
  unfold pathFault? nameFault? at h
  split at h
  · cases h
    exact .unencodable
  · split at h
    · cases h
      exact .null
    · cases h

theorem fails_refuse {α : Type} (p : Path) (cause : SystemCause) :
    Fails (Refusal p) (refuse p cause : Except Fault α) :=
  .error (.refused rfl (List.prefix_refl _))

theorem fails_holds (files : Files) (here : Location) (p : Path) (test : Entry → Bool) :
    Fails (Refusal p) (files.holds here p test) := by
  unfold holds
  split
  · exact .ok _
  · split
    · exact .ok _
    · exact .ok _
    · exact .ok _
    · exact fails_refuse p _

theorem fails_read (files : Files) (here : Location) (p : Path) :
    Fails (Refusal p) (files.read here p) := by
  unfold read
  split
  · exact .error (refusal_of_pathFault ‹_›)
  · split
    · exact .ok _
    · exact fails_refuse p _
    · exact fails_refuse p _

theorem fails_update (files : Files) (here : Location) (p : Path) (change : Bytes → Bytes) :
    Fails (Refusal p) (files.update here p change) := by
  unfold update
  split
  · exact .error (refusal_of_pathFault ‹_›)
  · split
    · exact fails_refuse p _
    · split
      · exact fails_refuse p _
      · exact .ok _
      · exact .ok _

theorem fails_makeDirectoriesFrom (here : Location) (depth : Nat) (files : Files) (p : Path) :
    Fails (Refusal p) (makeDirectoriesFrom here depth files p).2 := by
  have hensure (files : Files) (p : Path) (cause : SystemCause) :
      Fails (Refusal p) ((files.ensureDirectory here p cause).map fun _ => ()) := by
    refine Fails.map ((fails_holds _ _ _ _).bind fun there => ?_) _
    split
    · exact .ok _
    · exact fails_refuse p _
  induction depth generalizing files p with
  | zero =>
    unfold makeDirectoriesFrom
    split
    · exact .error (refusal_of_pathFault ‹_›)
    · split
      · exact .ok _
      · exact fails_refuse p _
      · exact hensure _ _ _
  | succ depth ih =>
    unfold makeDirectoriesFrom
    split
    · exact .error (refusal_of_pathFault ‹_›)
    · split
      · exact .ok _
      · split
        · exact fails_refuse p _
        · split
          · exact fails_refuse p _
          · have hparent := ih files p.parent
            rename_i above hdepth _
            cases hdepth
            split
            · rename_i hmade
              rw [hmade] at hparent
              exact hparent.mono fun _ => Refusal.of_parent
            · split
              · exact .ok _
              · exact fails_refuse p _
              · exact hensure _ _ _
      · exact hensure _ _ _

end Files

theorem Action.fails_makeDirectories (p : Path) : Fails (Files.Refusal p) (makeDirectories p) :=
  fun s => Files.fails_makeDirectoriesFrom s.host.here _ s.files p

theorem Action.fails_changeFiles {P : Fault → Prop} {change : Files → Except Fault Files}
    (h : ∀ files, Outcome.Fails P (change files)) : Fails P (changeFiles change) :=
  fails_get.bind fun s => (fails_lift (h s.files)).bind fun files => fails_modify fun _ => { s with files }

/-- the log is opened unless the system refuses the file of an output -/
theorem Action.fails_openLog (l : LogSettings) : Fails (fun f => ∃ p, Files.Refusal p f) (openLog l) := by
  have hsink (destination : Text) : Fails (fun f => ∃ p, Files.Refusal p f) (openSink destination) := by
    unfold openSink
    split
    · exact fails_pure _
    split
    · exact fails_pure _
    refine ((fails_makeDirectories _).mono fun f h => ⟨_, h⟩).bind fun _ => fails_get.bind fun s => ?_
    refine (fails_changeFiles fun files => (Files.fails_update _ _ _ _).mono fun f h => ⟨_, h⟩).bind fun _ => ?_
    split
    · exact fails_pure _
    · exact fails_pure _
  refine (fails_modify _).bind fun _ => Fails.forM fun o => (hsink _).bind fun sink => fails_modify _

namespace Run

/-! ## one run -/

/-- the faults of a run that are no problems: a model of another shape, texts and paths that have no bytes, bytes
that are no text, and home directories that are not known -/
def IsBreak (f : Fault) : Prop :=
  f.IsMisshapen ∨ match f with
    | .undecodable _ | .unencodable _ | .nullInPath | .homeless => True
    | _ => False

theorem IsBreak.not_problem {f : Fault} (h : IsBreak f) (p : Problem) : f ≠ .problem p := by
  rintro rfl
  rcases h with h | h <;> exact h

/-- the faults of writing to a path: a refusal that is reported, or a break -/
inductive WriteFaulted (path : Path) : Fault → Prop
  | refused {cause : SystemCause} {q : Path} (hslashes : q.slashes = path.slashes)
    (hparts : q.parts <+: path.parts) :
    WriteFaulted path (.problem (.writeFailed path.text (SystemFault.message ⟨cause, q.text⟩)))
  | broken {f : Fault} (h : IsBreak f) : WriteFaulted path f

theorem fails_write (text : Text) (path : Path) : Action.Fails (WriteFaulted path) (write text path) := by
  refine Action.fails_host.bind fun host => ?_
  refine Action.Fails.bind (Action.Fails.reporting (P := Files.Refusal path) ?_ ?_ ?_) fun _ =>
    Action.fails_log.bind fun _ => Action.fails_pure _
  · refine Action.Fails.bind ?_ fun _ => ?_
    · exact (Action.fails_makeDirectories path.parent).mono fun _ => Files.Refusal.of_parent
    · refine (Action.fails_changeFiles fun files => Files.fails_update _ _ _ _).bind fun _ => ?_
      refine (Action.fails_lift ?_).bind fun _ => Action.fails_pure _
      cases text.encoded with
      | ok bytes => exact .ok bytes
      | error f => exact .error .unencodable
  · intro f hf
    cases hf with
    | refused hslashes hparts => exact .refused hslashes hparts
  · intro f hf hnot
    cases hf with
    | refused => exact absurd rfl (hnot _)
    | unencodable => exact .broken (.inr trivial)
    | null => exact .broken (.inr trivial)

theorem isBreak_of_nameFault {t : Text} {f : Fault} (h : Files.nameFault? t = some f) : IsBreak f := by
  unfold Files.nameFault? at h
  split at h
  · cases h
    exact .inr trivial
  · split at h
    · cases h
      exact .inr trivial
    · cases h

end Run

namespace Formatter

theorem fails_decoded (bytes : Bytes) : Outcome.Fails Run.IsBreak (decoded bytes) := by
  unfold decoded
  split
  · exact .ok _
  · exact .error (.inr trivial)

theorem fails_ended (command : List Text) (output errors : Bytes) (trouble : Option Text) :
    Outcome.Fails Run.IsBreak (ended command output errors trouble) := by
  refine (fails_decoded _).bind fun _ => (fails_decoded _).bind fun _ => ?_
  split
  · exact .ok _
  · exact .ok _

theorem fails_result (command : List Text) (timeout : Binary64) (r : ProgramResult) :
    Outcome.Fails Run.IsBreak (result command timeout r) := by
  unfold result
  split
  · exact .ok _
  · exact .ok _
  · exact fails_ended _ _ _ _
  · exact fails_ended _ _ _ _

theorem fails_given (t : Text) (r : ProgramResult) : Outcome.Fails Run.IsBreak (given t r) := by
  unfold given
  split
  · exact .ok _
  · cases t.encoded with
    | ok bytes => exact .ok ()
    | error f => exact .error (.inr trivial)

theorem fails_taken (f : FormatterSettings) (t : Text) (r : ProgramResult) :
    Action.Fails Run.IsBreak (taken f t r) := by
  refine (Action.fails_lift (fails_result _ _ r)).bind fun text => ?_
  split
  · exact Action.fails_log.bind fun _ => Action.fails_pure _
  · split
    · exact Action.fails_log.bind fun _ => Action.fails_pure _
    · exact Action.fails_pure _

theorem fails_formatted (f : FormatterSettings) (t : Text) :
    Action.Fails Run.IsBreak (formatted f t) := by
  cases he : f.enabled with
  | false =>
    rw [formatted_disabled he]
    exact Action.fails_pure t
  | true =>
    intro s
    cases hname : f.command.findSome? Files.nameFault? with
    | some fault =>
      obtain ⟨name, _, hfault⟩ := List.exists_of_findSome?_eq_some hname
      rw [run_formatted_unnamed he hname]
      exact .error (Run.isBreak_of_nameFault hfault)
    | none =>
      rw [run_formatted_run he hname rfl]
      exact (Action.fails_lift (fails_given t _)).bind (fun _ =>
        (Action.fails_modify _).bind fun _ => fails_taken f t _) s

end Formatter

namespace Run

theorem fails_readSchema (datamodel : Json) : Action.Fails IsBreak (readSchema datamodel) := by
  refine (Action.Fails.forM fun _ => Action.fails_log).bind fun _ => ?_
  refine (Action.fails_lift ((Schema.fails_ofJson datamodel).mono fun _ => .inl)).bind fun _ => ?_
  exact Action.fails_log.bind fun _ => Action.fails_pure _

theorem fails_assemble (settings : Settings) (s : Schema) : Action.Fails IsBreak (assemble settings s) :=
  (Action.fails_lift ((Emission.fails_text _ s).mono fun _ => .inl)).bind fun _ =>
    Action.fails_log.bind fun _ => Action.fails_pure _

theorem fails_generateTo (path : Path) (datamodel : Json) (settings : Settings) :
    Action.Fails (WriteFaulted path) (generateTo path datamodel settings) := by
  refine ((fails_readSchema datamodel).mono fun _ => .broken).bind fun s => ?_
  refine ((fails_assemble settings s).mono fun _ => .broken).bind fun t => ?_
  refine ((Formatter.fails_formatted _ t).mono fun _ => .broken).bind fun text => ?_
  exact (fails_write text path).bind fun _ => Action.fails_log.bind fun _ => Action.fails_pure _

/-- the faults of a run: nothing says where its output goes, the system refuses to write it there, or the run
breaks -/
inductive Faulted (c : Call) (host : Host) : Fault → Prop
  | missing : Faulted c host (.problem (.settingMissing outputSetting))
  | refused {path q : Path} {cause : SystemCause} (hplace : resolved host c.output c.base = .ok path)
    (hslashes : q.slashes = path.slashes) (hparts : q.parts <+: path.parts) :
    Faulted c host (.problem (.writeFailed path.text (SystemFault.message ⟨cause, q.text⟩)))
  | broken {f : Fault} (h : IsBreak f) : Faulted c host f

/-- **The faults of a run** are two problems, and breaks. -/
theorem Call.fails_action (c : Call) (s : Session) : Outcome.Fails (Faulted c s.host) (c.action.run s).1 := by
  intro f hf
  unfold Call.action generate at hf
  rw [Action.run_bind] at hf
  have hdestination : (destination c.settings.generator.output c.base).run s
      = (resolved s.host c.output c.base, s) :=
    Action.run_lift _ s
  rw [hdestination] at hf
  cases hplace : resolved s.host c.output c.base with
  | error g =>
    rw [hplace] at hf
    cases hf
    unfold resolved at hplace
    split at hplace
    · cases hplace
      exact .missing
    · rcases bind_eq_error_iff.mp hplace with hexpanded | ⟨_, _, hpure⟩
      · rw [Path.homeless_of_expanded hexpanded]
        exact .broken (.inr trivial)
      · cases hpure
  | ok path =>
    rw [hplace] at hf
    have hto : Action.Fails (WriteFaulted path) (do
        let _ ← Action.setRunId
        (generateTo path c.datamodel c.settings).thenAlways fun s => { s with runId := none } : Action Summary) := by
      refine Action.Fails.bind ?_ fun _ => (fails_generateTo path _ _).thenAlways _
      exact fun s => .ok _
    cases hto s f hf with
    | refused hslashes hparts => exact .refused hplace hslashes hparts
    | broken h => exact .broken h

end Run

end DatabaseTypes
