import DatabaseTypes.Proofs.Blind

/-!
# Formatters that fail

A formatter that cannot be started, is stopped, does not end with success or writes nothing of use is made up for by the
built-in style.  A run does not end well in three cases all the same: the command has a part that no program can be
given, the program has begun but the text has no bytes, or the program has written bytes that are no text, on either of
its outputs and however it ended.

* `Formatter.chosen`   the text that is taken
* `Formatter.Smooth`   none of the three cases
* `Formatter.Breaks`   the fault of each of them
* `Formatter.formatted_eq_ok_iff`   when formatting gives a text, which one, and what comes of it otherwise
-/

namespace DatabaseTypes

/-- has a program begun? -/
def ProgramResult.hasBegun : ProgramResult → Bool
  | .notStarted _ => false
  | _ => true

/-- what is read of a program that has ended: its output and its errors -/
def ProgramResult.written : ProgramResult → List Bytes
  | .finished _ output errors | .killed _ output errors => [output, errors]
  | .timedOut | .notStarted _ => []

namespace Formatter

/-- the text that is taken: what a program wrote that ended with success, unless it is blank, and the text in the built-in
style in every other case -/
def chosen (t : Text) : ProgramResult → Text
  | .finished 0 output _ =>
    match decoded output with
    | .ok u => if u.allBlank then Style.tidied t else u
    | .error _ => Style.tidied t
  | _ => Style.tidied t

/-- nothing is in the way of a formatting pass -/
structure Smooth (f : FormatterSettings) (t : Text) (r : ProgramResult) : Prop where
  named : ∀ part ∈ f.command, Files.nameFault? part = none
  given : r.hasBegun = true → ∃ bytes, t.encoded = .ok bytes
  written : ∀ bytes ∈ r.written, ∃ u, Text.ofBytes bytes = .ok u

/-- what is in the way of a formatting pass -/
inductive Breaks (f : FormatterSettings) (t : Text) (r : ProgramResult) : Fault → Prop
  | named {part : Text} {fault : Fault} (hp : part ∈ f.command) (h : Files.nameFault? part = some fault) :
    Breaks f t r fault
  | given {e : HalfFault} (hr : r.hasBegun = true) (h : t.encoded = .error e) : Breaks f t r (.unencodable e)
  | written {bytes : Bytes} {e : Utf8Fault} (hb : bytes ∈ r.written) (h : Text.ofBytes bytes = .error e) :
    Breaks f t r (.undecodable e)

theorem Breaks.not_smooth {f : FormatterSettings} {t : Text} {r : ProgramResult} {fault : Fault}
    (h : Breaks f t r fault) : ¬ Smooth f t r := by
  intro hs
  cases h with
  | named hp h =>
    rw [hs.named _ hp] at h
    cases h
  | given hr h =>
    obtain ⟨bytes, hb⟩ := hs.given hr
    rw [hb] at h
    cases h
  | written hb h =>
    obtain ⟨u, hu⟩ := hs.written _ hb
    rw [hu] at h
    cases h

/-! ## what a program has written -/

theorem exists_decoded_iff {bytes : Bytes} : (∃ u, decoded bytes = .ok u) ↔ ∃ u, Text.ofBytes bytes = .ok u := by
  unfold decoded
  cases Text.ofBytes bytes with
  | ok u => exact Iff.intro (fun _ => ⟨u, rfl⟩) fun _ => ⟨_, rfl⟩
  | error e => exact Iff.intro (fun ⟨_, h⟩ => by cases h) fun ⟨_, h⟩ => by cases h

theorem exists_of_decoded {bytes : Bytes} {fault : Fault} (h : decoded bytes = .error fault) :
    ∃ e, Text.ofBytes bytes = .error e ∧ fault = .undecodable e := by
  unfold decoded at h
  split at h
  · cases h
  · rename_i e he
    cases h
    exact ⟨e, he, rfl⟩

/-- a program that has ended: one of its outputs is no text, or both are read -/
theorem ended_cases (command : List Text) (output errors : Bytes) (trouble : Option Text) :
    (∃ bytes ∈ [output, errors], ∃ e, Text.ofBytes bytes = .error e
      ∧ ended command output errors trouble = .error (.undecodable e))
    ∨ ∃ u x, decoded output = .ok u ∧ (∃ said, decoded errors = .ok said)
      ∧ ended command output errors trouble = .ok x ∧ match trouble with
        | none => x = .ok u
        | some _ => ∃ failure, x = .error failure := by
  unfold ended
  cases ho : decoded output with
  | error fault =>
    obtain ⟨e, he, rfl⟩ := exists_of_decoded ho
    exact .inl ⟨output, List.mem_cons_self, e, he, rfl⟩
  | ok u =>
    cases hs : decoded errors with
    | error fault =>
      obtain ⟨e, he, rfl⟩ := exists_of_decoded hs
      exact .inl ⟨errors, List.mem_cons_of_mem _ List.mem_cons_self, e, he, rfl⟩
    | ok said =>
      cases trouble with
      | none => exact .inr ⟨u, _, rfl, ⟨said, rfl⟩, rfl, rfl⟩
      | some how => exact .inr ⟨u, _, rfl, ⟨said, rfl⟩, rfl, _, rfl⟩

/-! ## formatting -/

/-- a program that has begun is given the bytes of the text, if it has any -/
theorem given_cases (t : Text) (r : ProgramResult) :
    (given t r = .ok () ∧ (r.hasBegun = true → ∃ bytes, t.encoded = .ok bytes))
    ∨ r.hasBegun = true ∧ ∃ e, t.encoded = .error e ∧ given t r = .error (.unencodable e) := by
  have hbegun : (t.encoded.mapError Fault.unencodable).map (fun _ => ()) = .ok ()
        ∧ (true = true → ∃ bytes, t.encoded = .ok bytes)
      ∨ true = true ∧ ∃ e, t.encoded = .error e
        ∧ (t.encoded.mapError Fault.unencodable).map (fun _ => ()) = .error (.unencodable e) := by
    cases t.encoded with
    | ok bytes => exact .inl ⟨rfl, fun _ => ⟨bytes, rfl⟩⟩
    | error e => exact .inr ⟨rfl, e, rfl, rfl⟩
  cases r with
  | notStarted e => exact .inl ⟨rfl, nofun⟩
  | finished | killed | timedOut => exact hbegun

/-- the text that is taken for what a run of a formatter gives -/
def settled (t : Text) : Except Failure Text → Text
  | .ok u => if u.allBlank then Style.tidied t else u
  | .error _ => Style.tidied t

theorem run_taken (f : FormatterSettings) (t : Text) (r : ProgramResult) (s : Session) :
    ((taken f t r).run s).1 = (result f.command f.timeout r).map (settled t) := by
  unfold taken
  rw [Action.run_bind, Action.run_lift]
  cases result f.command f.timeout r with
  | error fault => rfl
  | ok x =>
    cases x with
    | error failure => rfl
    | ok u =>
      show ((if u.allBlank then _ else _ : Action Text).run s).1 = Except.ok (if u.allBlank then _ else _)
      split <;> rfl

/-- what a program has written is no text, or the text that is chosen is taken -/
theorem result_cases (command : List Text) (timeout : Binary64) (t : Text) (r : ProgramResult) :
    (∃ bytes ∈ r.written, ∃ e, Text.ofBytes bytes = .error e ∧ result command timeout r = .error (.undecodable e))
    ∨ (∀ bytes ∈ r.written, ∃ u, Text.ofBytes bytes = .ok u)
      ∧ (result command timeout r).map (settled t) = .ok (chosen t r) := by
  have hread : ∀ {output errors : Bytes} {u said : Text}, decoded output = .ok u → decoded errors = .ok said →
      ∀ bytes ∈ [output, errors], ∃ u, Text.ofBytes bytes = .ok u := by
    intro output errors u said ho hs
    exact List.forall_mem_cons.mpr ⟨exists_decoded_iff.mp ⟨u, ho⟩,
      List.forall_mem_singleton.mpr (exists_decoded_iff.mp ⟨said, hs⟩)⟩
  cases r with
  | notStarted e => exact .inr ⟨nofun, rfl⟩
  | timedOut => exact .inr ⟨nofun, rfl⟩
  | killed signal output errors =>
    rcases ended_cases command output errors (some (Signal.ending signal)) with h | ⟨u, x, ho, ⟨said, hs⟩, h, e, rfl⟩
    · exact .inl h
    · exact .inr ⟨hread ho hs, by rw [result, h]; rfl⟩
  | finished status output errors =>
    cases status with
    | zero =>
      rcases ended_cases command output errors none with h | ⟨u, x, ho, ⟨said, hs⟩, h, rfl⟩
      · exact .inl h
      · refine .inr ⟨hread ho hs, ?_⟩
        rw [result, if_pos rfl, h, chosen, ho]
        rfl
    | succ n =>
      have how : ∃ how, result command timeout (.finished (n + 1) output errors)
          = ended command output errors (some how) := ⟨_, by rw [result, if_neg (Nat.succ_ne_zero n)]⟩
      obtain ⟨how, e⟩ := how
      rw [e]
      rcases ended_cases command output errors (some how) with h | ⟨u, x, ho, ⟨said, hs⟩, h, e, rfl⟩
      · exact .inl h
      · exact .inr ⟨hread ho hs, by rw [h]; rfl⟩

/-- how a formatting pass ends: with the text that is chosen if nothing is in the way, otherwise with a fault of what is -/
inductive Ends (f : FormatterSettings) (t : Text) (r : ProgramResult) : Except Fault Text → Prop
  | smooth (h : Smooth f t r) : Ends f t r (.ok (chosen t r))
  | breaks {fault : Fault} (h : Breaks f t r fault) : Ends f t r (.error fault)

theorem Ends.eq_ok_iff {f : FormatterSettings} {t : Text} {r : ProgramResult} {x : Except Fault Text}
    (h : Ends f t r x) (u : Text) : x = .ok u ↔ Smooth f t r ∧ u = chosen t r := by
  cases h with
  | smooth hs =>
    constructor
    · intro e
      cases e
      exact ⟨hs, rfl⟩
    · rintro ⟨_, rfl⟩
      rfl
  | breaks hb => exact Iff.intro nofun fun ⟨hs, _⟩ => absurd hs hb.not_smooth

section
variable {f : FormatterSettings} {t : Text} {σ : Session} {r : ProgramResult} {files : Files} (he : f.enabled = true)
  (hr : σ.host.run σ.files f.command t.toBytes f.timeout = (r, files))
include he hr

theorem formatted_ends : Ends f t r ((formatted f t).run σ).1 := by
  cases hname : f.command.findSome? Files.nameFault? with
  | some fault =>
    obtain ⟨part, hp, hfault⟩ := List.exists_of_findSome?_eq_some hname
    rw [run_formatted_unnamed he hname]
    exact .breaks (.named hp hfault)
  | none =>
    have hnamed : ∀ part ∈ f.command, Files.nameFault? part = none := List.findSome?_eq_none_iff.mp hname
    rw [run_formatted_run he hname hr, Action.run_bind, Action.run_lift]
    -- the bytes of the text are asked for once the program has begun, and before anything is read of it
    rcases given_cases t r with ⟨hok, hgiven⟩ | ⟨hbegun, e, hencoded, herror⟩
    · rw [hok]
      show Ends f t r ((taken f t r).run (σ.withFiles files)).1
      rw [run_taken]
      rcases result_cases f.command f.timeout t r with ⟨bytes, hb, e, hbytes, hresult⟩ | ⟨hwritten, hresult⟩
      · rw [hresult]
        exact .breaks (.written hb hbytes)
      · rw [hresult]
        exact .smooth ⟨hnamed, hgiven, hwritten⟩
    · rw [herror]
      exact .breaks (.given hbegun hencoded)

/-- **When formatting ends well.** It gives a text exactly if nothing is in the way: what the program wrote that ended
with success, unless it is blank, otherwise the text in the built-in style.  If something is in the way, the fault says
what. -/
theorem formatted_eq_ok_iff : (∀ u, ((formatted f t).run σ).1 = .ok u ↔ Smooth f t r ∧ u = chosen t r)
    ∧ ∀ fault, ((formatted f t).run σ).1 = .error fault → Breaks f t r fault := by
  have h := formatted_ends he hr
  refine ⟨h.eq_ok_iff, fun fault e => ?_⟩
  rw [e] at h
  cases h with
  | breaks hb => exact hb

end

/-- a session in which every program ends with success once it has written some bytes -/
def writing (output errors : Bytes) : Session :=
  { host := { run := fun files _ _ _ => (.finished 0 output errors, files) } }

/-- a formatter that ends its lines in two ways -/
theorem formatted_eq_ok_iff_carriageReturns :
    (writing [0x61, 0x20, 0x0d, 0x0a, 0x0d] []).host.run {} standardFormatter [0x62] standardTimeout
      = (.finished 0 [0x61, 0x20, 0x0d, 0x0a, 0x0d] [], {})
    ∧ Smooth { enabled := true } "b" (.finished 0 [0x61, 0x20, 0x0d, 0x0a, 0x0d] [])
    ∧ ((formatted { enabled := true } "b").run (writing [0x61, 0x20, 0x0d, 0x0a, 0x0d] [])).1 = .ok "a \n\n" := by
  have hsmooth : Smooth { enabled := true } "b" (.finished 0 [0x61, 0x20, 0x0d, 0x0a, 0x0d] []) := by
    refine ⟨by decide, fun _ => ⟨_, rfl⟩, ?_⟩
    exact List.forall_mem_cons.mpr ⟨⟨_, rfl⟩, List.forall_mem_singleton.mpr ⟨_, rfl⟩⟩
  exact ⟨rfl, hsmooth, ((formatted_eq_ok_iff rfl rfl).1 _).mpr ⟨hsmooth, by decide⟩⟩

/-- a formatter that ends with success but writes a byte that is no text, the same byte among its errors, a null
character in the command, and a text with half of a surrogate pair -/
theorem formatted_aborts :
    ((formatted { enabled := true } "x").run (writing [0xff] [])).1 = .error (.undecodable ⟨0xff, 0, 1, .startByte⟩)
    ∧ chosen "x" (.finished 0 [0xff] []) = "x\n"
    ∧ ((formatted { enabled := true } "x").run (writing [0x79] [0xff])).1
      = .error (.undecodable ⟨0xff, 0, 1, .startByte⟩)
    ∧ ((formatted { enabled := true, command := ["a\x00b"] } "x").run (writing [0x79] [])).1 = .error .nullInPath
    ∧ ((formatted { enabled := true } [halfChar 0xd800]).run (writing [0x79] [])).1
      = .error (.unencodable ⟨0xd800, 0, 1⟩) :=
  ⟨rfl, by decide, rfl, rfl, rfl⟩

end Formatter
end DatabaseTypes
