import DatabaseTypes.Proofs.Outcome
import DatabaseTypes.Proofs.Yaml.Stops
import DatabaseTypes.Yaml.Document

/-!
# The faults of settings files

A settings file that gives no value has a mistake, or asks for a value that cannot be made: a number or a time that
is none, a character that does not exist, or more than the limits allow.  No step of reading it has any other
fault.

* `Yaml.Faulty`          a computation whose faults are those of settings files
* `Yaml.Making.Fails`    a step of making values that has no other failures
* `Yaml.isExpected_of_ofBytes`   reading a file
-/

namespace DatabaseTypes.Yaml

/-! ## numbers and times -/

/-- a computation whose faults are those of settings files -/
abbrev Faulty {α : Type} (x : Except Fault α) : Prop := Outcome.Fails IsFault x

theorem faulty_integerOf (base : Nat) (t : Text) : Faulty (integerOf base t) := by
  unfold integerOf
  dsimp only
  split
  · exact .error trivial
  · split
    · exact .ok _
    · exact .error trivial

theorem faulty_signed (t : Text) : Faulty (signed t) := by
  unfold signed
  split
  · exact .error trivial
  · exact .ok _

theorem faulty_sixtieths (parts : List Text) : Faulty (sixtieths parts) :=
  (Outcome.Fails.mapM (faulty_integerOf 10) parts).bind fun _ => .ok _

theorem faulty_unsignedInt (t : Text) : Faulty (unsignedInt t) := by
  unfold unsignedInt
  split
  · exact faulty_integerOf _ _
  · split
    · exact faulty_integerOf _ _
    · split
      · exact .error trivial
      · exact .ok _
      · exact faulty_integerOf _ _
      · split
        · exact faulty_sixtieths _
        · exact faulty_integerOf _ _

theorem faulty_readInt (t : Text) : Faulty (readInt t) :=
  (faulty_signed _).bind fun _ => (faulty_unsignedInt _).bind fun _ => .ok _

theorem faulty_floatOf (t : Text) : Faulty (floatOf t) := by
  unfold floatOf
  split
  · exact .ok _
  · exact .error trivial

theorem faulty_floatSixtieths (parts : List Text) : Faulty (floatSixtieths parts) := by
  refine (Outcome.Fails.mapM faulty_floatOf parts).bind fun xs => (Outcome.Fails.foldlM (fun state x => ?_) _ _).bind
    fun _ => .ok _
  dsimp only
  split
  · exact .error trivial
  · exact .ok _

theorem faulty_unsignedFloat (t : Text) : Faulty (unsignedFloat t) := by
  unfold unsignedFloat
  split
  · exact .ok _
  · split
    · exact .ok _
    · split
      · exact faulty_floatSixtieths _
      · exact faulty_floatOf _

theorem faulty_readFloat (t : Text) : Faulty (readFloat t) :=
  (faulty_signed _).bind fun _ => (faulty_unsignedFloat _).bind fun _ => .ok _

theorem faulty_readTime (t : Text) : Faulty (readTime t) := by
  unfold readTime
  split
  · exact .error trivial
  · rename_i p _
    cases timeOfParts p with
    | ok x => exact .ok _
    | error f => exact .error trivial

/-! ## values -/

namespace Making

variable {α : Type}

/-- a step of making values that fails only with mistakes and with faults of settings files -/
abbrev Fails (x : Making α) : Prop := FailsOnly Failure.IsExpected x

theorem fails_fail (m : Mistake) : Fails (fail m : Making α) := .throw trivial

theorem fails_orFault {r : Except Fault α} (h : Faulty r) : Fails (orFault r) := by
  cases r with
  | ok a => exact .pure _
  | error f => exact .throw (h f rfl)

theorem fails_node (n : Nat) : Fails (node n) := FailsOnly.get.bind fun _ => .pure _

theorem fails_entries (n : Nat) : Fails (entries n) := FailsOnly.get.bind fun _ => .pure _

theorem fails_plainText : (fuel n : Nat) → Fails (plainText fuel n)
  | 0, _ => .throw trivial
  | fuel + 1, n => by
    refine (fails_node n).bind fun node => ?_
    split
    · exact .pure _
    · exact fails_fail _
    · refine FailsOnly.get.bind fun w => ?_
      dsimp only
      split
      · exact fails_plainText fuel _
      · exact fails_fail _

theorem fails_boolOf (t : Text) : Fails (boolOf t) := .ite (.pure _) (.ite (.pure _) (.throw trivial))

theorem fails_floatOf (n : Nat) (t : Text) : Fails (floatOf n t) := by
  refine (fails_orFault (faulty_readFloat t)).bind fun x => ?_
  split
  · exact .pure _
  · exact .pure _

theorem fails_timeOf (n : Nat) (t : Text) : Fails (timeOf n t) := by
  refine (fails_node n).bind fun node => ?_
  split
  · refine (fails_orFault (faulty_readTime t)).bind fun x => ?_
    split
    · exact .pure _
    · exact .pure _
  · exact .throw trivial

theorem fails_simple (n : Nat) (tag : Tag) : Fails (simple n tag) := by
  refine FailsOnly.get.bind fun w => (fails_plainText _ n).bind fun t => ?_
  split
  · exact .pure _
  · exact fails_boolOf t
  · exact (fails_orFault (faulty_readInt t)).bind fun _ => .pure _
  · exact fails_floatOf n t
  · split
    · exact .pure _
    · exact fails_fail _
  · exact fails_timeOf n t
  · exact .pure _

theorem fails_newPart (n : Nat) : Fails (newPart n) := by
  refine (fails_node n).bind fun node => ?_
  split
  all_goals first
    | exact (FailsOnly.modified _).bind fun _ => .pure _
    | exact fails_fail _
    | exact (fails_simple n _).bind fun _ => .pure _

theorem fails_part (n : Nat) : Fails (part n) := by
  refine FailsOnly.get.bind fun w => ?_
  split
  · exact .pure _
  · exact (fails_newPart n).bind fun _ => (FailsOnly.modified _).bind fun _ => .pure _

theorem fails_takeMerge? (n : Nat) : Fails (takeMerge? n) := by
  refine FailsOnly.get.bind fun w => ?_
  dsimp only
  split
  · exact .pure _
  · exact (FailsOnly.set _).bind fun _ => .pure _

theorem fails_settlePlainKeys (n : Nat) : Fails (settlePlainKeys n) := by
  refine (fails_entries n).bind fun es => ?_
  refine (FailsOnly.forIn (fun e _ => ?_) es).bind fun _ => .pure _
  refine (fails_node e.1).bind fun node => ?_
  split
  · exact (FailsOnly.modified _).bind fun _ => .pure _
  · exact .pure _

theorem fails_mergedFrom {flatten : Nat → Making Unit} (h : ∀ m, Fails (flatten m)) (n : Nat) :
    Fails (mergedFrom flatten n) := by
  refine (fails_node n).bind fun node => ?_
  split
  · exact fails_fail _
  · exact (h n).bind fun _ => fails_entries n
  · refine (FailsOnly.mapM (fun item => (fails_node item).bind fun node => ?_) _).bind fun _ => .pure _
    split
    · exact (h item).bind fun _ => fails_entries item
    · exact fails_fail _

theorem fails_putInFront (n : Nat) (merged : List (Nat × Nat)) : Fails (putInFront n merged) :=
  .ite (.modified _) (.pure _)

theorem fails_merges : (count n : Nat) → Fails (merges count n)
  | 0, _ => .pure _
  | count + 1, n => by
    refine (fails_takeMerge? n).bind fun source => ?_
    cases source with
    | none => exact (fails_settlePlainKeys n).bind fun _ => .pure _
    | some source =>
      have hflatten (m : Nat) : Fails (do putInFront m (← merges count m)) :=
        (fails_merges count m).bind fun _ => fails_putInFront m _
      exact (fails_mergedFrom hflatten source).bind fun _ => (fails_merges count n).bind fun _ => .pure _

theorem fails_key (n : Nat) : Fails (key n) :=
  (fails_part n).bind fun
    | .value _ => .pure _
    | .collection _ => fails_fail _

theorem fails_mappingOf (n : Nat) : Fails (mappingOf n) := by
  refine (fails_node n).bind fun node => ?_
  split
  · refine FailsOnly.get.bind fun w => ?_
    refine (fails_merges _ n).bind fun merged => ?_
    refine (fails_putInFront n merged).bind fun _ => ?_
    refine (fails_entries n).bind fun es => ?_
    refine FailsOnly.foldlM (fun found e => ?_) es _
    exact (fails_key e.1).bind fun _ => (fails_part e.2).bind fun _ => .pure _
  · exact fails_fail _

theorem fails_pairOf (n : Nat) : Fails (pairOf n) := by
  refine (fails_node n).bind fun node => ?_
  split
  · exact (fails_part _).bind fun _ => (fails_part _).bind fun _ => .pure _
  · exact fails_fail _

theorem fails_itemsOf (n : Nat) : Fails (itemsOf n) := by
  refine (fails_node n).bind fun node => ?_
  split
  · exact .pure _
  · exact fails_fail _

theorem fails_fill (n : Nat) : Fails (fill n) := by
  refine (fails_node n).bind fun node => ?_
  split
  · exact (fails_mappingOf n).bind fun _ => .pure _
  · exact (fails_mappingOf n).bind fun _ => .pure _
  · exact (fails_itemsOf n).bind fun _ => (FailsOnly.mapM fails_pairOf _).bind fun _ => .pure _
  · exact (fails_itemsOf n).bind fun _ => (FailsOnly.mapM fails_pairOf _).bind fun _ => .pure _
  · exact (fails_itemsOf n).bind fun _ => (FailsOnly.mapM fails_part _).bind fun _ => .pure _

theorem fails_fillAll (fuel : Nat) : Fails (fillAll fuel) := by
  induction fuel with
  | zero => exact .pure _
  | succ fuel ih =>
    refine FailsOnly.get.bind fun w => .ite ?_ (.pure _)
    refine (FailsOnly.modified _).bind fun _ => ?_
    refine FailsOnly.bind ?_ fun _ => ih
    refine FailsOnly.forIn (fun n _ => ?_) _
    refine (fails_fill n).bind fun filling => ?_
    exact (FailsOnly.modified _).bind fun _ => .pure _

end Making

/-! ## files -/

theorem isExpected_of_filled {d : Document} {failure : Failure} (h : d.filled = .error failure) :
    failure.IsExpected := by
  have hmaking : Making.Fails (do
      let p ← Making.part d.root
      Making.fillAll (d.nodes.size + 1)
      pure p) :=
    (Making.fails_part _).bind fun _ => (Making.fails_fillAll _).bind fun _ => .pure _
  unfold Document.filled at h
  dsimp only at h
  cases hr : (do
      let p ← Making.part d.root
      Making.fillAll (d.nodes.size + 1)
      pure p : Making Part).run
    { nodes := d.nodes, made := Array.replicate d.nodes.size none,
      filled := Array.replicate d.nodes.size none } with
  | error e =>
    rw [hr] at h
    cases h
    exact hmaking _ _ hr
  | ok r =>
    rw [hr] at h
    cases h

theorem isExpected_ofPieces {before : Text} {fault : Option Utf8Fault} {pieces : List Text}
    {failure : Failure} (h : (Supply.ofPieces before fault pieces).beyond = some failure) :
    failure.IsExpected := by
  induction pieces generalizing before with
  | nil =>
    obtain ⟨f, _, rfl⟩ := Option.map_eq_some_iff.mp h
    trivial
  | cons piece pieces ih =>
    unfold Supply.ofPieces at h
    split at h
    · rename_i failure' hflaw
      cases h
      obtain ⟨line, _, rfl⟩ := Option.map_eq_some_iff.mp hflaw
      trivial
    · exact ih h

theorem isExpected_ofBytes {bytes : Bytes} {failure : Failure}
    (h : (Supply.ofBytes bytes).beyond = some failure) : failure.IsExpected := by
  unfold Supply.ofBytes at h
  split at h <;> exact isExpected_ofPieces h

theorem isExpected_of_settle {α : Type} {s : Supply} {r : Except Stop α} {failure : Failure}
    (hs : ∀ beyond, s.beyond = some beyond → beyond.IsExpected)
    (hr : ∀ stop, r = .error stop → stop.failure.IsExpected) (h : s.settle r = .error failure) :
    failure.IsExpected := by
  unfold Supply.settle at h
  split at h
  · cases h
  · cases h
    exact hr _ rfl
  · cases h
    exact hs _ ‹_›
  · split at h
    · cases h
      exact hs _ ‹_›
    · cases h
      exact hr _ rfl

/-- **A settings file that gives no value has a mistake, or one of the faults of settings files.** -/
theorem isExpected_of_ofBytes {bytes : Bytes} {failure : Failure} (h : ofBytes bytes = .error failure) :
    failure.IsExpected := by
  unfold ofBytes Supply.value at h
  cases hr : (Supply.ofBytes bytes).settle (Document.ofText? (Supply.ofBytes bytes).text) with
  | error e =>
    rw [hr] at h
    cases h
    exact isExpected_of_settle (fun _ => isExpected_ofBytes) (fun _ => isExpected_of_ofText?) hr
  | ok d =>
    rw [hr] at h
    cases d with
    | none => cases h
    | some d =>
      change d.value = .error failure at h
      unfold Document.value at h
      cases hf : d.filled with
      | error e =>
        rw [hf] at h
        cases h
        exact isExpected_of_filled hf
      | ok r =>
        rw [hf] at h
        cases h

end DatabaseTypes.Yaml
