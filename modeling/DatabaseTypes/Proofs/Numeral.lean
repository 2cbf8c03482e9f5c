import DatabaseTypes.Json.Writer
import DatabaseTypes.Schema.Reading

/-!
# The characters of numbers

A number in decimal has letters, digits, signs and points in it and nothing else.  The letters are those of
an exponent, or of a name for a value that is no number.

* `Text.isNumeral`        such a character
* `numeral_binaryText`    the display of a number
* `numeral_floatText`     the JSON text of a number
-/

namespace DatabaseTypes

theorem Key.toNat_of_isTail {c : Char} (h : Key.isTail c = true) : 33 ≤ c.toNat ∧ c.toNat < 128 := by
  simp only [Key.isTail, Key.isHead, Text.isLetter, Text.isDigit, Bool.or_eq_true,
    Bool.and_eq_true, decide_eq_true_eq, beq_iff_eq, Char.le_def, UInt32.le_iff_toNat_le] at h
  unfold Char.toNat
  rcases h with (((h | h) | rfl) | rfl) | h
  · change 97 ≤ c.val.toNat ∧ c.val.toNat ≤ 122 at h
    omega
  · change 65 ≤ c.val.toNat ∧ c.val.toNat ≤ 90 at h
    omega
  · decide
  · decide
  · change 48 ≤ c.val.toNat ∧ c.val.toNat ≤ 57 at h
    omega

/-- a character of a number, or of the name of a value that is no number -/
def Text.isNumeral (c : Char) : Bool := Key.isTail c || c = '-' || c = '+' || c = '.'

/-- a text of such characters -/
def Numeral (t : Text) : Prop := ∀ c ∈ t, Text.isNumeral c = true

theorem numeral_nil : Numeral [] := fun _ hc => absurd hc List.not_mem_nil

theorem numeral_single {c : Char} (h : Text.isNumeral c = true) : Numeral [c] :=
  List.forall_mem_singleton.mpr h

theorem numeral_constant {l : List Char} (h : l.all Text.isNumeral = true) :
    Numeral (String.ofList l).toList := by
  rw [String.toList_ofList]
  exact List.all_eq_true.mp h

theorem Numeral.append {t u : Text} (ht : Numeral t) (hu : Numeral u) : Numeral (t ++ u) :=
  List.forall_mem_append.mpr ⟨ht, hu⟩

theorem Numeral.subset {t u : Text} (hu : Numeral u) (h : t ⊆ u) : Numeral t :=
  fun c hc => hu c (h hc)

theorem numeral_replicate (n : Nat) {c : Char} (h : Text.isNumeral c = true) :
    Numeral (List.replicate n c) := by
  intro d hd
  rw [List.eq_of_mem_replicate hd]
  exact h

/-! ## whole numbers -/

theorem numeral_ofNat (n : Nat) : Numeral (Text.ofNat n) := by
  intro c hc
  have hd : c.isDigit = true := Nat.isDigit_of_mem_toDigits (by decide) (by decide) hc
  have hdigit : Text.isDigit c = true := by
    simp only [Char.isDigit, Bool.and_eq_true, decide_eq_true_eq] at hd
    simp only [Text.isDigit, Bool.and_eq_true, decide_eq_true_eq]
    exact hd
  simp [Text.isNumeral, Key.isTail, hdigit]

theorem numeral_ofInt (i : Int) : Numeral (Text.ofInt i) := by
  cases i with
  | ofNat n => exact numeral_ofNat n
  | negSucc n => exact (numeral_single (c := '-') rfl).append (numeral_ofNat (n + 1))

/-! ## binary numbers -/

theorem numeral_exponentText (e : Int) : Numeral (Binary64.exponentText e) := by
  have hs : Text.isNumeral (if e < 0 then '-' else '+') = true := by split <;> rfl
  exact (numeral_single hs).append ((numeral_replicate _ rfl).append (numeral_ofNat _))

theorem numeral_pointedText {digits : Text} (h : Numeral digits) (p : Int) :
    Numeral (Binary64.pointedText digits p) := by
  unfold Binary64.pointedText
  split
  · exact ((numeral_constant rfl).append (numeral_replicate _ rfl)).append h
  have hrest : ∀ n, Numeral (digits.drop n) := fun n => h.subset (List.drop_subset n _)
  have htake : ∀ n, Numeral (digits.take n) := fun n => h.subset (List.take_subset n _)
  split
  · refine (((htake _).append (numeral_replicate _ rfl)).append (numeral_single rfl)).append ?_
    split
    · exact numeral_single rfl
    · exact hrest _
  · refine (((htake _).append ?_).append (numeral_single rfl)).append (numeral_exponentText _)
    split
    · exact numeral_nil
    · exact (numeral_single rfl).append (hrest 1)

theorem numeral_withoutZeros {digits : Text} (h : Numeral digits) :
    Numeral (Binary64.withoutZeros digits) := by
  refine h.subset fun c hc => ?_
  have hc' := List.dropWhile_subset _ (List.mem_reverse.mp hc)
  exact List.mem_reverse.mp hc'

theorem numeral_binaryText (x : Binary64) : Numeral x.text := by
  cases x with
  | notANumber => exact numeral_constant rfl
  | infinite s => cases s <;> exact numeral_constant rfl
  | finite s m e =>
    have hs : Numeral (if s then ['-'] else []) := by
      cases s
      · exact numeral_nil
      · exact numeral_single rfl
    unfold Binary64.text
    dsimp only
    split
    · exact hs.append (numeral_constant rfl)
    · exact hs.append (numeral_pointedText (numeral_withoutZeros (numeral_ofNat _)) _)

theorem numeral_fixedText (places : Nat) (x : Binary64) : Numeral (x.fixedText places) := by
  cases x with
  | notANumber => exact numeral_constant rfl
  | infinite s => cases s <;> exact numeral_constant rfl
  | finite s m e =>
    have hdigits (n k : Nat) : Numeral (Text.zeroPadded k (Text.ofNat n)) :=
      (numeral_replicate _ rfl).append (numeral_ofNat n)
    have hs : Numeral (if s then ['-'] else []) := by
      cases s
      · exact numeral_nil
      · exact numeral_single rfl
    unfold Binary64.fixedText
    refine (hs.append ((hdigits _ _).subset (List.take_subset _ _))).append ?_
    split
    · exact numeral_nil
    · exact Numeral.append (t := ['.']) (numeral_single rfl) ((hdigits _ _).subset (List.drop_subset _ _))

theorem numeral_floatText (x : Binary64) : Numeral (Json.floatText x) := by
  cases x with
  | notANumber => exact numeral_constant rfl
  | infinite s => cases s <;> exact numeral_constant rfl
  | finite s m e => exact numeral_binaryText (.finite s m e)

end DatabaseTypes
