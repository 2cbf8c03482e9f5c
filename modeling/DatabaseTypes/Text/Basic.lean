/-!
# Text

A text is the list of its code points, so that a function on texts is a function on lists.

* `isHalf`     does a character stand for half of a pair?
* `halfChar`   the character that stands for the half with a code
* `charCode`   the code of a character, for a half that of the half
* `Text`                 the type; a string literal stands for its code points
* `Text.joined`          texts with a separator between them
* `Text.spaces`          an indentation
* `Text.ofNat`, `Text.ofInt`   numbers in decimal
* `Text.replaced`        every occurrence of a pattern replaced, from the left
* `Text.split`           the pieces between the occurrences of a character
* `Text.atMost`          the order by code point
-/

namespace DatabaseTypes

/-! ## halves of surrogate pairs

An escape in a JSON text or in settings can name one half of a surrogate pair without the other.  No
character has such a code, so one of 2048 characters that are for private use stands for it.  A text with
a half in it cannot be written as UTF-8.
-/

/-- how far the characters that stand for halves lie above the codes of the halves -/
def halfShift : Nat := 0x100000

/-- does a character stand for half of a surrogate pair? -/
def isHalf (c : Char) : Bool := 0x10d800 ≤ c.toNat && c.toNat ≤ 0x10dfff

/-- the character that stands for the half with a code -/
def halfChar (code : Nat) : Char := Char.ofNat (halfShift + code)

/-- the character with a code, or the one that stands for a half -/
def charOfCode (code : Nat) : Char :=
  if 0xd800 ≤ code ∧ code ≤ 0xdfff then halfChar code else Char.ofNat code

/-- the code of a character; where it stands for a half it is the code of the half -/
def charCode (c : Char) : Nat := if isHalf c then c.toNat - halfShift else c.toNat

theorem toNat_halfChar {code : Nat} (h : code ≤ 0xffff) :
    (halfChar code).toNat = halfShift + code := by
  have hv : Nat.isValidChar (halfShift + code) := by
    simp only [Nat.isValidChar, halfShift]; omega
  rw [halfChar, Char.ofNat, dif_pos hv]
  rfl

/-- the code of the character for a half is that of the half -/
theorem charCode_halfChar {code : Nat} (h : 0xd800 ≤ code) (h' : code ≤ 0xdfff) :
    charCode (halfChar code) = code := by
  have e := @toNat_halfChar code (by omega)
  simp only [halfShift] at e
  have : isHalf (halfChar code) = true := by simp [isHalf, e]; omega
  simp [charCode, this, e, halfShift]

/-! ## texts -/

/-- a text as its code points -/
abbrev Text := List Char

instance : Coe String Text := ⟨String.toList⟩

namespace Text

/-! ## joining -/

/-- the texts one after the other, with `sep` between neighbours -/
def joined (sep : Text) : List Text → Text
  | [] => []
  | [t] => t
  | t :: u :: ts => t ++ sep ++ joined sep (u :: ts)

theorem joined_nil (sep : Text) : joined sep [] = [] := rfl
theorem joined_single (sep t : Text) : joined sep [t] = t := rfl
theorem joined_cons_cons (sep t u : Text) (ts : List Text) :
    joined sep (t :: u :: ts) = t ++ sep ++ joined sep (u :: ts) := rfl

theorem joined_cons (sep t : Text) (ts : List Text) (h : ts ≠ []) :
    joined sep (t :: ts) = t ++ sep ++ joined sep ts := by
  cases ts with
  | nil => exact absurd rfl h
  | cons u us => rfl

theorem joined_cons_eq_flatMap (sep t : Text) (ts : List Text) :
    joined sep (t :: ts) = t ++ ts.flatMap (sep ++ ·) := by
  induction ts generalizing t with
  | nil => rw [joined_single, List.flatMap_nil, List.append_nil]
  | cons u ts ih => rw [joined_cons_cons, ih, List.flatMap_cons]; simp

theorem joined_append (sep : Text) (ts us : List Text) (ht : ts ≠ []) (hu : us ≠ []) :
    joined sep (ts ++ us) = joined sep ts ++ sep ++ joined sep us := by
  induction ts with
  | nil => exact absurd rfl ht
  | cons t ts ih =>
    by_cases h : ts = []
    · rw [h]; exact joined_cons sep t us hu
    · rw [List.cons_append, joined_cons sep t _ (by simp [h]), ih h, joined_cons sep t ts h]
      simp

/-- `n` spaces -/
def spaces (n : Nat) : Text := List.replicate n ' '

theorem length_spaces (n : Nat) : (spaces n).length = n := List.length_replicate

/-! ## numbers -/

/-- a natural number in decimal, without leading zeros -/
def ofNat (n : Nat) : Text := Nat.toDigits 10 n

/-- an integer in decimal, with a minus sign if negative -/
def ofInt : Int → Text
  | .ofNat n => ofNat n
  | .negSucc n => '-' :: ofNat (n + 1)

/-- `t` with zeros in front, up to a length of `n` -/
def zeroPadded (n : Nat) (t : Text) : Text := List.replicate (n - t.length) '0' ++ t

/-- the value of a hexadecimal digit of either case -/
def hexDigit? (c : Char) : Option Nat :=
  if '0' ≤ c ∧ c ≤ '9' then some (c.toNat - '0'.toNat)
  else if 'a' ≤ c ∧ c ≤ 'f' then some (c.toNat - 'a'.toNat + 10)
  else if 'A' ≤ c ∧ c ≤ 'F' then some (c.toNat - 'A'.toNat + 10)
  else none

/-- the lower-case hexadecimal digit of a value below sixteen -/
def hexDigit (n : Nat) : Char := Nat.digitChar (n % 16)

/-- a code in hexadecimal, with exactly `n` digits -/
def hexadecimal : Nat → Nat → Text
  | 0, _ => []
  | n + 1, code => hexadecimal n (code / 16) ++ [hexDigit code]

theorem length_hexadecimal (n code : Nat) : (hexadecimal n code).length = n := by
  induction n generalizing code with
  | zero => rfl
  | succ n ih => simp [hexadecimal, ih]

theorem exists_of_mem_hexadecimal {n code : Nat} {c : Char} (h : c ∈ hexadecimal n code) :
    ∃ m, c = hexDigit m := by
  induction n generalizing code with
  | zero => cases h
  | succ n ih =>
    rcases List.mem_append.mp h with h | h
    · exact ih h
    · exact ⟨code, List.mem_singleton.mp h⟩

/-! ## searching -/

/-- what follows `pattern` at the front of a text -/
def after? : Text → Text → Option Text
  | [], t => some t
  | _ :: _, [] => none
  | p :: ps, c :: t => if p = c then after? ps t else none

theorem after?_append (p t : Text) : after? p (p ++ t) = some t := by
  induction p with
  | nil => rfl
  | cons c p ih => simp [after?, ih]

theorem eq_append_of_after? {p s t : Text} (h : after? p s = some t) : s = p ++ t := by
  induction p generalizing s with
  | nil => simpa [after?] using h
  | cons c p ih =>
    cases s with
    | nil => simp [after?] at h
    | cons d s =>
      by_cases e : c = d
      · subst e
        rw [after?, if_pos rfl] at h
        rw [ih h, List.cons_append]
      · simp [after?, e] at h

/-- does `t` start with `beginning`? -/
def startsWith (beginning t : Text) : Bool := (after? beginning t).isSome

/-- does `t` end with `ending`? -/
def endsWith (ending t : Text) : Bool := startsWith ending.reverse t.reverse

/-- does `pattern` occur in `t`? -/
def includes (pattern : Text) : Text → Bool
  | [] => pattern.isEmpty
  | c :: t => startsWith pattern (c :: t) || includes pattern t

/-- `replaced` while `skip` more characters belong to an occurrence that is already replaced -/
def replacedFrom (pattern replacement : Text) : Nat → Text → Text
  | _, [] => []
  | skip + 1, _ :: t => replacedFrom pattern replacement skip t
  | 0, c :: t =>
    if startsWith pattern (c :: t) then
      replacement ++ replacedFrom pattern replacement (pattern.length - 1) t
    else c :: replacedFrom pattern replacement 0 t

/-- every occurrence of a pattern that is not empty replaced, from the left, without overlaps -/
def replaced (pattern replacement t : Text) : Text := replacedFrom pattern replacement 0 t

/-- the pieces between the occurrences of `c`, one more than there are occurrences -/
def split (c : Char) : Text → List Text
  | [] => [[]]
  | d :: t =>
    if d = c then [] :: split c t
    else match split c t with
      | [] => [[d]]
      | u :: us => (d :: u) :: us

/-- the pieces between the occurrences of `pattern`; `piece` is the piece begun, reversed -/
def splitTextFrom (pattern : Text) (piece : Text) : Nat → Text → List Text
  | _, [] => [piece.reverse]
  | skip + 1, _ :: t => splitTextFrom pattern piece skip t
  | 0, c :: t =>
    if startsWith pattern (c :: t) then
      piece.reverse :: splitTextFrom pattern [] (pattern.length - 1) t
    else splitTextFrom pattern (c :: piece) 0 t

/-- the pieces between the occurrences of a pattern that is not empty -/
def splitText (pattern t : Text) : List Text := splitTextFrom pattern [] 0 t

/-! ## order -/

/-- the order by code point, a proper beginning before its extensions -/
def atMost : Text → Text → Bool
  | [], _ => true
  | _ :: _, [] => false
  | a :: s, b :: t => if a = b then atMost s t else decide (charCode a < charCode b)

theorem atMost_refl (t : Text) : atMost t t = true := by
  induction t with
  | nil => rfl
  | cons c t ih => simp [atMost, ih]

/-! ## ASCII letters -/

/-- a letter of the English alphabet -/
def isLetter (c : Char) : Bool := ('a' ≤ c && c ≤ 'z') || ('A' ≤ c && c ≤ 'Z')

/-- a decimal digit of ASCII -/
def isDigit (c : Char) : Bool := '0' ≤ c && c ≤ '9'

/-- `t` with the capitals of the English alphabet in lower case -/
def lowerLetters (t : Text) : Text := t.map Char.toLower

end Text
end DatabaseTypes
