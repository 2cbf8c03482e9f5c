import DatabaseTypes.Text.Basic
import DatabaseTypes.Text.CaseTable

/-!
# Letter case

Case folding, lower case and exchanged case for all of Unicode, with the mappings of one code point
to several and the two lower-case forms of sigma.

* `Text.foldCase`      the text that is the same for all spellings that differ in case only
* `Text.lowered`       lower case
* `Text.swapCase`      lower case for upper case and the other way round
* `Text.endsWord`      does a capital sigma at this place become the final small sigma?
-/

namespace DatabaseTypes.Text

/-- is a code point in one of the ranges? -/
def inRanges (ranges : List (Nat × Nat)) (n : Nat) : Bool :=
  ranges.any fun r => decide (r.1 ≤ n ∧ n ≤ r.2)

/-- the code points that a full mapping puts in place of one -/
def fullMapping? (table : List (Nat × List Nat)) (n : Nat) : Option Text :=
  (table.find? (·.1 == n)).map fun e => e.2.map Char.ofNat

/-! ## folding -/

/-- the folded form of one character -/
def foldChar (c : Char) : Text :=
  let n := c.toNat
  if n < 128 then [c.toLower]
  else match CaseRun.find? foldRuns n with
    | some m => [Char.ofNat m]
    | none => (fullMapping? foldFull n).getD [c]

/-- the text with every character folded -/
def foldCase (t : Text) : Text := t.flatMap foldChar

theorem foldCase_nil : foldCase [] = [] := rfl
theorem foldCase_cons (c : Char) (t : Text) : foldCase (c :: t) = foldChar c ++ foldCase t := rfl
theorem foldCase_append (s t : Text) : foldCase (s ++ t) = foldCase s ++ foldCase t := by
  simp [foldCase, List.flatMap_append]

/-! ## sigma -/

/-- a code point that carries case -/
def isCased (c : Char) : Bool :=
  if c.toNat < 128 then isLetter c else inRanges casedRanges c.toNat

/-- a code point that is skipped when the neighbours of a letter are examined -/
def isCaseIgnorable (c : Char) : Bool := inRanges ignorableRanges c.toNat

/-- is the nearest character that is not skipped a cased one? -/
def nextIsCased (t : Text) : Bool :=
  match t.dropWhile isCaseIgnorable with
  | [] => false
  | c :: _ => isCased c

/-- a sigma ends a word if a cased character comes before it and none after it; `before` is what
comes before, nearest first -/
def endsWord (before rest : Text) : Bool := nextIsCased before && !nextIsCased rest

/-- the lower case of a capital sigma -/
def loweredSigma (before rest : Text) : Char := if endsWord before rest then 'ς' else 'σ'

/-! ## lower case -/

/-- the lower case of one character that is not a capital sigma -/
def lowerChar (c : Char) : Text :=
  let n := c.toNat
  if n < 128 then [c.toLower]
  else if c = 'İ' then ['i', '\u0307']
  else match CaseRun.find? lowerRuns n with
    | some m => [Char.ofNat m]
    | none => [((CaseRun.find? titleRuns n).map Char.ofNat).getD c]

/-- lower case, after the characters `before`, nearest first -/
def loweredAfter (before : Text) : Text → Text
  | [] => []
  | c :: t =>
    (if c = 'Σ' then [loweredSigma before t] else lowerChar c) ++ loweredAfter (c :: before) t

/-- the text in lower case -/
def lowered (t : Text) : Text := loweredAfter [] t

/-! ## exchanged case -/

/-- an upper-case character becomes lower case, any other one upper case; not for a capital sigma -/
def swapChar (c : Char) : Text :=
  let n := c.toNat
  if n < 128 then [if 'A' ≤ c ∧ c ≤ 'Z' then c.toLower else c.toUpper]
  else if c = 'İ' then ['i', '\u0307']
  else match CaseRun.find? lowerRuns n with
    | some m => [Char.ofNat m]
    | none => match CaseRun.find? upperRuns n with
      | some m => [Char.ofNat m]
      | none => (fullMapping? upperFull n).getD [c]

/-- exchanged case, after the characters `before`, nearest first -/
def swapCaseAfter (before : Text) : Text → Text
  | [] => []
  | c :: t =>
    (if c = 'Σ' then [loweredSigma before t] else swapChar c) ++ swapCaseAfter (c :: before) t

/-- the text with lower and upper case exchanged -/
def swapCase (t : Text) : Text := swapCaseAfter [] t

end DatabaseTypes.Text
