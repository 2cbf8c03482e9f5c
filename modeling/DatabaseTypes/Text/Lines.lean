import DatabaseTypes.Text.Basic

/-!
# White space and lines

* `Text.isBlank`         the white space of Unicode, with the four information separators
* `Text.trimEnd`, `Text.trimStart`, `Text.trim`   a text without white space at its ends
* `Text.allBlank`        nothing but white space
* `Text.isLineBreak`     the characters that end a line
* `Text.lines`           a text cut at its line ends, carriage return and line feed being one end
* `Text.newlinesUnified` every carriage return, alone or before a line feed, as a line feed
* `Text.withoutFinalBreak` a text without one line feed at its end
* `Text.physicalLines`   a text cut after its line feeds, which stay
-/

namespace DatabaseTypes.Text

/-! ## white space -/

/-- white space: the controls from tab to carriage return, the information separators U+001C to
U+001F, next line, and every space, line and paragraph separator -/
def isBlank (c : Char) : Bool :=
  let n := c.toNat
  if n < 128 then (9 ≤ n && n ≤ 13) || (28 ≤ n && n ≤ 32)
  else n == 0x85 || n == 0xa0 || n == 0x1680 || (0x2000 ≤ n && n ≤ 0x200a)
    || n == 0x2028 || n == 0x2029 || n == 0x202f || n == 0x205f || n == 0x3000

/-- without white space at the front -/
def trimStart (t : Text) : Text := t.dropWhile isBlank

/-- without white space at the end -/
def trimEnd : Text → Text
  | [] => []
  | c :: t => match trimEnd t with
    | [] => if isBlank c then [] else [c]
    | u => c :: u

/-- without white space at either end -/
def trim (t : Text) : Text := trimEnd (trimStart t)

/-- is there nothing but white space? -/
def allBlank (t : Text) : Bool := t.all isBlank

theorem trimEnd_nil : trimEnd [] = [] := rfl

theorem trimEnd_eq_nil_iff (t : Text) : trimEnd t = [] ↔ allBlank t = true := by
  induction t with
  | nil => simp [trimEnd, allBlank]
  | cons c t ih =>
    rw [trimEnd]
    cases h : trimEnd t with
    | nil =>
      have h' : t.all isBlank = true := ih.mp h
      by_cases hc : isBlank c = true <;> simp [allBlank, hc, h']
    | cons d u =>
      have h' : ¬ (t.all isBlank = true) := fun e => by simp [ih.mpr e] at h
      simp [allBlank] at h' ⊢
      exact fun _ => h'

/-! ## lines -/

/-- line feed, vertical tab, form feed, carriage return, the separators of files, groups and
records, next line, and the line and paragraph separators of Unicode -/
def isLineBreak (c : Char) : Bool :=
  let n := c.toNat
  (10 ≤ n && n ≤ 13) || (28 ≤ n && n ≤ 30) || n == 0x85 || n == 0x2028 || n == 0x2029

/-- the lines of a text; `line` is the line begun, reversed -/
def linesFrom (line : Text) : Text → List Text
  | [] => if line.isEmpty then [] else [line.reverse]
  | '\r' :: '\n' :: t => line.reverse :: linesFrom [] t
  | c :: t => if isLineBreak c then line.reverse :: linesFrom [] t else linesFrom (c :: line) t

/-- the lines of a text, without their ends; nothing follows the last end -/
def lines (t : Text) : List Text := linesFrom [] t

theorem lines_nil : lines [] = [] := rfl

/-- a text without a line feed at its end -/
def withoutFinalBreak (t : Text) : Text := if t.getLast? = some '\n' then t.dropLast else t

/-- every carriage return, alone or before a line feed, becomes a line feed -/
def newlinesUnified : Text → Text
  | [] => []
  | '\r' :: '\n' :: t => '\n' :: newlinesUnified t
  | c :: t => (if c = '\r' then '\n' else c) :: newlinesUnified t

/-- the lines of a text with their line feeds; `line` is the line begun, reversed -/
def physicalLinesFrom (line : Text) : Text → List Text
  | [] => if line.isEmpty then [] else [line.reverse]
  | c :: t =>
    if c = '\n' then (c :: line).reverse :: physicalLinesFrom [] t
    else physicalLinesFrom (c :: line) t

/-- the lines of a text, each with its line feed; the last may lack one -/
def physicalLines (t : Text) : List Text := physicalLinesFrom [] t

end DatabaseTypes.Text
