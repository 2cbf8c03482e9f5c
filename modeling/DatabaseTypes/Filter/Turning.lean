import DatabaseTypes.Filter.Lines
import DatabaseTypes.Filter.Pattern

/-!
# Lines in turned order

Records end with a separator, or begin with one.  They are found from the back on, so that a separator
never overlaps the one that follows it.

* `Filter.turnedRecords`   the records of bytes, the last one first
* `Filter.upending`        turn the order of records round
* `Filter.turning`         turn each line round
-/

namespace DatabaseTypes.Filter

/-! ## separators -/

/-- what separates records: some characters, or what matches a pattern -/
inductive RecordMark where
  | plain (t : Text)
  | likeness (p : Pattern)

/-- how many characters of a mark a text has in front, of the character before it -/
def RecordMark.sizeAt? (m : RecordMark) (before : Option Char) (t : Text) : Option Nat :=
  match m with
  | .plain mark => if Text.startsWith mark t then some mark.length else none
  | .likeness p => (p.match? { before, rest := t }).map (·.taken)

/-- the places of marks in a text, from the back on: how much stands before a mark, and how much of the
text there is up to its end.  `front` is the text before a place, turned round, and `back` is what stands
between it and the mark found before -/
def marksBefore (m : RecordMark) : Text → Text → List (Nat × Nat)
  | [], _ => []
  | c :: front, back =>
    let own := c :: back
    match m.sizeAt? front.head? own with
    | some n => (front.length, front.length + n) :: marksBefore m front []
    | none => marksBefore m front own

/-- where records are cut, from the back on: after the marks, or before them -/
def cutsOf (m : RecordMark) (before : Bool) (t : Text) : List Nat :=
  (marksBefore m t.reverse []).map fun place => if before then place.1 else place.2

/-- a text in pieces between places, from the back on; a place at the end cuts nothing off -/
def piecesAt (t : Text) : List Nat → List Text
  | [] => [t]
  | n :: cuts => t.drop n :: piecesAt (t.take n) cuts

/-- the pieces, from the front on, are the text -/
theorem piecesAt_flatten (cuts : List Nat) (t : Text) : (piecesAt t cuts).reverse.flatten = t := by
  induction cuts generalizing t with
  | nil => simp [piecesAt]
  | cons n cuts ih => simp [piecesAt, ih]

/-- the records of bytes, the last one first -/
def turnedRecords (m : RecordMark) (before : Bool) (bs : Bytes) : Bytes :=
  asBytes (piecesAt (asText bs) (cutsOf m before (asText bs))).flatten

/-! ## the filters -/

/-- a pattern in which a plus and a question mark are signs unless a backslash stands before them -/
def withPlainSigns : Text → Text
  | '\\' :: c :: t => if c = '+' ∨ c = '?' then c :: withPlainSigns t else '\\' :: c :: withPlainSigns t
  | c :: t => if c = '+' ∨ c = '?' then '\\' :: c :: withPlainSigns t else c :: withPlainSigns t
  | [] => []

/-- the options of turning the order round -/
def upendLetters : Letters where
  plain := "br"
  valued := "s"
  words := [("before", 'b'), ("regex", 'r'), ("separator", 's')]

/-- the separator that options ask for, or what is wrong with it -/
def RecordMark.ofArguments (a : Arguments) : Except Text RecordMark :=
  let own := asText ((a.value? 's').getD ['\n']).toBytes
  if !a.has 'r' then .ok (.plain (if own.isEmpty then ['\x00'] else own))
  else if own.isEmpty then .error "separator cannot be empty"
  else ((Pattern.ofText false (withPlainSigns own)).mapError (PatternFault.message false)).map fun p =>
    .likeness p.forEachLine

/-- turn the order of records round -/
def upending : Program := withArguments upendLetters fun s a input =>
  let failure (operand : Text) (cause : SystemCause) : Text :=
    if cause = .isDirectory then operand ++ ": read error: Invalid argument"
    else "failed to open '" ++ operand ++ "' for reading: " ++ cause.message
  match RecordMark.ofArguments a with
  | .error t => s.complaint t input
  | .ok m => s.across failure 1 a.operands input fun os => os.flatMap fun o => turnedRecords m (a.has 'b') o.2

/-- turn each line round -/
def turning : Program := withArguments {} fun s a input =>
  s.across (fun t cause => "cannot open " ++ t ++ ": " ++ cause.message) 1 a.operands input fun os =>
    (byteLines (joinedBytes os)).flatMap fun l =>
      (l.filter (· != 10)).reverse ++ l.filter (· == 10)

end DatabaseTypes.Filter
