import DatabaseTypes.Filter.Basic

/-!
# Orders of texts

How one text stands to another by what it means at its front.

* `Filter.textOrder`      by its characters
* `Filter.numberOrder`    by a number of digits with a point
* `Filter.generalOrder`   by a number in any notation
* `Filter.unitOrder`      by a number with the letter of a unit
* `Filter.monthOrder`     by a month
* `Filter.versionOrder`   by the numbers and words in it
-/

namespace DatabaseTypes.Filter

/-- is a character a blank between fields? -/
def isBlankByte (c : Char) : Bool := c == ' ' || c == '\t' || c == '\n'

/-- how one text stands to another by its characters -/
def textOrder (s t : Text) : Ordering := if s = t then .eq else if s.atMost t then .lt else .gt

/-- a text stands to itself as its equal -/
theorem textOrder_self (t : Text) : textOrder t t = .eq := by simp [textOrder]

/-! ## numbers -/

/-- the number at the front of a text without its point, and how many places it has -/
def leadingNumber (l : Text) : Int × Nat :=
  let t := l.dropWhile isBlankByte
  let negative := t.head? == some '-'
  let t := if negative then t.drop 1 else t
  let whole := t.takeWhile Text.isDigit
  let rest := t.drop whole.length
  let part := if rest.head? == some '.' then (rest.drop 1).takeWhile Text.isDigit else []
  let n : Int := Decimal.digitsValue (whole ++ part)
  (if negative then -n else n, part.length)

/-- how the number at the front of one text stands to that of another -/
def numberOrder (s t : Text) : Ordering :=
  let (m, p) := leadingNumber s
  let (n, q) := leadingNumber t
  compare (m * (Nat.pow 10 q : Nat)) (n * (Nat.pow 10 p : Nat))

/-! ## numbers in any notation -/

/-- the number at the front of a text: there is none, it is no real number, or it is one, which may be
infinite; a finite one is a quotient -/
inductive General where
  | absent
  | undefined
  | infinite (negative : Bool)
  | finite (n : Int) (d : Nat)

/-- an exponent after one of two letters, in front of a text -/
def exponentAfter (lower upper : Char) : Text → Int
  | c :: t =>
    if c != lower && c != upper then 0
    else
      let negative := t.head? == some '-'
      let digits := (if negative || t.head? == some '+' then t.drop 1 else t).takeWhile Text.isDigit
      let n : Int := Decimal.digitsValue digits
      if negative then -n else n
  | [] => 0

/-- a number of some digits times a power, with the greatest ones infinite and the smallest ones zero -/
def General.scaled (base : Nat) (negative : Bool) (n : Nat) (places exponent : Int) : General :=
  let m : Int := if negative then -n else n
  let e := exponent - places
  if n = 0 then .finite 0 1
  else if 20000 < e then .infinite negative
  else if e < -20000 then .finite 0 1
  else if 0 ≤ e then .finite (m * (Nat.pow base e.toNat : Nat)) 1
  else .finite m (Nat.pow base (-e).toNat)

/-- the number of digits in some base with a point, or none if there is no digit -/
def General.ofDigits? (base : Nat) (isDigit : Char → Bool) (value : Text → Nat) (perDigit : Nat)
    (lower upper : Char) (negative : Bool) (t : Text) : Option General :=
  let whole := t.takeWhile isDigit
  let rest := t.drop whole.length
  let part := if rest.head? == some '.' then (rest.drop 1).takeWhile isDigit else []
  let after := if rest.head? == some '.' then rest.drop (part.length + 1) else rest
  if whole.isEmpty && part.isEmpty then none
  else some (.scaled base negative (value (whole ++ part)) (perDigit * part.length : Nat)
    (exponentAfter lower upper after))

/-- the number at the front of a text -/
def General.ofText (l : Text) : General :=
  let t := l.dropWhile fun c => c == ' ' || ('\t' ≤ c && c ≤ '\r')
  let negative := t.head? == some '-'
  let t := if negative || t.head? == some '+' then t.drop 1 else t
  let low := (t.take 3).map Char.toLower
  let hexadecimal (t : Text) : Option General :=
    General.ofDigits? 2 (fun c => (Text.hexDigit? c).isSome)
      (fun ds => ds.foldl (fun n c => 16 * n + (Text.hexDigit? c).getD 0) 0) 4 'p' 'P' negative t
  if low = "inf" then .infinite negative
  else if low = "nan" then .undefined
  else
    let own : Option General := match t with
      | '0' :: x :: digits => if x = 'x' ∨ x = 'X' then hexadecimal digits else none
      | _ => none
    (own <|> General.ofDigits? 10 Text.isDigit Decimal.digitsValue 1 'e' 'E' negative t).getD .absent

/-- where a number stands among those of other kinds: what is none stands first, and what is no real
number next -/
def General.rank : General → Nat
  | .absent => 0
  | .undefined => 1
  | .infinite true => 2
  | .finite _ _ => 3
  | .infinite false => 4

/-- how one number stands to another -/
def General.order : General → General → Ordering
  | .finite m p, .finite n q => compare (m * q) (n * p)
  | g, h => compare g.rank h.rank

/-- how the number at the front of one text stands to that of another -/
def generalOrder (s t : Text) : Ordering := (General.ofText s).order (General.ofText t)

/-! ## units and months -/

/-- the letters of units from the smallest one on -/
def unitLetters : Text := "KMGTPEZY"

/-- the place of the unit after a number that is not zero, turned round for what is below zero -/
def unitPlace (l : Text) : Int :=
  let t := l.dropWhile isBlankByte
  let negative := t.head? == some '-'
  let t := if negative then t.drop 1 else t
  let whole := t.takeWhile Text.isDigit
  let rest := t.drop whole.length
  let part := if rest.head? == some '.' then (rest.drop 1).takeWhile Text.isDigit else []
  let after := if rest.head? == some '.' then rest.drop (part.length + 1) else rest
  if (whole ++ part).all (· == '0') then 0
  else
    let n : Int := match after.head? with
      | some 'k' => 1
      | some c => if unitLetters.contains c then unitLetters.idxOf c + 1 else 0
      | none => 0
    if negative then -n else n

/-- how a number with a unit stands to another: by the units first -/
def unitOrder (s t : Text) : Ordering := (compare (unitPlace s) (unitPlace t)).then (numberOrder s t)

/-- the beginnings of the months -/
def monthNames : List Text := ["JAN", "FEB", "MAR", "APR", "MAY", "JUN", "JUL", "AUG", "SEP", "OCT",
  "NOV", "DEC"]

/-- the number of the month at the front of a text, or zero -/
def monthOf (t : Text) : Nat :=
  let name := ((t.dropWhile isBlankByte).take 3).map Char.toUpper
  if monthNames.contains name then monthNames.idxOf name + 1 else 0

/-- how the month of a text stands to that of another -/
def monthOrder (s t : Text) : Ordering := compare (monthOf s) (monthOf t)

/-! ## versions -/

/-- where a character stands among those that are no digits: before the end, letters, others -/
def versionRank : Option Char → Int
  | none => -1
  | some c =>
    if Text.isDigit c then 0
    else if Text.isLetter c then c.toNat
    else if c = '~' then -2
    else c.toNat + 256

/-- the order of texts by what stands before their digits, and what follows that in both; each step
uses up a character -/
def wordOrder : Nat → Text → Text → Ordering × Text × Text
  | 0, s, t => (.eq, s, t)
  | fuel + 1, s, t =>
    let isWord (t : Text) : Bool := t.head?.any fun c => !Text.isDigit c
    if isWord s || isWord t then
      match compare (versionRank s.head?) (versionRank t.head?) with
      | .eq => wordOrder fuel (s.drop 1) (t.drop 1)
      | o => (o, s, t)
    else (.eq, s, t)

/-- the order of texts by words and numbers in turn; each step uses up a character -/
def partOrder : Nat → Text → Text → Ordering
  | 0, _, _ => .eq
  | fuel + 1, s, t =>
    if s.isEmpty && t.isEmpty then .eq
    else match wordOrder (s.length + t.length + 1) s t with
      | (.eq, s, t) =>
        let ds := s.takeWhile Text.isDigit
        let es := t.takeWhile Text.isDigit
        (compare (Decimal.digitsValue ds) (Decimal.digitsValue es)).then
          (partOrder fuel (s.drop ds.length) (t.drop es.length))
      | (o, _, _) => o

/-- does a text consist of endings, each a point with letters and digits after it? `inside` tells
whether one is begun -/
def isEndings (inside : Bool) : Text → Bool
  | [] => true
  | '.' :: c :: t => (Text.isLetter c || c == '~') && isEndings true t
  | c :: t => inside && (Text.isLetter c || Text.isDigit c || c == '~') && isEndings true t

/-- a text without the endings at its back -/
def withoutEndings : Text → Text
  | [] => []
  | c :: t => if isEndings false t then [c] else c :: withoutEndings t

/-- the place of a text that starts with a point, before all that do not -/
def pointPlace (t : Text) : Nat :=
  if t = [] then 0
  else if t = ['.'] then 1
  else if t = ['.', '.'] then 2
  else if t.head? = some '.' then 3
  else 4

/-- how one text stands to another as a version: by its words and numbers, without its endings first -/
def versionOrder (s t : Text) : Ordering :=
  let parts (s t : Text) : Ordering := partOrder (s.length + t.length + 1) s t
  let place := compare (pointPlace s) (pointPlace t)
  if place != .eq || pointPlace s < 3 then place
  else (parts (withoutEndings s) (withoutEndings t)).then (parts s t)

/-- a text stands to itself as its equal -/
theorem numberOrder_self (t : Text) : numberOrder t t = .eq := by
  simp [numberOrder]

end DatabaseTypes.Filter
