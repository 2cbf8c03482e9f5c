import DatabaseTypes.Decimal.Shortest
import DatabaseTypes.Filter.Arguments
import DatabaseTypes.Filter.Basic
import DatabaseTypes.Filter.Lines

/-!
# Bytes written out

Bytes are taken as characters or numbers, and these are written in columns, with the place of the first
byte before each line.

* `Filter.RealFormat`         how many bits the parts of a number have
* `Filter.RealFormat.shown`   the number of some bits in words
* `Filter.Notation`   how bytes are taken and written
* `Filter.Dump`       how lines of them are written
* `Filter.dumping`    the filter
-/

namespace DatabaseTypes.Filter

/-! ## real numbers

The sign, the exponent and the fraction of a number stand in some bits.  A number is written with the
fewest digits, from some count on, that tell it from all others of its format.
-/

/-- how many bits the exponent and the fraction have, whether the first bit of the fraction is left out,
and with how many digits a number is written at least and at most -/
structure RealFormat where
  exponentBits : Nat
  fractionBits : Nat
  leavesFirst : Bool := true
  least : Nat
  most : Nat

namespace RealFormat

/-- the formats by the number of bytes that they take -/
def bySize : List (Nat × RealFormat) := [(4, ⟨8, 23, true, 6, 9⟩), (8, ⟨11, 52, true, 15, 17⟩),
  (16, ⟨15, 64, false, 18, 21⟩)]

/-- how many columns a number takes at most: a sign, the digits, a point and an exponent -/
def width (f : RealFormat) : Nat := f.most + if f.exponentBits = 8 then 6 else if f.exponentBits = 11 then 7 else 8

/-- the least exponent of two that the fraction is multiplied by -/
def leastExponent (f : RealFormat) : Int :=
  2 - (Nat.pow 2 (f.exponentBits - 1) : Nat) - (f.fractionBits : Int) + if f.leavesFirst then 0 else 1

/-- the bounds around `m · 2 ^ e`, between which all decimals round to it -/
def interval (f : RealFormat) (m : Nat) (e : Int) : Binary64.Interval :=
  let first := Nat.pow 2 (if f.leavesFirst then f.fractionBits else f.fractionBits - 1)
  let down := if m = first ∧ f.leastExponent < e then 1 else 2
  let (scale, unit) := scaledByTwo 1 4 e
  { low := (4 * m - down) * scale, value := 4 * m * scale, high := (4 * m + 2) * scale
    unit := unit, closed := m % 2 = 0 }

/-- so many digits of a number, and the place of the point after the first of them -/
def digitsOf (i : Binary64.Interval) (count : Nat) : Nat × Int :=
  let p := Binary64.point i.value i.unit
  let (n, d) := scaledByTen i.value i.unit (count - p)
  let m := roundedQuotient n d
  if m < Nat.pow 10 count then (m, p - 1) else (m / 10, p)

/-- the digits from some count on that tell a number from all others -/
def telling (i : Binary64.Interval) : Nat → Nat → Nat × Nat × Int
  | 0, count => (count, digitsOf i count)
  | more + 1, count =>
    let (m, e) := digitsOf i count
    if i.includes m (e - (count - 1)) then (count, m, e) else telling i more (count + 1)

/-- digits without the zeros at their end, with a point: in places while the exponent of ten is small -/
def pointed (count m : Nat) (e : Int) : Text :=
  let digits := Text.ofNat m
  let withPoint (whole part : Text) : Text :=
    let part := (part.reverse.dropWhile (· == '0')).reverse
    if part.isEmpty then whole else whole ++ ['.'] ++ part
  if e < -4 ∨ (count : Int) ≤ e then
    withPoint (digits.take 1) (digits.drop 1) ++ ['e'] ++ Binary64.exponentText e
  else if e < 0 then withPoint ['0'] (List.replicate (-e - 1).toNat '0' ++ digits)
  else withPoint (digits.take (e.toNat + 1)) (digits.drop (e.toNat + 1))

/-- the number of some bits in words -/
def shown (f : RealFormat) (bits : Nat) : Text :=
  let size := f.exponentBits + f.fractionBits
  let sign : Text := if bits / Nat.pow 2 size % 2 = 1 then ['-'] else []
  let exponent := bits / Nat.pow 2 f.fractionBits % Nat.pow 2 f.exponentBits
  let fraction := bits % Nat.pow 2 f.fractionBits
  let hasFirst := f.leavesFirst || exponent = 0 || Nat.pow 2 (f.fractionBits - 1) ≤ fraction
  if !hasFirst then sign ++ "nan"
  else if exponent = Nat.pow 2 f.exponentBits - 1 then
    let isInfinite := fraction = (if f.leavesFirst then 0 else Nat.pow 2 (f.fractionBits - 1))
    sign ++ if isInfinite then "inf" else "nan"
  else
    let m := if f.leavesFirst && exponent != 0 then fraction + Nat.pow 2 f.fractionBits else fraction
    let e : Int := f.leastExponent + ((exponent - 1 : Nat) : Int)
    if m = 0 then sign ++ ['0']
    else
      let i := f.interval m e
      let start := if exponent = 0 then 1 else f.least
      let (count, digits, e) := telling i (f.most - start) start
      sign ++ pointed count digits e

/-- no bits are nought -/
theorem shown_zero (f : RealFormat) (h : 0 < f.exponentBits) : f.shown 0 = ['0'] := by
  have hp : 2 ^ f.exponentBits ≠ 1 := by
    have := Nat.one_lt_two_pow (Nat.pos_iff_ne_zero.mp h); omega
  have hq : (0 : Nat) ≠ 2 ^ f.exponentBits - 1 := by
    have := Nat.one_lt_two_pow (Nat.pos_iff_ne_zero.mp h); omega
  simp [shown, hq]

end RealFormat

/-! ## notations -/

/-- what bytes are taken for: names of characters, characters, or numbers -/
inductive DatumKind where
  | names
  | characters
  | signed
  | unsigned (base : Nat)
  | real
  deriving DecidableEq

/-- how bytes are taken and written: what for, how many for each, and whether they follow once more as
characters -/
structure Notation where
  kind : DatumKind
  size : Nat := 1
  withText : Bool := false

/-- the names of the characters that have no form, and of the space -/
def controlNames : List Text := Text.split ' ' ("nul soh stx etx eot enq ack bel bs ht nl vt ff cr so si "
  ++ "dle dc1 dc2 dc3 dc4 nak syn etb can em sub esc fs gs rs us sp")

/-- has the character of a byte a form in ASCII? -/
def isVisible (b : UInt8) : Bool := 32 ≤ b && b ≤ 126

/-- the characters that have a letter after a backslash -/
def characterEscapes : List (UInt8 × Char) := [(0, '0'), (7, 'a'), (8, 'b'), (12, 'f'), (10, 'n'), (13, 'r'),
  (9, 't'), (11, 'v')]

namespace Notation

/-- how many columns a number needs at most -/
def width (n : Notation) : Nat :=
  let greatest := Nat.pow 256 n.size - 1
  match n.kind with
  | .names | .characters => 3
  | .signed => (Nat.toDigits 10 (greatest / 2 + 1)).length + 1
  | .unsigned base => (Nat.toDigits base greatest).length
  | .real => ((RealFormat.bySize.lookup n.size).map RealFormat.width).getD 0

/-- the number of bytes, the lowest one first -/
def number (bs : Bytes) : Nat := bs.foldr (fun b n => b.toNat + 256 * n) 0

/-- bytes as they are written -/
def shown (n : Notation) (bs : Bytes) : Text :=
  let b := bs.headD 0
  let value := number bs
  match n.kind with
  | .names => (controlNames[b.toNat % 128]?).getD
      (if b.toNat % 128 = 127 then "del" else [Char.ofNat (b.toNat % 128)])
  | .characters => match characterEscapes.lookup b with
    | some c => ['\\', c]
    | none => if isVisible b then [Char.ofNat b.toNat] else Text.zeroPadded 3 (Nat.toDigits 8 b.toNat)
  | .signed =>
    let half := Nat.pow 256 n.size / 2
    Text.ofInt (if value < half then value else (value : Int) - (Nat.pow 256 n.size : Nat))
  | .unsigned 10 => Text.ofNat value
  | .unsigned base => Text.zeroPadded n.width (Nat.toDigits base value)
  | .real => ((RealFormat.bySize.lookup n.size).map fun f => f.shown value).getD []

/-- a byte as a character has at most three columns -/
theorem width_characters (n : Notation) (h : n.kind = .characters) : n.width = 3 := by
  simp [width, h]

end Notation

/-! ## reading -/

/-- the sizes that letters stand for -/
def sizeLetters : List (Char × Nat) := [('C', 1), ('S', 2), ('I', 4), ('L', 8)]

/-- the sizes of real numbers that letters stand for -/
def realLetters : List (Char × Nat) := [('F', 4), ('D', 8), ('L', 16)]

/-- the size of a number in front of a text, and what follows it -/
def datumSize (whole : Text) (isReal : Bool) (t : Text) : Except Text (Nat × Text) :=
  let letters := if isReal then realLetters else sizeLetters
  match t.head?.bind fun c => letters.lookup c with
  | some n => .ok (n, t.drop 1)
  | none =>
    let digits := t.takeWhile Text.isDigit
    match count? digits with
    | none => .ok (if isReal then 8 else 4, t)
    | some n =>
      if (if isReal then [4, 8, 16] else [1, 2, 4, 8]).contains n then .ok (n, t.drop digits.length)
      else .error ("invalid type string '" ++ whole ++ "';\nthis system doesn't provide a "
        ++ Text.ofNat n ++ "-byte " ++ (if isReal then ("floating point" : Text) else "integral") ++ " type")

/-- the notations of a text; each step uses up a character -/
def notationsFrom (whole : Text) : Nat → Text → Except Text (List Notation)
  | 0, _ | _ + 1, [] => .ok []
  | fuel + 1, c :: t => do
    let numeric : List (Char × DatumKind) :=
      [('d', .signed), ('u', .unsigned 10), ('o', .unsigned 8), ('x', .unsigned 16), ('f', .real)]
    let own : Notation × Text ←
      match numeric.lookup c with
      | some kind => do
        let (size, rest) ← datumSize whole (kind = .real) t
        pure ({ kind, size }, rest)
      | none =>
        if c = 'a' then pure ({ kind := .names }, t)
        else if c = 'c' then pure ({ kind := .characters }, t)
        else throw ("invalid character '" ++ [c] ++ "' in type string '" ++ whole ++ "'")
    let withText := own.2.head? == some 'z'
    let more ← notationsFrom whole fuel (if withText then own.2.drop 1 else own.2)
    pure ({ own.1 with withText } :: more)

/-- the notations that letters of their own mean -/
def letterNotations : List (Char × Text) := [('a', "a"), ('b', "o1"), ('c', "c"), ('D', "u4"), ('d', "u2"),
  ('H', "x4"), ('X', "x4"), ('i', "dI"), ('I', "dL"), ('L', "dL"), ('l', "dL"), ('O', "o4"), ('B', "o2"),
  ('o', "o2"), ('s', "d2"), ('h', "x2"), ('x', "x2"), ('e', "fD"), ('F', "fD"), ('f', "fF")]

/-- the notations of an option -/
def notationsOf (o : Char × Text) : Except Text (List Notation) :=
  match if o.1 = 't' then some o.2 else letterNotations.lookup o.1 with
  | some t => notationsFrom t t.length t
  | none => .ok []

/-! ## lines -/

/-- how lines of bytes are written: in which notations, how many bytes on each, the base of the places
before them and how many digits these have, whether lines that repeat the line before them are
written, and whether the highest byte of a number comes first -/
structure Dump where
  notations : List Notation
  perLine : Nat := 16
  base : Option (Nat × Nat) := some (8, 7)
  repeats : Bool := false
  highestFirst : Bool := false

namespace Dump

/-- a place before a line -/
def place (d : Dump) (n : Nat) : Text :=
  match d.base with
  | none => []
  | some (base, digits) => Text.zeroPadded digits (Nat.toDigits base n)

/-- bytes in groups of a size, the last one filled up -/
def groups (size : Nat) : Nat → Bytes → List Bytes
  | 0, _ | _ + 1, [] => []
  | fuel + 1, b :: bs =>
    let own := (b :: bs).take size
    (own ++ List.replicate (size - own.length) 0) :: groups size fuel ((b :: bs).drop size)

/-- how many columns all groups of a line need, with one between them -/
def lineWidth (d : Dump) : Nat :=
  (d.notations.map fun n => (n.width + 1) * (d.perLine / n.size)).foldl max 0

/-- the columns of a notation: the texts of groups, with the spare columns spread between them -/
def columns (d : Dump) (n : Notation) (bs : Bytes) : Text :=
  let fields := d.perLine / n.size
  let spare := d.lineWidth - n.width * fields
  let texts := (groups n.size bs.length bs).map fun g => n.shown (if d.highestFirst then g.reverse else g)
  let own := texts.zipIdx.flatMap fun (t, i) =>
    let width := n.width + spare * (fields - i) / fields - spare * (fields - i - 1) / fields
    Text.spaces (width - t.length) ++ t
  if n.withText then
    let blank := fields - texts.length
    let visible (b : UInt8) : Char := if isVisible b then Char.ofNat b.toNat else '.'
    own ++ Text.spaces (blank * n.width + spare * blank / fields) ++ [' ', ' ', '>'] ++ bs.map visible ++ ['<']
  else own

/-- a line for each notation, the first one behind the place -/
def line (d : Dump) (place : Nat) (bs : Bytes) : List Text :=
  let front := d.place place
  d.notations.zipIdx.map fun (n, i) =>
    (if i = 0 then front else Text.spaces front.length) ++ d.columns n bs

/-- the lines of bytes from a place on; `before` is the line before, and whether it repeats the one
before itself.  Each step uses up a byte. -/
def linesFrom (d : Dump) : Nat → Nat → Option Bytes → Bool → Bytes → List Text
  | 0, place, _, _, _ => if d.base.isNone then [] else [d.place place]
  | fuel + 1, place, before, repeating, bs =>
    if bs.isEmpty then if d.base.isNone then [] else [d.place place]
    else
      let own := bs.take d.perLine
      let next := linesFrom d fuel (place + own.length) (some own)
      if !d.repeats && some own == before && own.length = d.perLine then
        (if repeating then [] else [['*']]) ++ next true (bs.drop d.perLine)
      else d.line place own ++ next false (bs.drop d.perLine)

end Dump

/-! ## the filter -/

/-- the base of places that a letter stands for -/
def placeBase? (c : Char) : Option (Option (Nat × Nat)) :=
  let table : List (Char × Option (Nat × Nat)) :=
    [('d', some (10, 7)), ('o', some (8, 7)), ('x', some (16, 6)), ('n', none)]
  table.lookup c

/-- what options ask for: the form of lines, how many bytes are left out, and how many are written; or how
many characters make a text, if only texts are written -/
structure DumpErrand where
  dump : Dump := { notations := [] }
  skipped : Nat := 0
  most : Option Nat := none
  width : Option Nat := none
  texts : Option Nat := none

namespace DumpErrand

/-- the letters of the options that have none of their own -/
def skipLetter : Char := '\x01'
def readLetter : Char := '\x02'
def endLetter : Char := '\x03'
def stringsLetter : Char := '\x04'
def widthLetter : Char := '\x05'
def oldLetter : Char := '\x06'

/-- a number for an option, which is called by its word or its letter -/
def number (option : Text) (anyBase : Bool) (units t : Text) : Except (Text × Bool) Nat :=
  (amountOf anyBase units t).mapError fun f => (match f with
    | .noNumber => "invalid " ++ option ++ " argument '" ++ t ++ "'"
    | .noUnit => "invalid suffix in " ++ option ++ " argument '" ++ t ++ "'"
    | .tooLarge => option ++ " argument '" ++ t ++ "' too large", false)

/-- what is asked for with one more option, or what is wrong with it; help is named after some faults -/
def withOption (e : DumpErrand) (o : Char × Text) : Except (Text × Bool) DumpErrand :=
  let size (option : Text) : Except (Text × Bool) Nat := number option true "bEGKkMmPTYZ0" o.2
  let columns (option : Text) : Except (Text × Bool) DumpErrand :=
    if o.2.isEmpty then .ok { e with width := some 32 }
    else (number option false [] o.2).map fun n => { e with width := some n }
  if o.1 = 'A' then match o.2.head?.bind placeBase? with
    | some base => .ok { e with dump := { e.dump with base } }
    | none => .error ("invalid output address radix '" ++ o.2.take 1
      ++ "'; it must be one character from [doxn]", false)
  else if o.1 = 'j' then (size "-j").map fun n => { e with skipped := n }
  else if o.1 = skipLetter then (size "--skip-bytes").map fun n => { e with skipped := n }
  else if o.1 = 'N' then (size "-N").map fun n => { e with most := some n }
  else if o.1 = readLetter then (size "--read-bytes").map fun n => { e with most := some n }
  else if o.1 = 'S' then (size "-S").map fun n => { e with texts := some n }
  else if o.1 = stringsLetter then
    if o.2.isEmpty then .ok { e with texts := some 3 }
    else (size "--strings").map fun n => { e with texts := some n }
  else if o.1 = 'w' then columns "-w"
  else if o.1 = widthLetter then columns "--width"
  else if o.1 = 'v' then .ok { e with dump := { e.dump with repeats := true } }
  else if o.1 = endLetter then
    ((chosenWord "--endian" [["little"], ["big"]] o.2).mapError fun t => (t, true)).map fun w =>
      { e with dump := { e.dump with highestFirst := w == "big".toList } }
  else ((notationsOf o).mapError fun t => (t, false)).map fun ns =>
    { e with dump := { e.dump with notations := e.dump.notations ++ ns } }

/-- a place as an operand, octal without a mark; a letter after it counts blocks -/
def oldPlace? (t : Text) : Option Nat :=
  let t := if t.head? = some '+' then t.drop 1 else t
  let isHexadecimal := Text.startsWith ['0', 'x'] t || Text.startsWith ['0', 'X'] t
  let base := if isHexadecimal then 16 else 8
  let t := if isHexadecimal then t.drop 2 else t
  let digits := t.takeWhile fun c => (Text.hexDigit? c).any (· < base)
  let n := digits.foldl (fun n c => base * n + (Text.hexDigit? c).getD 0) 0
  if digits.isEmpty then none
  else (unitFactor? ['b', 'B'] (t.drop digits.length)).map (n * ·)

/-- the form of lines with what is usual where nothing is asked for, and a warning about a width that does
not fit -/
def completed (e : DumpErrand) (s : Scene) : Dump × Bytes :=
  let notations := if e.dump.notations.isEmpty then [⟨.unsigned 8, 2, false⟩] else e.dump.notations
  let unit := notations.foldl (fun n m => Nat.lcm n m.size) 1
  let bad := e.width.filter fun n => n = 0 || n % unit != 0
  let warnings := match bad with
    | some n => remark s.called ("warning: invalid width " ++ Text.ofNat n ++ "; using "
      ++ Text.ofNat unit ++ " instead")
    | none => []
  let perLine := if bad.isSome then unit else e.width.getD (unit * (16 / unit))
  ({ e.dump with notations, perLine }, warnings)

/-- the texts among bytes: characters with a form, so many at least, before a null; `run` is the text begun,
turned round -/
def textsFrom (d : Dump) (least : Nat) (place : Nat) (run : Bytes) : Bytes → List Text
  | [] => []
  | b :: bs =>
    if isVisible b then textsFrom d least (place + 1) (b :: run) bs
    else
      let rest := textsFrom d least (place + 1) [] bs
      if b = 0 && least ≤ run.length then
        let front := d.place (place - run.length)
        ((if front.isEmpty then [] else front ++ [' ']) ++ asText run.reverse) :: rest
      else rest

end DumpErrand

/-- the options of dumping -/
def dumpLetters : Letters where
  plain := "aBbcDdeFfHhIiLlOosvXx" ++ [DumpErrand.oldLetter]
  valued := "AjNtS" ++ [DumpErrand.skipLetter, DumpErrand.readLetter, DumpErrand.endLetter]
  optional := ['w', DumpErrand.stringsLetter, DumpErrand.widthLetter]
  words := [("address-radix", 'A'), ("skip-bytes", DumpErrand.skipLetter), ("read-bytes", DumpErrand.readLetter),
    ("endian", DumpErrand.endLetter), ("strings", DumpErrand.stringsLetter), ("format", 't'),
    ("output-duplicates", 'v'), ("width", DumpErrand.widthLetter), ("traditional", DumpErrand.oldLetter)]

/-- what is written of the bytes of operands -/
def DumpErrand.written (e : DumpErrand) (s : Scene) (operands : List Text) (input : Bytes) : Outcome :=
  let (d, warnings) := e.completed s
  let o := s.across Scene.plainly 1 operands input fun os =>
    let bs := (joinedBytes os).drop e.skipped
    let bs := (e.most.map bs.take).getD bs
    match e.texts with
    | some least => withFeeds (textsFrom d least e.skipped [] bs)
    | none => withFeeds (d.linesFrom (bs.length + 1) e.skipped none false bs)
  let (os, _) := s.operands operands input
  let size := total (os.filterMap fun o => o.2.toOption.map List.length)
  let warnings := if e.texts.isSome then [] else warnings
  if os.all fun o => o.2.toOption.isNone then { o with output := [], errors := warnings ++ o.errors }
  else if size < e.skipped then s.complaint "cannot skip past end of combined input"
  else { o with errors := warnings ++ o.errors }

/-- write bytes as characters or numbers -/
def dumping : Program := withArguments dumpLetters fun s a input =>
  match a.options.foldlM DumpErrand.withOption {} with
  | .error (t, helps) => if helps then s.misuse t input else s.complaint t input
  | .ok e =>
    if e.texts.isSome && a.options.any fun o => (letterNotations.lookup o.1).isSome || o.1 == 't' then
      s.complaint "no type may be specified when dumping strings" input
    else
      let isModern := a.options.any fun o =>
        "AjNSvtw".toList.contains o.1 || (o.1.toNat < 32 && o.1 != DumpErrand.oldLetter)
      let skip (may : Bool) (t : Text) (rest : List Text) : Option (Nat × List Text) :=
        if isModern || !may then none else (DumpErrand.oldPlace? t).map fun n => (n, rest)
      let old := match a.operands with
        | [t] => skip (t.head? = some '+') t []
        | [u, t] => skip (t.head?.any fun c => c == '+' || Text.isDigit c) t [u]
        | _ => none
      match old with
      | some (n, operands) => { e with skipped := n }.written s operands input
      | none => e.written s a.operands input

end DatabaseTypes.Filter
