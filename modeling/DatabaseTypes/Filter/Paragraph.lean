import DatabaseTypes.Filter.Arguments
import DatabaseTypes.Filter.Lines

/-!
# Paragraphs filled

The words of a paragraph are put on lines of about equal length.  Where the lines are broken has a
price, and the cheapest way is found from the last word on.

* `Filter.Paragraph.Word`    a word, and what matters for a break beside it
* `Filter.Paragraph.plan`    where lines are broken
* `Filter.Paragraph.Filling` a text whose paragraphs are being filled
* `Filter.filling`           the filter
-/

namespace DatabaseTypes.Filter.Paragraph

/-! ## words -/

/-- a word: its bytes, how many spaces follow it, whether it starts with an opening bracket, ends with
a period or another mark, and ends a sentence -/
structure Word where
  bytes : Bytes
  space : Nat := 1
  opens : Bool := false
  period : Bool := false
  mark : Bool := false
  final : Bool := false

/-- is a byte a mark, neither a letter nor a digit nor a blank? -/
def isMark (b : UInt8) : Bool :=
  (33 ≤ b && b ≤ 47) || (58 ≤ b && b ≤ 64) || (91 ≤ b && b ≤ 96) || (123 ≤ b && b ≤ 126)

/-- a word of bytes, at the end of its line or with so many spaces after it; `uniform` asks for the
same space everywhere -/
def Word.ofBytes (bytes : Bytes) (atEnd atAllEnd uniform : Bool) (space : Nat) : Word :=
  let closing : Bytes := asBytes ")]'\""
  let back := bytes.drop 1 |>.reverse |>.dropWhile closing.contains
  let last := (back.head? <|> bytes.head?).getD 0
  let period := (asBytes ".?!").contains last
  let final := atAllEnd || (period && (atEnd || 1 < space))
  { bytes, period, final
    opens := (asBytes "(['\x60\"").contains (bytes.headD 0)
    mark := isMark (bytes.getLastD 0)
    space := if atEnd || uniform then if final then 2 else 1 else space }

/-! ## prices -/

/-- the price of a line that is so much shorter or longer than it should be -/
def shortPrice (n : Int) : Int := (n * 10) * (n * 10)

/-- the price of neighbours that are so unlike in length -/
def raggedPrice (n : Int) : Int := shortPrice n / 2

/-- the price of a line that starts with a word, after the words before it, the last of them first -/
def startPrice (before : List Word) (w : Word) : Int :=
  let after : Int := match before with
    | [] => 0
    | v :: vs =>
      if v.period then if v.final then -2500 else 360000
      else if v.mark then -1600
      else if vs.head?.any (·.final) then 40000 / (v.bytes.length + 2) else 0
  let own : Int :=
    if w.opens then -1600 else if w.final then 22500 / (w.bytes.length + 2) else 0
  4900 + after + own

/-- how wide lines should be and may be -/
structure Widths where
  goal : Nat := 70
  most : Nat := 75

/-- a word with the price of all from it on if a line starts with it, how long that line is, and how
many words it has -/
structure Step where
  word : Word
  price : Int
  length : Nat
  count : Nat
  /-- does the line hold all that is left? -/
  isLast : Bool

/-- the price of a line of some length before other steps -/
def linePrice (widths : Widths) (length : Nat) : List Step → Int
  | [] => 0
  | s :: _ =>
    shortPrice (widths.goal - length)
      + (if s.isLast then 0 else raggedPrice (length - s.length)) + s.price

/-- a line that may be the cheapest: the price of all from it on, its length, how many words it has,
and whether it holds all that is left -/
structure Offer where
  price : Int
  length : Nat
  count : Nat
  isLast : Bool

/-- the cheaper of two lines, the first one if they are equal -/
def Offer.orCheaper (o : Option Offer) (p : Offer) : Option Offer :=
  match o with
  | some o => some (if p.price < o.price then p else o)
  | none => some p

/-- the cheapest line that starts with some words: `length` is the length of these, `space` what
follows them, `own` the price of a length, and `best` the cheapest line with fewer words -/
def cheapest (widths : Widths) (own : Nat → Int) (best : Option Offer) (length space count : Nat) :
    List Step → Option Offer
  | [] => Offer.orCheaper best ⟨linePrice widths length [] + own length, length, count, true⟩
  | s :: more =>
    let best := Offer.orCheaper best
      ⟨linePrice widths length (s :: more) + own length, length, count, false⟩
    let longer := length + space + s.word.bytes.length
    if longer < widths.most then cheapest widths own best longer s.word.space (count + 1) more else best

/-- where lines are broken: the first line is indented by `first` and the others by `other`; `last` is
the length of the line before the first one, if there is one, and `before` holds the words in front,
the last of them first -/
def plan (widths : Widths) (first other last : Nat) : List Word → List Word → List Step
  | _, [] => []
  | before, w :: ws =>
    let steps := plan widths first other last (w :: before) ws
    let isFirst := before.isEmpty
    let own (n : Nat) : Int := if isFirst && 0 < last then raggedPrice (n - last) else 0
    let indent := if isFirst then first else other
    match cheapest widths own none (indent + w.bytes.length) w.space 1 steps with
    | some o =>
      { word := w, price := o.price + startPrice before w, length := o.length, count := o.count
        isLast := o.isLast } :: steps
    | none => steps

/-- the lines of a plan, each as the steps from its first word on -/
def linesOf : Nat → List Step → List (List Step)
  | 0, _ => []
  | _ + 1, [] => []
  | fuel + 1, s :: steps => (s :: steps) :: linesOf fuel ((s :: steps).drop (max s.count 1))

/-! ## filling -/

/-- how paragraphs are filled: what stands before each of their lines, and how their lines are
indented -/
structure Shape where
  widths : Widths := {}
  crown : Bool := false
  tagged : Bool := false
  split : Bool := false
  uniform : Bool := false
  /-- how many spaces stand before the mark of lines, the mark, and how many spaces follow it -/
  lead : Nat := 0
  mark : Bytes := []
  trail : Nat := 0

/-- the front of a line: the column of its mark, the column after the mark and blanks, what follows,
and whether the line is ended; nothing follows at the end of all -/
structure Front where
  markAt : Nat := 0
  column : Nat := 0
  rest : Bytes := []
  ended : Bool := false

/-- a text whose paragraphs are being filled -/
structure Filling where
  /-- what is written, the last byte first, and where the next one goes -/
  written : Bytes := []
  column : Nat := 0
  /-- is there a tab in the text so far? -/
  tabs : Bool := false
  /-- the indents of the paragraph, and the length of the line before -/
  mark : Nat := 0
  first : Nat := 0
  other : Nat := 0
  last : Nat := 0
  /-- the words of the paragraph, the last one first, and how many bytes they have -/
  words : List Word := []
  size : Nat := 0

namespace Filling

/-- bytes written -/
def put (f : Filling) (bs : Bytes) : Filling :=
  { f with written := bs.reverse ++ f.written, column := f.column + bs.length }

/-- a feed written -/
def feed (f : Filling) : Filling := { f with written := 10 :: f.written, column := 0 }

/-- spaces written, as tabs where that may be -/
def putSpace (f : Filling) (n : Nat) : Filling :=
  let target := f.column + n
  let stop := target / 8 * 8
  let f := if f.tabs && f.column + 1 < stop
    then { f with written := List.replicate (stop / 8 - f.column / 8) 9 ++ f.written, column := stop }
    else f
  f.put (List.replicate (target - f.column) 32)

/-- a line of words written -/
def putLine (shape : Shape) (indent : Nat) (f : Filling) (words : List Word) : Filling :=
  let f := ({ f with column := 0 }.putSpace f.mark).put shape.mark
  let f := f.putSpace (indent - f.column)
  let f := words.zipIdx.foldl (fun (f : Filling) w =>
    let f := f.put w.1.bytes
    if w.2 + 1 < words.length then f.putSpace w.1.space else f) f
  { f.feed with last := f.column }

/-- lines of words written -/
def putLines (shape : Shape) (f : Filling) (ls : List (List Step)) : Filling :=
  ls.zipIdx.foldl (fun f l =>
    let count := (l.1.head?.map (·.count)).getD 0
    f.putLine shape (if l.2 = 0 then f.first else f.other) ((l.1.take count).map (·.word))) f

/-- the plan of the words -/
def planned (shape : Shape) (f : Filling) : List (List Step) :=
  let steps := plan shape.widths f.first f.other f.last [] f.words.reverse
  linesOf steps.length steps

/-- the whole paragraph written -/
def settled (shape : Shape) (f : Filling) : Filling :=
  { f.putLines shape (f.planned shape) with words := [], size := 0 }

/-- the number of the line before which a long paragraph is divided: the lines in front of it are
cheap, and later ones are better by a little each -/
def division (ls : List (List Step)) : Nat :=
  let priceAt (i : Nat) : Int := ((ls[i]?.bind List.head?).map (·.price)).getD 0
  let (_, chosen) := (List.range ls.length).drop 1 |>.foldl
    (fun (r : Option Int × Nat) i =>
      let own := priceAt i - priceAt (i + 1)
      let r := if r.1.all (own < ·) then (some own, i) else r
      (r.1.map (· + 9), r.2)) (none, ls.length)
  chosen

/-- the front of a paragraph that is too long, written; the word begun has its last byte first -/
def divided (shape : Shape) (f : Filling) (begun : Bytes) : Filling × Bytes :=
  if f.words.isEmpty then ({ f with written := begun ++ f.written, size := 0 }, [])
  else
    let ls := f.planned shape
    let n := division ls
    let rest := ((ls[n]?.getD []).map (·.word)).reverse
    let size := total (rest.map (·.bytes.length))
    ({ f.putLines shape (ls.take n) with words := rest, size := size + begun.length }, begun)

/-- the indent of all lines but the first, once it is known whether the paragraph goes on in some
column -/
def withOther (shape : Shape) (f : Filling) (goesOn : Bool) (column : Nat) : Filling :=
  if shape.split then { f with other := f.first }
  else if shape.crown then { f with other := if goesOn then column else f.first }
  else if shape.tagged then
    if goesOn && column != f.first then { f with other := column }
    else if f.other = f.first then { f with other := if f.first = 0 then 3 else 0 }
    else f
  else { f with other := f.first }

/-- the most bytes and words that a paragraph may have before it is divided -/
def mostBytes : Nat := 5000
def mostWords : Nat := 998

/-- a word read in some column, with the paragraph divided where it gets too long; `next` is the
column of the next word -/
def withWord (shape : Shape) (column next : Nat) (f : Filling) (bytes : Bytes) (finish : Bytes → Word) :
    Filling :=
  let (f, begun) := bytes.foldl (fun (r : Filling × Bytes) b =>
    let (f, begun) := if r.1.size = mostBytes
      then (r.1.withOther shape true column).divided shape r.2 else r
    ({ f with size := f.size + 1 }, b :: begun)) (f, [])
  let f := if f.words.length = mostWords
    then ((f.withOther shape true next).divided shape begun).1 else f
  { f with words := finish begun.reverse :: f.words }

/-! ## lines -/

/-- blanks in front of bytes: the column after them, what follows, and whether there is a tab -/
def blanks (column : Nat) : Bytes → Nat × Bytes × Bool
  | 32 :: bs => blanks (column + 1) bs
  | 9 :: bs => match blanks (column / 8 * 8 + 8) bs with
    | (column, rest, _) => (column, rest, true)
  | bs => (column, bs, false)

/-- the mark read in front of bytes, as far as it is there -/
def markRead (column : Nat) : Bytes → Bytes → Nat × Bytes × Bool
  | [], bs => (column, bs, true)
  | m :: ms, b :: bs => if m = b then markRead (column + 1) ms bs else (column, b :: bs, false)
  | _ :: _, [] => (column, [], false)

/-- the front of a line, and whether there is a tab in it -/
def front (shape : Shape) (l : Bytes) : Front × Bool :=
  let ended := l.getLast? == some 10
  let (column, rest, tabs) := blanks 0 (if ended then l.dropLast else l)
  if shape.mark.isEmpty then ({ markAt := min shape.lead column, column, rest, ended }, tabs)
  else match markRead column shape.mark rest with
    | (after, rest, false) => ({ markAt := column, column := after, rest, ended }, tabs)
    | (after, rest, true) =>
      let (after, rest, more) := blanks after rest
      ({ markAt := column, column := after, rest, ended }, tabs || more)

/-- is a byte one that ends a word? -/
def endsWord (b : UInt8) : Bool := b == 32 || (9 ≤ b && b ≤ 13)

/-- the words of a line read from some column on; each step uses up a byte -/
def withLine (shape : Shape) (ended : Bool) : Nat → Filling → Nat → Bytes → Filling
  | 0, f, _, _ => f
  | fuel + 1, f, column, bs =>
    let bytes := bs.take 1 ++ (bs.drop 1).takeWhile fun b => !endsWord b
    let start := column + bytes.length
    let (next, rest, tabs) := blanks start (bs.drop bytes.length)
    let finish (own : Bytes) : Word :=
      Word.ofBytes own rest.isEmpty (rest.isEmpty && !ended) shape.uniform (next - start)
    let f := withWord shape column next { f with tabs := f.tabs || tabs } bytes finish
    if rest.isEmpty then f else withLine shape ended fuel f next rest

/-- may a line belong to a paragraph at all? -/
def holdsWords (shape : Shape) (l : Front) : Bool :=
  !l.rest.isEmpty && shape.lead ≤ l.markAt
    && l.markAt + shape.mark.length + shape.trail ≤ l.column

/-- does a line go on with the paragraph, as far as its mark tells? -/
def goesOn (shape : Shape) (f : Filling) (l : Front) : Bool :=
  !l.rest.isEmpty && l.markAt = f.mark && l.markAt + shape.mark.length + shape.trail ≤ l.column

/-- a line that belongs to no paragraph, written as it is but for its blanks -/
def copied (shape : Shape) (f : Filling) (l : Front) : Filling :=
  let f := { f with column := 0 }
  let f := if l.markAt < l.column || !l.rest.isEmpty then
      let f := f.putSpace l.markAt
      let f := f.put (shape.mark.take (l.column - f.column))
      let f := if l.rest.isEmpty then f else f.putSpace (l.column - f.column)
      if l.rest.isEmpty && !l.ended && l.markAt + shape.mark.length ≤ l.column then f.feed else f
    else f
  let f := f.put l.rest
  if l.ended then f.feed else f

/-- does a line after the second one belong to the paragraph? -/
def belongs (shape : Shape) (f : Filling) (l : Front) : Bool :=
  goesOn shape f l && l.column = f.other

/-- does the second line belong to the paragraph? -/
def secondBelongs (shape : Shape) (f : Filling) (l : Front) : Bool :=
  goesOn shape f l && !shape.split &&
    (if shape.crown then true
      else if shape.tagged then l.column != f.first
      else l.column = f.other)

/-- what state a paragraph is in: there is none, its first line is read, or more of it -/
inductive Place where
  | outside
  | afterFirst
  | within
  deriving DecidableEq

/-- the last word of a paragraph ends a sentence -/
def closed (f : Filling) : Filling :=
  { f with words := match f.words with
    | w :: ws => { w with period := true, final := true } :: ws
    | [] => [] }

/-- the words of a line read -/
def reading (shape : Shape) (f : Filling) (l : Front) : Filling :=
  withLine shape l.ended (l.rest.length + 1) f l.column l.rest

/-- a line that begins a paragraph, or none -/
def opening (shape : Shape) (f : Filling) (l : Front) : Filling × Place :=
  if holdsWords shape l then
    (reading shape { f with mark := l.markAt, first := l.column, last := 0, words := [], size := 0 } l,
      .afterFirst)
  else (copied shape f l, .outside)

/-- a line taken -/
def line (shape : Shape) (r : Filling × Place) (bs : Bytes) : Filling × Place :=
  let (l, tabs) := front shape bs
  let f := { r.1 with tabs := r.1.tabs || tabs }
  match r.2 with
  | .outside => opening shape f l
  | .afterFirst =>
    let f := f.withOther shape (goesOn shape f l) l.column
    if secondBelongs shape f l then (reading shape f l, .within)
    else opening shape (f.closed.settled shape) l
  | .within =>
    if belongs shape f l then (reading shape f l, .within)
    else opening shape (f.closed.settled shape) l

/-- a text with its paragraphs filled -/
def filled (shape : Shape) (bs : Bytes) : Bytes :=
  let (f, place) := (byteLines bs).foldl (line shape) ({}, .outside)
  let f := if place = .afterFirst then f.withOther shape false 0 else f
  let f := if place = .outside then f else f.closed.settled shape
  f.written.reverse

end Filling
end Paragraph

/-! ## the filter -/

open Paragraph in
/-- the shape that options ask for, or what is wrong with them -/
def Paragraph.Shape.ofArguments (a : Arguments) : Except Text Shape := do
  let given (c : Char) (most : Nat) : Except Text (Option Nat) :=
    match a.value? c with
    | none => pure none
    | some t => (bounded "invalid width" 0 most t).map some
  let most ← given 'w' 2500
  let goal ← given 'g' (most.getD 75)
  let widths : Widths := match goal with
    | some goal => { goal, most := most.getD (goal + 10) }
    | none => { goal := most.getD 75 * 187 / 200, most := most.getD 75 }
  let own := (a.value? 'p').getD []
  let mark := own.dropWhile (· == ' ')
  let bare := (mark.reverse.dropWhile (· == ' ')).reverse
  pure {
    widths, crown := a.has 'c', tagged := a.has 't', split := a.has 's', uniform := a.has 'u'
    lead := own.length - mark.length, mark := Text.toBytes bare, trail := mark.length - bare.length }

/-- the options of filling -/
def fillLetters : Letters where
  plain := "cstu0123456789"
  valued := "wgp"
  words := [("crown-margin", 'c'), ("prefix", 'p'), ("split-only", 's'), ("tagged-paragraph", 't'),
    ("uniform-spacing", 'u'), ("width", 'w'), ("goal", 'g')]

/-- a width after a dash as the first argument, as an option in full -/
def firstWidth : List Text → List Text
  | ('-' :: c :: t) :: more => if Text.isDigit c then ['-', 'w'] :: (c :: t) :: more else ('-' :: c :: t) :: more
  | args => args

/-- fill paragraphs -/
def filling : Program := fun s args input =>
  let perform : Program := withArguments fillLetters fun s a input =>
    match a.options.find? fun o => Text.isDigit o.1 with
    | some (c, _) =>
      s.misuse ("invalid option -- " ++ [c]
        ++ "; -WIDTH is recognized only when it is the first\noption; use -w N instead") input
    | none => match Paragraph.Shape.ofArguments a with
      | .error t => s.complaint t input
      | .ok shape =>
        let failure (operand : Text) (cause : SystemCause) : Text :=
          if cause = .isDirectory then "read error"
          else "cannot open '" ++ operand ++ "' for reading: " ++ cause.message
        s.across failure 1 a.operands input fun os =>
          os.flatMap fun o => Paragraph.Filling.filled shape o.2
  perform s (firstWidth args) input

end DatabaseTypes.Filter
