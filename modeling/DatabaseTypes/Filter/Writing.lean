import DatabaseTypes.Decimal.Arithmetic
import DatabaseTypes.Filter.Arguments
import DatabaseTypes.Filter.Basic
import DatabaseTypes.Filter.Figure
import DatabaseTypes.Filter.Scene

/-!
# Programs that write

A backslash and what follows it stand for bytes.

* `Filter.EscapeRules`   which escapes there are
* `Filter.unescaped`     the bytes of a text with escapes, and whether one of them ends the output
* `Filter.Manner`      the manner of a shell's own programs, or of the programs in files
* `Filter.printing`    write a format with arguments
* `Filter.echoing`     write arguments
* `Filter.listing`     write numbers in their order
* `Filter.lastPart`, `Filter.firstParts`, `Filter.placing`   parts of paths, and where one works
* `Filter.telling`     write variables
* `Filter.sleeping`, `Filter.endless`   wait for some time, and for ever
-/

namespace DatabaseTypes.Filter

/-! ## escapes -/

/-- which escapes there are: hexadecimal digits after an `x`, a quote, a zero before three octal
digits, and a `c` that ends the output -/
structure EscapeRules where
  hexadecimal : Bool := false
  quotes : Bool := false
  zeroFirst : Bool := false
  ends : Bool := false

/-- bytes, and whether the output ends with them -/
structure Unescaped where
  bytes : Bytes := []
  ended : Bool := false

/-- bytes before others -/
def Unescaped.after (front : Bytes) (u : Unescaped) : Unescaped := { u with bytes := front ++ u.bytes }

/-- the byte of up to two hexadecimal digits, and what follows them -/
def hexadecimalByte? (t : Text) : Option (UInt8 × Text) :=
  match (t.take 2).takeWhile fun c => (Text.hexDigit? c).isSome with
  | [] => none
  | ds =>
    let value := ds.foldl (fun n c => 16 * n + (Text.hexDigit? c).getD 0) 0
    some (UInt8.ofNat value, t.drop ds.length)

/-- the bytes of what follows a backslash, and the rest; none if the output ends there -/
def escape? (r : EscapeRules) (c : Char) (t : Text) : Option (Bytes × Text) :=
  let asItIs : Option (Bytes × Text) := some (Text.toBytes ['\\', c], t)
  if (octal? c).isSome then
    let digits := if r.zeroFirst && c == '0' then t else c :: t
    let (b, rest) := octalByte digits
    some ([b], rest)
  else if c = 'c' then if r.ends then none else asItIs
  else if c = 'x' then
    match r.hexadecimal, hexadecimalByte? t with
    | true, some (b, rest) => some ([b], rest)
    | _, _ => asItIs
  else if c = '"' then if r.quotes then some ([34], t) else asItIs
  else match letterByte? c with
    | some b => some ([b], t)
    | none => asItIs

/-- the bytes of a text with its escapes; each step uses up a character -/
def unescapedFrom (r : EscapeRules) : Nat → Text → Unescaped
  | 0, _ => {}
  | _ + 1, [] => {}
  | fuel + 1, '\\' :: c :: t =>
    match escape? r c t with
    | none => { ended := true }
    | some (bs, rest) => (unescapedFrom r fuel rest).after bs
  | fuel + 1, c :: t => (unescapedFrom r fuel t).after (Text.toBytes [c])

/-- the bytes of a text with its escapes -/
def unescaped (r : EscapeRules) (t : Text) : Unescaped := unescapedFrom r t.length t

/-- a text without a backslash stands for itself -/
theorem unescaped_nil (r : EscapeRules) : unescaped r [] = {} := rfl

/-! ## manners -/

/-- a shell has programs of its own, in a manner that differs from that of the programs in files -/
inductive Manner where
  | shell
  | file
  deriving DecidableEq

/-- an end with an output; the input is left -/
def leaving (input output : Bytes) : Outcome := { output, left := input }

/-! ## formats -/

/-- a format that is being written: the arguments that are left, and whether the output has ended -/
structure Filling where
  output : Bytes := []
  errors : Bytes := []
  status : Nat := 0
  arguments : List Text
  ended : Bool := false

namespace Filling

/-- more output -/
def wrote (f : Filling) (bytes : Bytes) : Filling := { f with output := f.output ++ bytes }

/-- the next argument -/
def next (f : Filling) : Text × Filling := (f.arguments.headD [], { f with arguments := f.arguments.drop 1 })

/-- a message -/
def told (f : Filling) (s : Scene) (message : Text) : Filling :=
  { f with errors := f.errors ++ remark s.called message, status := max f.status 1 }

/-- a message after which nothing is written any more -/
def failed (f : Filling) (s : Scene) (m : Manner) (message : Text) : Filling :=
  { f.told s message with status := if m = .shell then 2 else 1, ended := true }

/-- what is wrong with a number in words -/
def numberMessage (m : Manner) (t : Text) : NumberFault → Text
  | .noNumber => if m = .shell then t ++ ": expected numeric value"
    else "'" ++ t ++ "': expected a numeric value"
  | .moreFollows => if m = .shell then t ++ ": not completely converted"
    else "'" ++ t ++ "': value not completely converted"
  | .outOfRange => (if m = .shell then t else "'" ++ t ++ "'") ++ ": Numerical result out of range"

/-- a message about a number, if there is something wrong with it -/
def checked (f : Filling) (s : Scene) (m : Manner) (t : Text) : Option NumberFault → Filling
  | none => f
  | some fault => f.told s (numberMessage m t fault)

/-- the next argument as a whole number -/
def nextNumber (f : Filling) (s : Scene) (m : Manner) (least greatest : Int) : Int × Filling :=
  let (t, f) := f.next
  let (n, fault) := wholeNumber least greatest t
  (n, f.checked s m t fault)

/-- the next argument as a signed number of sixty-four bits -/
def nextSigned (f : Filling) (s : Scene) (m : Manner) : Int × Filling :=
  f.nextNumber s m (-(Nat.pow 2 63 : Nat)) ((Nat.pow 2 63 : Nat) - 1)

end Filling

/-- a text between quotes, as a shell reads it, if it needs them -/
def shellQuoted (t : Text) : Text :=
  let isSafe (c : Char) : Bool :=
    Text.isLetter c || Text.isDigit c || ("%+-./:=@_,".toList).contains c
  if t.isEmpty then "''"
  else if t.all isSafe then t
  else if !t.contains '\'' then ['\''] ++ t ++ ['\'']
  else if !t.any (("\"$`\\!".toList).contains ·) then ['"'] ++ t ++ ['"']
  else ['\''] ++ Text.replaced ['\''] "'\\''" t ++ ['\'']

/-- the escapes in a format -/
def Manner.formatEscapes (m : Manner) : EscapeRules :=
  { hexadecimal := m = .file, quotes := m = .file, ends := m = .file }

/-- the escapes in an argument of a format -/
def Manner.argumentEscapes (m : Manner) : EscapeRules :=
  { hexadecimal := m = .file, quotes := m = .file, zeroFirst := true, ends := true }

/-- one value by its letter; `word` is the directive in words -/
def Filling.converted (f : Filling) (s : Scene) (m : Manner) (word : Text) (figure : Figure)
    (letter : Char) : Filling :=
  let cut (bytes : Bytes) : Bytes := (figure.places.map bytes.take).getD bytes
  if letter = 's' then
    let (t, f) := f.next
    f.wrote (figure.padded (cut t.toBytes))
  else if letter = 'q' && m == .file then
    let (t, f) := f.next
    f.wrote (figure.padded (shellQuoted t).toBytes)
  else if letter = 'b' then
    let (t, f) := f.next
    let u := unescaped m.argumentEscapes t
    { f.wrote (figure.padded (cut u.bytes)) with ended := u.ended }
  else if letter = 'c' then
    let (t, f) := f.next
    f.wrote (figure.padded (t.toBytes.headD 0 :: []))
  else if letter = 'd' ∨ letter = 'i' then
    let (n, f) := f.nextSigned s m
    f.wrote (figure.whole n)
  else if ("uoxX".toList).contains letter then
    let bound : Int := (Nat.pow 2 64 : Nat)
    let (n, f) := f.nextNumber s m (1 - bound) (bound - 1)
    f.wrote (figure.unsigned letter n)
  else if ("feEgGF".toList).contains letter then
    let (t, f) := f.next
    let (negative, q, fault) := placedNumber t
    (f.checked s m t fault).wrote (figure.placed letter negative q)
  else f.failed s m (word ++ if m = .shell then ": invalid directive"
    else ": invalid conversion specification")

/-- a number in a directive, which may come from the arguments -/
def Filling.amount (f : Filling) (s : Scene) (m : Manner) : Text → Option Int × Text × Filling
  | '*' :: t =>
    let (n, f) := f.nextSigned s m
    (some n, t, f)
  | t =>
    let digits := t.takeWhile Text.isDigit
    (count? digits |>.map fun n => (n : Int), t.drop digits.length, f)

/-- a directive after its sign, and the rest of the format -/
def Filling.directive (f : Filling) (s : Scene) (m : Manner) (t : Text) : Filling × Text :=
  let flags := t.takeWhile (("-+ #0".toList).contains ·)
  let (width, u, f) := f.amount s m (t.drop flags.length)
  let (places, u, f) : Option Int × Text × Filling := match u with
    | '.' :: u =>
      let (p, u, f) := f.amount s m u
      (some (p.getD 0), u, f)
    | u => (none, u, f)
  let u := if m = .file then u.dropWhile (("hlLjzt".toList).contains ·) else u
  let width := width.getD 0
  let figure : Figure := {
    flags := if width < 0 then '-' :: flags else flags
    width := width.natAbs, places := places.bind fun p => if p < 0 then none else some p.toNat }
  match u with
  | [] =>
    let message : Text :=
      if m = .shell then "missing format character" else '%' :: t ++ ": invalid conversion specification"
    (f.failed s m message, [])
  | letter :: rest => (f.converted s m ('%' :: t.take (t.length - rest.length)) figure letter, rest)

/-- the code of a character in so many hexadecimal digits -/
def codeAhead? (count : Nat) (t : Text) : Option Nat :=
  let digits := t.take count
  if digits.length = count then
    (digits.mapM Text.hexDigit?).map fun ds => ds.foldl (fun n d => 16 * n + d) 0
  else none

/-- a character by its code, as it is written where only the first characters are known -/
def codeBytes (letter : Char) (count n : Nat) : Bytes :=
  if n < 128 then [UInt8.ofNat n]
  else Text.toBytes ('\\' :: letter :: Text.zeroPadded count ((Nat.toDigits 16 n).map Char.toUpper))

/-- a format written once; each step uses up a character -/
def Filling.once (s : Scene) (m : Manner) : Nat → Text → Filling → Filling
  | 0, _, f => f
  | _ + 1, [], f => f
  | fuel + 1, c :: t, f =>
    if f.ended then f
    else match c, t with
      | '%', '%' :: t => once s m fuel t (f.wrote [37])
      | '%', t =>
        let (f, rest) := f.directive s m t
        once s m fuel rest f
      | '\\', d :: t =>
        if m = .file && d == 'x' && (hexadecimalByte? t).isNone then
          f.failed s m "missing hexadecimal number in escape"
        else if m = .file && (d == 'u' || d == 'U') then
          let count := if d = 'u' then 4 else 8
          match codeAhead? count t with
          | none => f.failed s m "missing hexadecimal number in escape"
          | some n => once s m fuel (t.drop count) (f.wrote (codeBytes d count n))
        else match escape? m.formatEscapes d t with
          | none => { f with ended := true }
          | some (bytes, rest) => once s m fuel rest (f.wrote bytes)
      | c, t => once s m fuel t (f.wrote (Text.toBytes [c]))

/-- a format written as often as it takes to use up the arguments -/
def Filling.all (s : Scene) (m : Manner) (format : Text) : Nat → Filling → Filling
  | 0, f => f
  | fuel + 1, f =>
    let g := f.once s m format.length format
    if g.ended || g.arguments.isEmpty then g
    else if g.arguments.length < f.arguments.length then Filling.all s m format fuel g
    else if m = .shell then g
    else
      let what : Text := "warning: ignoring excess arguments, starting with '" ++ g.arguments.headD [] ++ "'"
      { g with errors := g.errors ++ remark s.called what }

/-- write a format with arguments -/
def printing (m : Manner) : Program := fun s args input =>
  let isMarked := args.head? == some ['-', '-']
  let args := if isMarked then args.drop 1 else args
  match args with
  | [] => match m with
    | .shell => s.complaint "usage: printf format [arg ...]" input 2
    | .file => s.misuse "missing operand" input
  | format :: more =>
    if m = .shell && !isMarked && format.head? == some '-' && format.length > 1 then
      s.complaint ("Illegal option " ++ format.take 2) input 2
    else
      let f := Filling.all s m format (more.length + 1) { arguments := more }
      { ending := .status f.status, output := f.output, errors := f.errors, left := input }

/-! ## arguments -/

/-- the options in front of arguments that are written: whether a line feed ends them, and whether
they have escapes -/
def echoOptions (m : Manner) : Bool × Bool → List Text → (Bool × Bool) × List Text
  | o, ('-' :: c :: cs) :: more =>
    match m with
    | .shell => if c = 'n' ∧ cs = [] then ((false, o.2), more) else (o, ('-' :: c :: cs) :: more)
    | .file =>
      if (c :: cs).all (("neE".toList).contains ·) then
        let escapes := (c :: cs).foldl (fun e d => if d = 'n' then e else d == 'e') o.2
        echoOptions m (o.1 && !(c :: cs).contains 'n', escapes) more
      else (o, ('-' :: c :: cs) :: more)
  | o, args => (o, args)

/-- write arguments, in a shell always with escapes -/
def echoing (m : Manner) : Program := fun _ args input =>
  let ((feeds, escapes), args) := echoOptions m (true, m == .shell) args
  let t := Text.joined [' '] args
  let rules : EscapeRules := { hexadecimal := m = .file, zeroFirst := true, ends := true }
  let u : Unescaped := if escapes then unescaped rules t else { bytes := t.toBytes }
  leaving input (u.bytes ++ if feeds && !u.ended then [10] else [])

/-! ## numbers -/

/-- a decimal number with a sign: its digits as a number, and how many of them are places -/
def decimal? (t : Text) : Option (Int × Nat) :=
  let (negative, u) := Decimal.sign t
  (Decimal.parts? u).bind fun (digits, exponent) =>
    if exponent ≤ 0 then some (if negative then -(digits : Int) else digits, (-exponent).toNat)
    else none

/-- the digits of a number with more places -/
def withPlaces (places : Nat) (d : Int × Nat) : Int := d.1 * (Nat.pow 10 (places - d.2) : Nat)

/-- the numbers from one to another; `count` bounds how many there are -/
def numbersFrom (step last : Int) : Nat → Int → List Int
  | 0, _ => []
  | count + 1, n =>
    if (0 < step && last < n) || (step < 0 && n < last) then []
    else n :: numbersFrom step last count (n + step)

/-- a number with places in words -/
def placedText (places : Nat) (n : Int) : Text :=
  (if n < 0 then ['-'] else []) ++ Figure.pointed places n.natAbs

/-- the options in front of numbers: the separator, whether they have one width, and their format -/
structure ListStyle where
  separator : Text := ['\n']
  even : Bool := false
  format : Option Text := none

/-- the style of a list and its operands; a number with a sign is an operand. Each step uses up an
argument. -/
def ListStyle.ofArguments : Nat → ListStyle → List Text → Except BadArgument (ListStyle × List Text)
  | 0, o, args => .ok (o, args)
  | _ + 1, o, [] => .ok (o, [])
  | fuel + 1, o, t :: more =>
    let letters : Letters := {
      plain := "w", valued := "sf"
      words := [("equal-width", 'w'), ("format", 'f'), ("separator", 's')] }
    match t with
    | ['-', '-'] => .ok (o, more)
    | '-' :: c :: cs =>
      if Text.isDigit c || c == '.' then .ok (o, t :: more)
      else do
        let (options, more) ← if c = '-' then
            (Arguments.ofWord letters cs more).map fun r => ([r.1], r.2)
          else Arguments.ofLetters letters (c :: cs) more
        let o := options.foldl (fun (o : ListStyle) v =>
          if v.1 = 'w' then { o with even := true }
          else if v.1 = 's' then { o with separator := v.2 } else { o with format := some v.2 }) o
        ofArguments fuel o more
    | t => .ok (o, t :: more)

/-- a text from the first directive in it on -/
def fromDirective : Text → Text
  | '%' :: '%' :: t => fromDirective t
  | '%' :: t => '%' :: t
  | _ :: t => fromDirective t
  | [] => []

/-- what is wrong with a format of numbers, if something is -/
def formatFault? (format : Text) : Option Text :=
  let quoted := "format '" ++ format ++ ['\'']
  match fromDirective format with
  | [] => some (quoted ++ " has no % directive")
  | _ :: t =>
    let t := (t.dropWhile (("-+#0 '".toList).contains ·)).dropWhile Text.isDigit
    let t := if t.head? == some '.' then (t.drop 1).dropWhile Text.isDigit else t
    match t with
    | [] => some (quoted ++ " ends in %")
    | c :: t =>
      if !("efgaEFGA".toList).contains c then some (quoted ++ " has unknown %" ++ [c] ++ " directive")
      else if (fromDirective t).isEmpty then none
      else some (quoted ++ " has too many % directives")

/-- write numbers in their order -/
def listing : Program := fun s args input =>
  match ListStyle.ofArguments (args.length + 1) {} args with
  | .error bad => s.misuse bad.message input
  | .ok (⟨separator, even, format⟩, ts) =>
    if let some t := format.bind formatFault? then s.complaint t input
    else if even && format.isSome then
      s.misuse "format string may not be specified when printing equal width strings" input
    else if ts.isEmpty then s.misuse "missing operand" input
    else if 3 < ts.length then s.misuse ("extra operand '" ++ ts.getD 3 [] ++ "'") input
    else match ts.find? fun t => (decimal? t).isNone with
      | some t => s.misuse ("invalid floating point argument: '" ++ t ++ "'") input
      | none =>
        let ds := ts.filterMap decimal?
        let bounds : (Int × Nat) × (Int × Nat) × (Int × Nat) := match ds with
          | [a, b, c] => (a, b, c)
          | [a, b] => (a, (1, 0), b)
          | _ => ((1, 0), (1, 0), ds.headD (0, 0))
        let places := max bounds.1.2 bounds.2.1.2
        let (first, step, last) := (withPlaces places bounds.1, withPlaces places bounds.2.1,
          withPlaces places bounds.2.2)
        if step = 0 then
          s.misuse ("invalid Zero increment value: '" ++ ts.getD 1 [] ++ "'") input
        else
          let texts := (numbersFrom step last ((last - first).natAbs + 1) first).map (placedText places)
          let width := if even then texts.foldl (fun n t => max n t.length) 0 else 0
          let padded := texts.map fun t => match format, t with
            | some format, t => Text.ofBytesShowing
              (Filling.all s .file format 1 { arguments := [t] }).output
            | none, '-' :: u => '-' :: Text.zeroPadded (width - 1) u
            | none, u => Text.zeroPadded width u
          leaving input (if padded.isEmpty then [] else (Text.joined separator padded ++ ['\n']).toBytes)

/-! ## paths -/

/-- a text without the slashes at its end; slashes alone stay one -/
def withoutEndSlashes (t : Text) : Text :=
  match (t.reverse.dropWhile (· == '/')).reverse with
  | [] => if t.isEmpty then [] else ['/']
  | u => u

/-- the last part of a path -/
def lastPartOf (t : Text) : Text :=
  let u := withoutEndSlashes t
  if u = ['/'] then u else (u.reverse.takeWhile (· != '/')).reverse

/-- a text without an ending, unless that is all of it -/
def withoutEnding (ending t : Text) : Text :=
  if Text.endsWith ending t && t != ending then t.take (t.length - ending.length) else t

/-- the options of writing the last part of a path -/
def lastPartLetters : Letters where
  plain := "az"
  valued := "s"
  words := [("multiple", 'a'), ("suffix", 's'), ("zero", 'z')]

/-- write the last part of a path, without an ending -/
def lastPart : Program := withArguments lastPartLetters fun s a input =>
  let feed : Text := if a.has 'z' then ['\x00'] else ['\n']
  match a.operands, a.has 'a' || a.has 's' with
  | [], _ => s.misuse "missing operand" input
  | ts, true =>
    let parts := ts.map fun t => withoutEnding ((a.value? 's').getD []) (lastPartOf t) ++ feed
    leaving input (Text.toBytes parts.flatten)
  | [t], false => leaving input (Text.toBytes (lastPartOf t ++ feed))
  | [t, ending], false => leaving input (Text.toBytes (withoutEnding ending (lastPartOf t) ++ feed))
  | _ :: _ :: extra :: _, false => s.misuse ("extra operand '" ++ extra ++ "'") input

/-- a path without its last part -/
def firstPartsOf (t : Text) : Text :=
  let u := withoutEndSlashes t
  if u = ['/'] then u
  else if !u.contains '/' then ['.']
  else withoutEndSlashes (u.reverse.dropWhile (· != '/')).reverse

/-- write paths without their last parts -/
def firstParts : Program := withArguments { plain := "z", words := [("zero", 'z')] } fun s a input =>
  let feed := if a.has 'z' then '\x00' else '\n'
  if a.operands.isEmpty then s.misuse "missing operand" input
  else leaving input (Text.toBytes (a.operands.flatMap fun t => firstPartsOf t ++ [feed]))

/-- write the directory where one works; operands are told to be ignored by the program in a file -/
def placing (m : Manner) : Program :=
  withArguments { plain := "LP", words := [("logical", 'L'), ("physical", 'P')] } fun s a input =>
    let o := leaving input (Text.toBytes ('/' :: Text.joined ['/'] s.here ++ ['\n']))
    if m = .file && !a.operands.isEmpty then
      { o with errors := remark s.called "ignoring non-option arguments" }
    else o

/-! ## variables and time -/

/-- write variables: those that are named, or all with their names -/
def telling : Program :=
  withArguments { plain := "0", words := [("null", '0')], failure := 2 } fun s a input =>
    let feed := if a.has '0' then '\x00' else '\n'
    match a.operands with
    | [] => leaving input (Text.toBytes (s.environment.flatMap fun v => v.1 ++ ['='] ++ v.2 ++ [feed]))
    | names =>
      let values := names.filterMap fun name => s.environment.lookup name
      let status := if values.length = names.length then 0 else 1
      { leaving input (Text.toBytes (values.flatMap (· ++ [feed]))) with ending := .status status }

/-- a span of time in seconds, which a letter may measure in longer units -/
def seconds? (t : Text) : Option Binary64 :=
  let units : List (Char × Int) := [('s', 1), ('m', 60), ('h', 3600), ('d', 86400)]
  let own : Option Binary64 := match t.getLast?.bind fun c => units.lookup c with
    | some n => (Binary64.ofPlainText? t.dropLast).map (Binary64.times (.ofInt n))
    | none => Binary64.ofPlainText? t
  own.filter fun x => !x.isBelowZero && x != .notANumber

/-- wait for some time -/
def sleeping : Program := withArguments {} fun s a input =>
  let bad := a.operands.filter fun t => (seconds? t).isNone
  if a.operands.isEmpty then s.misuse "missing operand" input
  else match bad.reverse with
    | last :: before =>
      let what (t : Text) : Text := "invalid time interval '" ++ t ++ "'"
      let o := s.misuse (what last) input
      { o with errors := before.reverse.flatMap (fun t => remark s.called (what t)) ++ o.errors }
    | [] => { slept := (a.operands.filterMap seconds?).foldl .plus (.zero false), left := input }

/-- go on for ever -/
def endless : Program := fun _ _ _ => { ending := .never }

end DatabaseTypes.Filter
