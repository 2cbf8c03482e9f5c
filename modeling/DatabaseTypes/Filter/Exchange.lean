import DatabaseTypes.Filter.Arguments

/-!
# Exchanging characters

* `Filter.byteSet`      a set of bytes in words
* `Filter.exchanging`   replace, delete or squeeze characters
-/

namespace DatabaseTypes.Filter

/-! ## sets -/

/-- the bytes from one to another -/
def byteRange (low high : UInt8) : Bytes :=
  (List.range (high.toNat + 1 - low.toNat)).map fun n => UInt8.ofNat (low.toNat + n)

/-- the named sets of bytes -/
def byteClasses : List (Text × Bytes) :=
  let upper := byteRange 65 90
  let lower := byteRange 97 122
  let digits := byteRange 48 57
  let punct := byteRange 33 47 ++ byteRange 58 64 ++ byteRange 91 96 ++ byteRange 123 126
  [("upper", upper), ("lower", lower), ("digit", digits), ("alpha", upper ++ lower),
    ("alnum", digits ++ upper ++ lower), ("space", byteRange 9 13 ++ [32]), ("blank", [9, 32]),
    ("punct", punct), ("cntrl", byteRange 0 31 ++ [127]), ("print", byteRange 32 126),
    ("graph", byteRange 33 126), ("xdigit", digits ++ byteRange 65 70 ++ byteRange 97 102)]

/-- a part of a set: some bytes, or a byte that fills up the set -/
inductive SetPart where
  | bytes (bs : Bytes)
  | filler (b : UInt8)

/-- a byte at the front of a text, and what follows it -/
def setByte : Text → Option (UInt8 × Text)
  | [] => none
  | '\\' :: c :: t =>
    if (octal? c).isSome then some (octalByte (c :: t))
    else if c = '\\' then some (92, t)
    else match letterByte? c with
      | some b => if c = 'e' then some (101, t) else some (b, t)
      | none => some (UInt8.ofNat c.toNat, t)
  | c :: t => some (UInt8.ofNat c.toNat, t)

/-- a repetition after an opening bracket: a byte, a star, a count and a closing bracket -/
def repetition? (t : Text) : Option (SetPart × Text) := do
  let (b, t) ← setByte t
  let t ← Text.after? ['*'] t
  let digits := t.takeWhile Text.isDigit
  let rest ← Text.after? [']'] (t.drop digits.length)
  let n := (count? digits).getD 0
  pure (if n = 0 then .filler b else .bytes (List.replicate n b), rest)

/-- a named set, or the bytes that are like one, after an opening bracket -/
def namedSet? : Text → Option (SetPart × Text)
  | ':' :: t => do
    let name := t.takeWhile (· != ':')
    let bs ← byteClasses.lookup name
    pure (.bytes bs, ← Text.after? [':', ']'] (t.drop name.length))
  | '=' :: c :: t => do pure (.bytes [UInt8.ofNat c.toNat], ← Text.after? ['=', ']'] t)
  | _ => none

/-- the parts of a set in words, or a range that runs the wrong way; each step uses up a character.
The text is given by bytes. -/
def setParts : Nat → Text → Except Text (List SetPart)
  | 0, _ => .ok []
  | _ + 1, [] => .ok []
  | fuel + 1, c :: t =>
    match if c = '[' then namedSet? t <|> repetition? t else none with
    | some (p, rest) => (setParts fuel rest).map (p :: ·)
    | none => match setByte (c :: t) with
      | none => .ok []
      | some (low, rest) => match rest with
        | '-' :: d :: more => match setByte (d :: more) with
          | some (high, after) =>
            if high < low then .error ("range-endpoints of '" ++ asText [low, 45, high]
              ++ "' are in reverse collating sequence order")
            else (setParts fuel after).map (.bytes (byteRange low high) :: ·)
          | none => .ok []
        | _ => (setParts fuel rest).map (.bytes [low] :: ·)

/-- the bytes of parts, of which a filler makes as many as are lacking -/
def bytesOfParts (wanted : Nat) (parts : List SetPart) : Bytes :=
  let count := total (parts.map fun p => match p with
    | .bytes bs => bs.length
    | .filler _ => 0)
  parts.flatMap fun p => match p with
    | .bytes bs => bs
    | .filler b => List.replicate (wanted - count) b

/-- a set of bytes in words -/
def byteSet (wanted : Nat) (t : Text) : Except Text Bytes :=
  let bytes := asText t.toBytes
  (setParts (bytes.length + 1) bytes).map (bytesOfParts wanted)

/-! ## the filter -/

/-- the byte that replaces a byte: the one at its place in the other set, or the last one -/
def counterpart (old new : Bytes) (b : UInt8) : UInt8 :=
  match old.reverse.idxOf? b with
  | none => b
  | some i => ((new[old.length - 1 - i]?) <|> new.getLast?).getD b

/-- bytes without those of a set that repeat the byte before them -/
def squeezed (set : Bytes) : Bytes → Bytes
  | a :: b :: bs =>
    let rest := squeezed set (b :: bs)
    if a == b && set.contains a then rest else a :: rest
  | bs => bs

/-- what characters are exchanged for what, as options ask for it -/
def exchangedBytes (a : Arguments) (old : Bytes) (new : Option Bytes) (input : Bytes) : Bytes :=
  let deleted := if a.has 'd' then input.filter fun b => !old.contains b else input
  match a.has 'd', new with
  | true, some set => squeezed set deleted
  | true, none => deleted
  | false, none => squeezed old input
  | false, some new =>
    let old := if a.has 't' then old.take new.length else old
    let output := input.map (counterpart old new)
    if a.has 's' then squeezed new output else output

/-- the options of exchanging -/
def exchangeLetters : Letters where
  plain := "cCdst"
  words := [("complement", 'c'), ("delete", 'd'), ("squeeze-repeats", 's'), ("truncate-set1", 't')]

/-- replace, delete or squeeze characters -/
def exchanging : Program := withArguments exchangeLetters fun s a input =>
  let inverted := a.has 'c' || a.has 'C'
  let set (t : Text) : Except Text Bytes :=
    (byteSet 0 t).map fun bs => if inverted then (byteRange 0 255).filter fun b => !bs.contains b else bs
  let alone := a.has 'd' != a.has 's'
  match a.operands with
  | [] => s.misuse "missing operand" input
  | [old] =>
    if !alone then
      let what : Text := if a.has 'd'
        then "Two strings must be given when both deleting and squeezing repeats."
        else "Two strings must be given when translating."
      s.misuse ("missing operand after '" ++ old ++ "'\n" ++ what) input
    else match set old with
      | .error t => s.complaint t input
      | .ok old => { output := exchangedBytes a old none input }
  | [old, new] =>
    if a.has 'd' && !a.has 's' then
      s.misuse ("extra operand '" ++ new
        ++ "'\nOnly one string may be given when deleting without squeezing repeats.") input
    else match do
        let old ← set old
        pure (old, ← byteSet old.length new) with
      | .error t => s.complaint t input
      | .ok (old, new) =>
        if new.isEmpty && !old.isEmpty && !a.has 't' && !a.has 'd' then
          s.complaint "when not truncating set1, string2 must be non-empty" input
        else { output := exchangedBytes a old (some new) input }
  | _ :: _ :: extra :: _ => s.misuse ("extra operand '" ++ extra ++ "'") input

end DatabaseTypes.Filter
