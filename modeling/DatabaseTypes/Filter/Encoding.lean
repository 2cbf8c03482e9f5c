import DatabaseTypes.Filter.Arguments
import DatabaseTypes.Filter.Lines

/-!
# Bytes as letters

Some bytes together are as many bits as some letters of an alphabet together.

* `Filter.Alphabet`           an alphabet, and how many letters and bytes belong together
* `Filter.Alphabet.encoded`   bytes as letters
* `Filter.Alphabet.decoded`   letters as bytes
* `Filter.lettering`          the filters
-/

namespace DatabaseTypes.Filter

/-- letters for numbers of so many bits, how many of them stand for how many bytes together, and whether
the bytes of a group that is cut off are known -/
structure Alphabet where
  letters : Text
  bits : Nat
  group : Nat
  bytes : Nat
  cut : Bool := true

namespace Alphabet

/-- three bytes as four letters -/
def base64 : Alphabet :=
  ⟨"ABCDEFGHIJKLMNOPQRSTUVWXYZabcdefghijklmnopqrstuvwxyz0123456789+/", 6, 4, 3, true⟩

/-- three bytes as four letters, which may stand in paths -/
def base64url : Alphabet :=
  ⟨"ABCDEFGHIJKLMNOPQRSTUVWXYZabcdefghijklmnopqrstuvwxyz0123456789-_", 6, 4, 3, true⟩

/-- five bytes as eight letters -/
def base32 : Alphabet := ⟨"ABCDEFGHIJKLMNOPQRSTUVWXYZ234567", 5, 8, 5, false⟩

/-- five bytes as eight letters, in the order of characters -/
def base32hex : Alphabet := ⟨"0123456789ABCDEFGHIJKLMNOPQRSTUV", 5, 8, 5, false⟩

/-- a byte as two letters -/
def base16 : Alphabet := ⟨"0123456789ABCDEF", 4, 2, 1, false⟩

/-! ## bytes as letters -/

/-- so many numbers of so many bits, the highest one first -/
def digitsOf (bits : Nat) : Nat → Nat → List Nat
  | 0, _ => []
  | n + 1, x => digitsOf bits n (x / Nat.pow 2 bits) ++ [x % Nat.pow 2 bits]

theorem length_digitsOf (bits n x : Nat) : (digitsOf bits n x).length = n := by
  induction n generalizing x with
  | zero => rfl
  | succ n ih => simp [digitsOf, ih]

/-- a group of bytes as letters, filled up with equals signs -/
def groupEncoded (a : Alphabet) (bs : Bytes) : Text :=
  let full : Bytes := bs ++ List.replicate (a.bytes - bs.length) 0
  let value := full.foldl (fun n b => 256 * n + b.toNat) 0
  let needed := (8 * bs.length + a.bits - 1) / a.bits
  let letters := (digitsOf a.bits a.group value).map fun d => (a.letters[d]?).getD '?'
  letters.take needed ++ List.replicate (a.group - needed) '='

/-- a group has as many letters as all others -/
theorem length_groupEncoded (a : Alphabet) (bs : Bytes) (h : 8 * bs.length + a.bits - 1 ≤ a.group * a.bits) :
    (a.groupEncoded bs).length = a.group := by
  have hn : (8 * bs.length + a.bits - 1) / a.bits ≤ a.group :=
    Nat.div_le_of_le_mul (by rw [Nat.mul_comm a.bits]; exact h)
  simp [groupEncoded, length_digitsOf]
  omega

/-- bytes as letters; each step uses up bytes -/
def encodedFrom (a : Alphabet) : Nat → Bytes → Text
  | 0, _ | _ + 1, [] => []
  | fuel + 1, b :: bs =>
    a.groupEncoded ((b :: bs).take a.bytes) ++ encodedFrom a fuel ((b :: bs).drop a.bytes)

/-- bytes as letters -/
def encoded (a : Alphabet) (bs : Bytes) : Text := a.encodedFrom bs.length bs

/-! ## letters as bytes -/

/-- a group of letters as bytes, and whether it is a whole group as it should be -/
def groupDecoded (a : Alphabet) (t : Text) : Bytes × Bool :=
  let digits := t.takeWhile a.letters.contains
  let rest := t.drop digits.length
  let value := digits.foldl (fun n c => n * Nat.pow 2 a.bits + a.letters.idxOf c) 0
  let count := digits.length * a.bits / 8
  let spare := digits.length * a.bits - 8 * count
  let bs := ((digitsOf 8 count (value / Nat.pow 2 spare)).map UInt8.ofNat)
  let fits := (a.bytes == count || (0 < count && (8 * count + a.bits - 1) / a.bits == digits.length))
  (if a.cut || t.length == a.group then bs else [], t.length == a.group && fits && rest.all (· == '='))

/-- letters as bytes up to the first group that is wrong, and whether all are right; each step uses up
letters -/
def decodedFrom (a : Alphabet) : Nat → Text → Bytes × Bool
  | 0, _ | _ + 1, [] => ([], true)
  | fuel + 1, c :: t =>
    let (bs, good) := a.groupDecoded ((c :: t).take a.group)
    if good then
      let (more, good) := decodedFrom a fuel ((c :: t).drop a.group)
      (bs ++ more, good)
    else (bs, false)

/-- letters as bytes, and whether they are right; feeds do not matter, and all else that is no letter is
left out if it may be -/
def decoded (a : Alphabet) (lenient : Bool) (bs : Bytes) : Bytes × Bool :=
  let t := (asText bs).filter fun c => c != '\n' && (!lenient || a.letters.contains c || c == '=')
  a.decodedFrom t.length t

end Alphabet

/-! ## the filters -/

/-- text on lines of so many characters, or on one that is not ended -/
def wrapped (width : Nat) : Nat → Text → Text
  | 0, _ | _ + 1, [] => []
  | fuel + 1, c :: t =>
    if width = 0 then c :: t
    else (c :: t).take width ++ ['\n'] ++ wrapped width fuel ((c :: t).drop width)

/-- the alphabets by the names of options -/
def alphabetLetters : List (Char × Alphabet) := [('\x01', .base64), ('\x02', .base64url), ('\x03', .base32),
  ('\x04', .base32hex), ('\x05', .base16)]

/-- the options of letters for bytes -/
def letteringLetters : Letters where
  plain := "di"
  valued := "w"
  words := [("decode", 'd'), ("ignore-garbage", 'i'), ("wrap", 'w')]

/-- the options of letters for bytes in any alphabet -/
def anyLetteringLetters : Letters where
  plain := "di\x01\x02\x03\x04\x05"
  valued := "w"
  words := letteringLetters.words ++ ([("base64", '\x01'), ("base64url", '\x02'), ("base32", '\x03'),
    ("base32hex", '\x04'), ("base16", '\x05')] : List (Text × Char))

/-- write bytes as letters, or letters as bytes; without an alphabet an option must give one -/
def lettering (own : Option Alphabet) : Program :=
  withArguments (if own.isNone then anyLetteringLetters else letteringLetters) fun s a input =>
    let chosen := a.options.reverse.findSome? fun o => alphabetLetters.lookup o.1
    match own <|> chosen, (bounded "invalid wrap size" 0 greatestSize ((a.value? 'w').getD "76")), a.operands with
    | none, _, _ => s.misuse "missing encoding type" input
    | _, .error t, _ => s.complaint t input
    | _, _, _ :: extra :: _ => s.misuse ("extra operand '" ++ extra ++ "'") input
    | some alphabet, .ok width, operands =>
      let failure (operand : Text) (cause : SystemCause) : Text :=
        if cause = .isDirectory then "read error: " ++ cause.message else Scene.plainly operand cause
      if a.has 'd' then
        let (os, left) := s.operands operands input
        match os with
        | (_, .ok bs) :: _ =>
          let (output, good) := alphabet.decoded (a.has 'i') bs
          if good then { output, left }
          else { s.complaint "invalid input" left with output }
        | (t, .error cause) :: _ => s.complaint (failure t cause) left
        | [] => {}
      else s.across failure 1 operands input fun os =>
        let t := alphabet.encoded (joinedBytes os)
        Text.toBytes (wrapped width t.length t)

end DatabaseTypes.Filter
