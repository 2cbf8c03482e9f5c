import DatabaseTypes.Filter.Lines

/-!
# Digests

A digest of bytes is a number that tells whether they are the same as others.  Bytes are filled up to
whole blocks, and each block changes a state of words in rounds.

* `Filter.Rounds`     how blocks change a state
* `Filter.digests`    the digests by their names
* `Filter.digesting`  the filters that write a digest
* `Filter.checking`   the filter that writes a checksum
-/

namespace DatabaseTypes.Filter

namespace Digest

/-! ## words -/

/-- a word of `w` bits turned right -/
def turned (w n x : Nat) : Nat := ((x >>> n) ||| (x <<< (w - n))) % Nat.pow 2 w

/-- a word of `w` bits with all its bits changed -/
def inverted (w x : Nat) : Nat := Nat.pow 2 w - 1 - x

/-- bits of two words, as those of a third one choose -/
def chosen (w x y z : Nat) : Nat := (x &&& y) ||| (inverted w x &&& z)

/-- bits that at least two of three words have -/
def majority (x y z : Nat) : Nat := (x &&& y) ||| (x &&& z) ||| (y &&& z)

/-- the number of bytes, the highest one first -/
def highFirst (bs : Bytes) : Nat := bs.foldl (fun n b => 256 * n + b.toNat) 0

/-- the number of bytes, the lowest one first -/
def lowFirst (bs : Bytes) : Nat := bs.foldr (fun b n => b.toNat + 256 * n) 0

/-- so many bytes of a number, the lowest one first -/
def lowBytes : Nat → Nat → Bytes
  | 0, _ => []
  | n + 1, x => UInt8.ofNat (x % 256) :: lowBytes n (x / 256)

/-- so many bytes of a number, the highest one first -/
def highBytes (n x : Nat) : Bytes := (lowBytes n x).reverse

theorem length_lowBytes (n x : Nat) : (lowBytes n x).length = n := by
  induction n generalizing x with
  | zero => rfl
  | succ n ih => simp [lowBytes, ih]

/-- bytes in pieces of a size -/
def pieces (size : Nat) : Nat → Bytes → List Bytes
  | 0, _ | _ + 1, [] => []
  | fuel + 1, b :: bs => (b :: bs).take size :: pieces size fuel ((b :: bs).drop size)

/-! ## roots -/

/-- the greatest number of so many bits whose power is at most `x` -/
def root (power : Nat) (x : Nat) : Nat → Nat → Nat
  | 0, r => r
  | bits + 1, r =>
    let s := r + Nat.pow 2 bits
    root power x bits (if Nat.pow s power ≤ x then s else r)

/-- the first `w` bits after the point of a root of `p` -/
def rootBits (power w p : Nat) : Nat := root power (p * Nat.pow 2 (w * power)) (w + 5) 0 % Nat.pow 2 w

/-- is a number prime? -/
def isPrime (n : Nat) : Bool := 2 ≤ n && (List.range n).all fun d => d < 2 || n % d != 0

/-- the first primes -/
def primes (n : Nat) : List Nat := ((List.range 420).filter isPrime).take n

/-! ## rounds -/

/-- how blocks change a state: the bytes of a block and of its length, the bytes of a word, whether the
highest byte stands first, the first state, and the change by a block of words -/
structure Rounds where
  block : Nat
  lengthSize : Nat
  word : Nat
  highFirst : Bool
  start : List Nat
  change : List Nat → List Nat → List Nat

namespace Rounds

/-- bytes filled up: a bit that is set, bits that are not, and the number of bits -/
def filled (r : Rounds) (bs : Bytes) : Bytes :=
  let n := bs.length
  let zeros := (r.block - (n + 1 + r.lengthSize) % r.block) % r.block
  let size := if r.highFirst then highBytes r.lengthSize (8 * n) else lowBytes r.lengthSize (8 * n)
  bs ++ [128] ++ List.replicate zeros 0 ++ size

/-- the state after bytes -/
def state (r : Rounds) (bs : Bytes) : List Nat :=
  let full := r.filled bs
  let wordOf := if r.highFirst then Digest.highFirst else lowFirst
  (pieces r.block full.length full).foldl (fun h block =>
    let changed := r.change h ((pieces r.word block.length block).map wordOf)
    (h.zip changed).map fun p => (p.1 + p.2) % Nat.pow 256 r.word) r.start

/-- the digest of bytes: so many bytes of the state after them -/
def digest (r : Rounds) (size : Nat) (bs : Bytes) : Bytes :=
  ((r.state bs).flatMap (if r.highFirst then highBytes r.word else lowBytes r.word)).take size

end Rounds

/-! ## the second family -/

/-- what differs between words of 32 and of 64 bits: how many rounds there are, and by how much words
are turned or shifted -/
structure Turns where
  width : Nat
  rounds : Nat
  large : (Nat × Nat × Nat) × (Nat × Nat × Nat)
  small : (Nat × Nat × Nat) × (Nat × Nat × Nat)

/-- turns of 32 and of 64 bits -/
def turns32 : Turns := ⟨32, 64, ((2, 13, 22), (6, 11, 25)), ((7, 18, 3), (17, 19, 10))⟩
def turns64 : Turns := ⟨64, 80, ((28, 34, 39), (14, 18, 41)), ((1, 8, 7), (19, 61, 6))⟩

/-- three turns of a word together -/
def Turns.mixed (t : Turns) (by' : Nat × Nat × Nat) (x : Nat) : Nat :=
  turned t.width by'.1 x ^^^ turned t.width by'.2.1 x ^^^ turned t.width by'.2.2 x

/-- two turns and a shift of a word together -/
def Turns.shifted (t : Turns) (by' : Nat × Nat × Nat) (x : Nat) : Nat :=
  turned t.width by'.1 x ^^^ turned t.width by'.2.1 x ^^^ (x >>> by'.2.2)

/-- the words of all rounds, made of those of a block -/
def Turns.schedule (t : Turns) (block : List Nat) : Array Nat :=
  (List.range (t.rounds - 16)).foldl (fun ws i =>
    let at' (n : Nat) : Nat := ws.getD (i + n) 0
    ws.push ((t.shifted t.small.2 (at' 14) + at' 9 + t.shifted t.small.1 (at' 1) + at' 0)
      % Nat.pow 2 t.width)) block.toArray

/-- the state after a round with a word and a constant -/
def Turns.round (t : Turns) (s : List Nat) (word constant : Nat) : List Nat :=
  match s with
  | [a, b, c, d, e, f, g, h] =>
    let m := Nat.pow 2 t.width
    let first := h + t.mixed t.large.2 e + chosen t.width e f g + constant + word
    let second := t.mixed t.large.1 a + majority a b c
    [(first + second) % m, a, b, c, (d + first) % m, e, f, g]
  | s => s

/-- rounds from some state on -/
def Turns.family (t : Turns) (start : List Nat) : Rounds :=
  let constants := (primes t.rounds).map (rootBits 3 t.width)
  { block := 2 * t.width, lengthSize := t.width / 4, word := t.width / 8, highFirst := true, start
    change := fun s block => ((t.schedule block).toList.zip constants).foldl
      (fun s p => t.round s p.1 p.2) s }

/-- the first states: parts of the roots of primes -/
def roots64 : List Nat := ((primes 16).drop 8).map (rootBits 2 64)
def sha256 : Rounds := turns32.family ((primes 8).map (rootBits 2 32))
def sha224 : Rounds := turns32.family (roots64.map (· % Nat.pow 2 32))
def sha512 : Rounds := turns64.family ((primes 8).map (rootBits 2 64))
def sha384 : Rounds := turns64.family roots64

/-! ## older families -/

/-- the state that older families start from -/
def olderStart : List Nat := [0x67452301, 0xefcdab89, 0x98badcfe, 0x10325476]

/-- rounds with words of one block turned into each other -/
def sha1 : Rounds where
  block := 64
  lengthSize := 8
  word := 4
  highFirst := true
  start := olderStart ++ [0xc3d2e1f0]
  change s block :=
    let ws := (List.range 64).foldl (fun (ws : Array Nat) i =>
      let at' (n : Nat) : Nat := ws.getD (i + n) 0
      ws.push (turned 32 31 (at' 13 ^^^ at' 8 ^^^ at' 2 ^^^ at' 0))) block.toArray
    ws.toList.zipIdx.foldl (fun s (w, i) => match s with
      | [a, b, c, d, e] =>
        let f := if i < 20 then chosen 32 b c d + 0x5a827999
          else if i < 40 then (b ^^^ c ^^^ d) + 0x6ed9eba1
          else if i < 60 then majority b c d + 0x8f1bbcdc
          else (b ^^^ c ^^^ d) + 0xca62c1d6
        [(turned 32 27 a + f + e + w) % Nat.pow 2 32, a, turned 32 2 b, c, d]
      | s => s) s

/-- the sine of `n`, without its sign, in units of the word: a series with room for its terms -/
def sineWord (n : Nat) : Nat :=
  let unit : Int := (Nat.pow 2 256 : Nat)
  let (sum, _) := (List.range 150).foldl (fun ((sum, term) : Int × Int) k =>
    (sum + term, -(term * (n * n : Nat) / ((2 * k + 2) * (2 * k + 3) : Nat)))) (0, unit * n)
  sum.natAbs / Nat.pow 2 224 % Nat.pow 2 32

/-- the sines of the first numbers -/
def sineWords : Array Nat := ((List.range 65).map sineWord).toArray

/-- by how much words are turned left in each of four rounds, in turn -/
def leftTurns : List (List Nat) := [[7, 12, 17, 22], [5, 9, 14, 20], [4, 11, 16, 23], [6, 10, 15, 21]]

/-- rounds that take the words of a block in four orders -/
def md5 : Rounds where
  block := 64
  lengthSize := 8
  word := 4
  highFirst := false
  start := olderStart
  change s block :=
    let ws := block.toArray
    (List.range 64).foldl (fun s i => match s with
      | [a, b, c, d] =>
        let round := i / 16
        let (f, g) := if round = 0 then (chosen 32 b c d, i)
          else if round = 1 then (chosen 32 d b c, 5 * i + 1)
          else if round = 2 then (b ^^^ c ^^^ d, 3 * i + 5)
          else (c ^^^ (b ||| inverted 32 d), 7 * i)
        let x := (a + f + sineWords.getD (i + 1) 0 + ws.getD (g % 16) 0) % Nat.pow 2 32
        let left := ((leftTurns[round]?).getD []).getD (i % 4) 0
        [d, (b + turned 32 (32 - left) x) % Nat.pow 2 32, b, c]
      | s => s) s

/-! ## the third family -/

/-- in which order the words of a block are taken in each round -/
def blockOrders : List (List Nat) := [
  [0, 1, 2, 3, 4, 5, 6, 7, 8, 9, 10, 11, 12, 13, 14, 15],
  [14, 10, 4, 8, 9, 15, 13, 6, 1, 12, 0, 2, 11, 7, 5, 3],
  [11, 8, 12, 0, 5, 2, 15, 13, 10, 14, 3, 6, 7, 1, 9, 4],
  [7, 9, 3, 1, 13, 12, 11, 14, 2, 6, 5, 10, 4, 0, 15, 8],
  [9, 0, 5, 7, 2, 4, 10, 15, 14, 1, 11, 12, 6, 8, 3, 13],
  [2, 12, 6, 10, 0, 11, 8, 3, 4, 13, 7, 5, 15, 14, 1, 9],
  [12, 5, 1, 15, 14, 13, 4, 10, 0, 7, 6, 3, 9, 2, 8, 11],
  [13, 11, 7, 14, 12, 1, 3, 9, 5, 0, 15, 4, 8, 6, 2, 10],
  [6, 15, 14, 9, 11, 3, 0, 8, 12, 2, 13, 7, 1, 4, 10, 5],
  [10, 2, 8, 4, 7, 6, 1, 5, 15, 11, 9, 14, 3, 12, 13, 0]]

/-- which words of the state are mixed with each other, in turn -/
def mixedPlaces : List (Nat × Nat × Nat × Nat) := [(0, 4, 8, 12), (1, 5, 9, 13), (2, 6, 10, 14),
  (3, 7, 11, 15), (0, 5, 10, 15), (1, 6, 11, 12), (2, 7, 8, 13), (3, 4, 9, 14)]

/-- four words mixed with two words of the block -/
def mixedWords (v : Array Nat) (p : Nat × Nat × Nat × Nat) (x y : Nat) : Array Nat :=
  let m := Nat.pow 2 64
  let half (a b c d x r s : Nat) : Nat × Nat × Nat × Nat :=
    let a := (a + b + x) % m
    let d := turned 64 r (d ^^^ a)
    let c := (c + d) % m
    (a, turned 64 s (b ^^^ c), c, d)
  let at' (i : Nat) : Nat := v.getD i 0
  let (a, b, c, d) := half (at' p.1) (at' p.2.1) (at' p.2.2.1) (at' p.2.2.2) x 32 24
  let (a, b, c, d) := half a b c d y 16 63
  (((v.set! p.1 a).set! p.2.1 b).set! p.2.2.1 c).set! p.2.2.2 d

/-- the state after a block, with the number of bytes up to its end -/
def blakeBlock (start h : List Nat) (block : Bytes) (count : Nat) (isLast : Bool) : List Nat :=
  let ws := ((pieces 8 block.length block).map lowFirst).toArray
  let others := start.zipIdx.map fun (x, i) =>
    if i = 4 then x ^^^ count else if i = 6 && isLast then inverted 64 x else x
  let v := (List.range 12).foldl (fun (v : Array Nat) round =>
    let order := (blockOrders[round % 10]?).getD []
    mixedPlaces.zipIdx.foldl (fun v (p, i) =>
      let word (n : Nat) : Nat := ws.getD (order.getD n 0) 0
      mixedWords v p (word (2 * i)) (word (2 * i + 1))) v) (h ++ others).toArray
  h.zipIdx.map fun (x, i) => x ^^^ v.getD i 0 ^^^ v.getD (i + 8) 0

/-- the digest of bytes by the third family -/
def blake (bs : Bytes) : Bytes :=
  let start := sha512.start
  let ps := if bs.isEmpty then [[]] else pieces 128 bs.length bs
  let first := start.zipIdx.map fun (x, i) => if i = 0 then x ^^^ 0x01010040 else x
  let h := ps.zipIdx.foldl (fun h (p, i) =>
    let isLast := i + 1 == ps.length
    blakeBlock start h (p ++ List.replicate (128 - p.length) 0) (128 * i + p.length) isLast) first
  h.flatMap (lowBytes 8)

/-! ## checksums -/

/-- a remainder of the bits of bytes and of their number -/
def cyclic (bs : Bytes) : Nat :=
  let step (crc : Nat) (b : UInt8) : Nat :=
    (List.range 8).foldl (fun crc _ =>
      let shifted := crc * 2
      if crc.testBit 31 then (shifted % Nat.pow 2 32) ^^^ 0x04c11db7 else shifted)
      (crc ^^^ (b.toNat * Nat.pow 2 24))
  let n := bs.length
  let size := lowBytes ((Nat.toDigits 256 n).length * (if n = 0 then 0 else 1)) n
  inverted 32 ((bs ++ size).foldl step 0)

/-- a sum of bytes that is turned by one bit before each of them -/
def turnedSum (bs : Bytes) : Nat :=
  bs.foldl (fun n b => (n / 2 + n % 2 * 32768 + b.toNat) % 65536) 0

/-- a sum of bytes with what is carried added -/
def carriedSum (bs : Bytes) : Nat :=
  let s := total (bs.map UInt8.toNat) % Nat.pow 2 32
  let r := s % 65536 + s / 65536
  r % 65536 + r / 65536

end Digest

/-! ## the filters -/

/-- the digests by the names of their filters, with the names that they have before a file -/
def digests : List (Text × Text × (Bytes → Bytes)) := [
  ("md5sum", "MD5", Digest.md5.digest 16), ("sha1sum", "SHA1", Digest.sha1.digest 20),
  ("sha224sum", "SHA224", Digest.sha224.digest 28), ("sha256sum", "SHA256", Digest.sha256.digest 32),
  ("sha384sum", "SHA384", Digest.sha384.digest 48), ("sha512sum", "SHA512", Digest.sha512.digest 64),
  ("b2sum", "BLAKE2b", Digest.blake)]

/-- bytes in hexadecimal digits -/
def hexadecimals (bs : Bytes) : Text := bs.flatMap fun b => Text.hexadecimal 2 b.toNat

/-- how lines with digests are written: names of digests and files before them, a star before the names
of files, and what ends a line -/
structure DigestStyle where
  tagged : Bool := false
  starred : Bool := false
  feed : Char := '\n'

/-- a line with the digest of a file; a name that would end the line is written with backslashes -/
def DigestStyle.line (d : DigestStyle) (tag name : Text) (digest : Bytes) : Text :=
  let special := d.feed = '\n' && name.any fun c => c == '\n' || c == '\\' || c == '\r'
  let shown := if special then name.flatMap fun c =>
    if c = '\n' then ['\\', 'n'] else if c = '\r' then ['\\', 'r'] else if c = '\\' then ['\\', '\\'] else [c]
    else name
  let front : Text := if special then ['\\'] else []
  let own : Text := if d.tagged then tag ++ " (" ++ shown ++ ") = " ++ hexadecimals digest
    else hexadecimals digest ++ [' ', if d.starred then '*' else ' '] ++ shown
  front ++ own ++ [d.feed]

/-- the options of digests -/
def digestLetters : Letters where
  plain := "btzT"
  words := [("binary", 'b'), ("text", 't'), ("zero", 'z'), ("tag", 'T')]

/-- write the digests of files -/
def digesting (tag : Text) (digest : Bytes → Bytes) : Program := withArguments digestLetters fun s a input =>
  let d : DigestStyle := {
    tagged := a.has 'T', feed := if a.has 'z' then '\x00' else '\n'
    starred := (a.options.reverse.find? fun o => o.1 == 'b' || o.1 == 't').any (·.1 == 'b') }
  s.across Scene.plainly 1 a.operands input fun os =>
    os.flatMap fun o => Text.toBytes (d.line tag o.1 (digest o.2))

/-- numbers of blocks of a size that bytes take -/
def blocksOf (size : Nat) (bs : Bytes) : Text := Text.ofNat ((bs.length + size - 1) / size)

/-- a filter that writes a line about each file, with its name if it is given -/
def tellingOf (line : Bytes → Text) (s : Scene) (operands : List Text) (input : Bytes) : Outcome :=
  s.across Scene.plainly 1 operands input fun os => os.flatMap fun o =>
    Text.toBytes (line o.2 ++ (if operands.isEmpty then [] else ' ' :: o.1) ++ ['\n'])

/-- a checksum by bits, with the number of bytes -/
def cyclicLine (bs : Bytes) : Text := Text.ofNat (Digest.cyclic bs) ++ [' '] ++ Text.ofNat bs.length

/-- a checksum by turned bytes, with the number of blocks -/
def turnedLine (bs : Bytes) : Text :=
  Text.zeroPadded 5 (Text.ofNat (Digest.turnedSum bs)) ++ [' ']
    ++ Text.spaces (5 - (blocksOf 1024 bs).length) ++ blocksOf 1024 bs

/-- a checksum by carried bytes, with the number of blocks -/
def carriedLine (bs : Bytes) : Text :=
  Text.ofNat (Digest.carriedSum bs) ++ [' '] ++ blocksOf 512 bs

/-- write a sum of the bytes of files -/
def summing : Program :=
  withArguments { plain := "rs", words := [("sysv", 's')] } fun s a input =>
    let last := a.options.getLast?.map (·.1)
    tellingOf (if last = some 's' then carriedLine else turnedLine) s a.operands input

/-- the options of checking -/
def checkLetters : Letters where
  plain := "zU"
  valued := "a"
  words := [("algorithm", 'a'), ("untagged", 'U'), ("zero", 'z')]

/-- write a checksum of files, or the digest that an option names -/
def checking : Program :=
  withArguments checkLetters fun s a input =>
    let lines : List (Text × (Bytes → Text)) :=
      [("crc", cyclicLine), ("bsd", turnedLine), ("sysv", carriedLine)]
    let name := (a.value? 'a').getD "crc"
    let own := digests.find? fun d => d.1 == name ++ "sum".toList || (d.1 == "b2sum".toList && name == "blake2b".toList)
    match lines.lookup name, own with
    | some line, _ => tellingOf line s a.operands input
    | none, some (_, tag, digest) =>
      let d : DigestStyle := { tagged := !a.has 'U', feed := if a.has 'z' then '\x00' else '\n' }
      s.across Scene.plainly 1 a.operands input fun os =>
        os.flatMap fun o => Text.toBytes (d.line tag o.1 (digest o.2))
    | none, none =>
      s.misuse ("invalid argument '" ++ name ++ "' for '--algorithm'") input

end DatabaseTypes.Filter
