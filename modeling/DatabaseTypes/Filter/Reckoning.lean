import DatabaseTypes.Filter.Arguments
import DatabaseTypes.Filter.Pattern

/-!
# Reckoning

* `Filter.Term`        values that are numbers if they look like it
* `Filter.reckoning`   the value of an expression whose words are the arguments
* `Filter.factoring`   numbers and their prime factors
-/

namespace DatabaseTypes.Filter

/-! ## values -/

/-- a value: a number, or a text, which counts as a number if it looks like one -/
inductive Term where
  | number (i : Int)
  | text (t : Text)
  deriving DecidableEq

namespace Term

/-- a value as a text -/
def toText : Term → Text
  | .number i => Text.ofInt i
  | .text t => t

/-- the number that a value is, if it looks like one -/
def toInt? : Term → Option Int
  | .number i => some i
  | .text ('-' :: t) => (count? t).map fun n => -(n : Int)
  | .text t => (count? t).map fun n => (n : Int)

/-- is a value zero or nothing? -/
def isNothing : Term → Bool
  | .number i => i == 0
  | .text [] => true
  | .text t =>
    let digits := if t.head? = some '-' then t.drop 1 else t
    !digits.isEmpty && digits.all (· == '0')

/-- zero and one as answers -/
def ofBool (b : Bool) : Term := .number (if b then 1 else 0)

/-- a number looks like itself -/
theorem toInt?_number (i : Int) : (number i).toInt? = some i := rfl

end Term

/-! ## expressions -/

/-- why words are no expression, or have no value -/
inductive TermFault where
  | lacksArgument (before : Text)
  | unexpected (t : Text)
  | lacksBracket (before : Text)
  | noBracket (t : Text)
  | closes
  | noInteger
  | divides
  | pattern (t : Text)

/-- a text between quotes, in which backslashes and quotes stand after a backslash -/
def wordInQuotes (t : Text) : Text :=
  let one (c : Char) : Text :=
    if c = '\\' ∨ c = '\'' then ['\\', c]
    else if c = '\n' then "\\n" else if c = '\t' then "\\t"
    else if ' ' ≤ c ∧ c ≤ '~' then [c] else '\\' :: Text.zeroPadded 3 (Nat.toDigits 8 c.toNat)
  ['\''] ++ t.flatMap one ++ ['\'']

/-- what is wrong, in words -/
def TermFault.message : TermFault → Text
  | .lacksArgument t => "syntax error: missing argument after " ++ wordInQuotes t
  | .unexpected t => "syntax error: unexpected argument " ++ wordInQuotes t
  | .lacksBracket t => "syntax error: expecting ')' after " ++ wordInQuotes t
  | .noBracket t => "syntax error: expecting ')' instead of " ++ wordInQuotes t
  | .closes => "syntax error: unexpected ')'"
  | .noInteger => "non-integer argument"
  | .divides => "division by zero"
  | .pattern t => t

/-- words that are read one after the other: the last one that was, and those that are to come -/
structure TermWords where
  last : Text := []
  rest : List Text

/-- what reads words -/
abbrev TermReader := StateT TermWords (Except TermFault)

namespace TermReader

/-- the next word, which must be there -/
def word : TermReader Text := do
  let w ← get
  match w.rest with
  | [] => throw (.lacksArgument w.last)
  | t :: ts =>
    set ({ last := t, rest := ts } : TermWords)
    pure t

/-- the first of some words that comes next, taken -/
def oneOf (ts : List Text) : TermReader (Option Text) := do
  match (← get).rest with
  | t :: _ => if ts.contains t then do pure (some (← word)) else pure none
  | [] => pure none

end TermReader

/-- the part of a text that a pattern takes: its group, or how many characters it has -/
def partLike (t p : Text) : Except TermFault Term :=
  match Pattern.ofText false p with
  | .error f => .error (.pattern (f.message false))
  | .ok pattern =>
    let found := pattern.match? { rest := t }
    if 0 < pattern.groupCount then
      .ok (.text (((found.bind fun s => s.groups.lookup 1)).getD []))
    else .ok (.number ((found.map (·.taken)).getD 0))

/-- a number made of two others; a quotient is cut off at its point -/
def combined (sign : Text) (x y : Int) : Except TermFault Term :=
  if sign = ['+'] then .ok (.number (x + y))
  else if sign = ['-'] then .ok (.number (x - y))
  else if sign = ['*'] then .ok (.number (x * y))
  else if y = 0 then .error .divides
  else .ok (.number (if sign = ['/'] then x.tdiv y else x.tmod y))

/-- the value that a sign makes of two others -/
def termOf (sign : Text) (a b : Term) : Except TermFault Term :=
  let stands (below equal : Bool) : Term :=
    .ofBool (if sign = ['<'] then below else if sign = "<=" then below || equal
      else if sign = "!=" then !equal else if sign = ['>'] then !below && !equal
      else if sign = ">=" then !below else equal)
  if sign = ['|'] then
    .ok (if !a.isNothing then a else if b.isNothing then .number 0 else b)
  else if sign = ['&'] then .ok (if a.isNothing || b.isNothing then .number 0 else a)
  else if sign = [':'] then partLike a.toText b.toText
  else if [['+'], ['-'], ['*'], ['/'], ['%']].contains sign then
    match a.toInt?, b.toInt? with
    | some x, some y => combined sign x y
    | _, _ => .error .noInteger
  else match a.toInt?, b.toInt? with
    | some x, some y => .ok (stands (x < y) (x == y))
    | _, _ => .ok (stands (a.toText.atMost b.toText && a.toText != b.toText) (a.toText == b.toText))

/-- the signs between values, those that bind least first -/
def termSigns : List (List Text) := [[['|']], [['&']],
  [['<'], "<=".toList, ['='], "==".toList, "!=".toList, ">=".toList, ['>']], [['+'], ['-']],
  [['*'], ['/'], ['%']], [[':']]]

/-- does the value before a sign settle what comes after it? -/
def settles (sign : Text) (a : Term) : Bool :=
  (sign = ['|'] && !a.isNothing) || (sign = ['&'] && a.isNothing)

mutual

/-- the value of words with signs of some levels between them; `counts` tells whether it matters -/
def termAt : Nat → Bool → List (List Text) → TermReader Term
  | 0, _, _ => do throw (.unexpected (← get).last)
  | fuel + 1, counts, signs => do
    match signs with
    | [] => simpleTerm fuel counts
    | own :: more =>
      let a ← termAt fuel counts more
      moreTerms fuel counts own more a

/-- a value with more of them after signs of one level -/
def moreTerms : Nat → Bool → List Text → List (List Text) → Term → TermReader Term
  | 0, _, _, _, _ => do throw (.unexpected (← get).last)
  | fuel + 1, counts, own, more, a => do
    match ← TermReader.oneOf own with
    | none => pure a
    | some sign =>
      let b ← termAt fuel (counts && !settles sign a) more
      if counts then moreTerms fuel counts own more (← termOf sign a b)
      else moreTerms fuel counts own more a

/-- a value without signs: that of a function, a word, or one in brackets -/
def simpleTerm : Nat → Bool → TermReader Term
  | 0, _ => do throw (.unexpected (← get).last)
  | fuel + 1, counts => do
    let t ← TermReader.word
    if t = ['+'] then do pure (.text (← TermReader.word))
    else if t = "length" then do pure (.number (← simpleTerm fuel counts).toText.length)
    else if t = "match" then do
      let a ← simpleTerm fuel counts
      let p ← simpleTerm fuel counts
      if counts then partLike a.toText p.toText else pure a
    else if t = "index" then do
      let a ← simpleTerm fuel counts
      let p ← simpleTerm fuel counts
      let place := a.toText.findIdx? fun c => p.toText.contains c
      pure (.number ((place.map (· + 1)).getD 0 : Nat))
    else if t = "substr" then do
      let a ← simpleTerm fuel counts
      let first ← simpleTerm fuel counts
      let size ← simpleTerm fuel counts
      match first.toInt?, size.toInt? with
      | some i, some n =>
        pure (.text (if i ≤ 0 ∨ n ≤ 0 then [] else (a.toText.drop (i.toNat - 1)).take n.toNat))
      | _, _ => pure (.text [])
    else if t = ['('] then do
      let a ← termAt fuel counts termSigns
      match (← get).rest with
      | [] => throw (.lacksBracket (← get).last)
      | u :: _ =>
        if u = [')'] then
          let _ ← TermReader.word
          pure a
        else throw (.noBracket u)
    else if t = [')'] then throw .closes
    else pure (.text t)

end

/-- the value of words -/
def termOfWords (ts : List Text) : Except TermFault Term := do
  let (a, w) ← (termAt (20 * ts.length + 20) true termSigns).run { rest := ts }
  match w.rest with
  | [] => pure a
  | t :: _ => throw (.unexpected t)

/-- the value of an expression whose words are the arguments; it fails if the value is nothing -/
def reckoning : Program := fun s args input =>
  let args := if args.head? = some "--".toList then args.drop 1 else args
  if args.isEmpty then s.misuse "missing operand" input 2
  else match termOfWords (args.map fun t => asText (Text.toBytes t)) with
    | .error f =>
      { ending := .status 2, left := input, errors := remark s.called (Text.ofBytesShowing (asBytes f.message)) }
    | .ok a =>
      { ending := .status (if a.isNothing then 1 else 0), left := input
        output := asBytes (a.toText ++ ['\n']) }

/-! ## factors -/

/-- a power of a number by another one, as a remainder; each step halves the exponent -/
def powerModulo (n : Nat) : Nat → Nat → Nat → Nat
  | 0, _, _ => 1 % n
  | fuel + 1, x, e =>
    if e = 0 then 1 % n
    else
      let half := powerModulo n fuel (x * x % n) (e / 2)
      if e % 2 = 1 then half * x % n else half

/-- does a base show that an odd number is composite? `odd` times a power of two is the number less
one. -/
def showsComposite (n odd twos base : Nat) : Bool :=
  let x := powerModulo n 64 (base % n) odd
  let squares := (List.range twos).foldl (fun (xs : List Nat) _ => ((xs.headD 1) * (xs.headD 1) % n) :: xs) [x]
  !(x == 1) && !(squares.drop 1).contains (n - 1)

/-- is a number below two to the sixty-fourth prime? -/
def isPrime (n : Nat) : Bool :=
  let bases := [2, 3, 5, 7, 11, 13, 17, 19, 23, 29, 31, 37]
  if n < 2 then false
  else if bases.contains n then true
  else if bases.any fun b => n % b == 0 then false
  else
    let twos := (List.range 64).takeWhile fun i => (n - 1) % Nat.pow 2 (i + 1) == 0
    let odd := (n - 1) / Nat.pow 2 twos.length
    !bases.any (showsComposite n odd twos.length)

/-- a divisor of a composite number by two walks, of which one is twice as fast; each step walks -/
def divisorBy (n c : Nat) : Nat → Nat → Nat → Option Nat
  | 0, _, _ => none
  | fuel + 1, x, y =>
    let x := (x * x + c) % n
    let y := (y * y + c) % n
    let y := (y * y + c) % n
    let d := Nat.gcd (if x ≤ y then y - x else x - y) n
    if d = n then none else if 1 < d then some d else divisorBy n c fuel x y

/-- the prime factors of a number that has no small ones -/
def largeFactors : Nat → Nat → List Nat
  | 0, n => [n]
  | fuel + 1, n =>
    if n = 1 then []
    else if isPrime n then [n]
    else match (List.range 20).findSome? fun c => divisorBy n (c + 1) 200000 2 2 with
      | some d => largeFactors fuel d ++ largeFactors fuel (n / d)
      | none => [n]

/-- the prime factors of a number, of which those below a bound are found by division; each step divides
or goes on to the next divisor -/
def primeFactors : Nat → Nat → Nat → List Nat
  | 0, _, n => (largeFactors 64 n).mergeSort (· ≤ ·)
  | fuel + 1, d, n =>
    if n < d * d then if n = 1 then [] else [n]
    else if n % d = 0 then d :: primeFactors fuel d (n / d)
    else primeFactors fuel (d + 1) n

/-- one has no prime factors -/
theorem primeFactors_one (fuel : Nat) : primeFactors (fuel + 1) 2 1 = [] := by simp [primeFactors]

/-- runs of one number with their sizes -/
def powersOf (ns : List Nat) : List (Nat × Nat) :=
  ns.foldr (fun n rs => match rs with
    | (m, k) :: rs => if m = n then (m, k + 1) :: rs else (n, 1) :: (m, k) :: rs
    | [] => [(n, 1)]) []

/-- a number with its prime factors, as a line -/
def factorLine (asPowers : Bool) (n : Nat) : Text :=
  let factors := if n = 0 then [] else primeFactors 2000 2 n
  let shown : List Text := if asPowers
    then (powersOf factors).map fun r => Text.ofNat r.1 ++ if r.2 = 1 then [] else '^' :: Text.ofNat r.2
    else factors.map Text.ofNat
  Text.ofNat n ++ [':'] ++ shown.flatMap (fun t => ' ' :: t) ++ ['\n']

/-- numbers and their prime factors -/
def factoring : Program :=
  withArguments { plain := ['h'], words := [("exponents", 'h')] } fun s a input =>
    let words := if a.operands.isEmpty
      then (asText input |>.splitOnP fun c => c == ' ' || c == '\t' || c == '\n').filter (!·.isEmpty)
      else a.operands.map fun t => asText (Text.toBytes t)
    let results := words.map fun t =>
      let digits := t.dropWhile (· == ' ')
      let digits := if digits.head? = some '+' then digits.drop 1 else digits
      match count? digits with
      | some n => (asBytes (factorLine (a.has 'h') n), [])
      | none => ([], remark s.called ("'" ++ Text.ofBytesShowing (asBytes t) ++ "' is not a valid positive integer"))
    { ending := .status (if results.all (·.2.isEmpty) then 0 else 1)
      output := results.flatMap (·.1), errors := results.flatMap (·.2)
      left := if a.operands.isEmpty then [] else input }

end DatabaseTypes.Filter
