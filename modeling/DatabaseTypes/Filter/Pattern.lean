import DatabaseTypes.Filter.Basic

/-!
# Patterns of characters

A pattern says which texts are looked for in a line.  It is written with the signs of one of two
dialects: in the extended one brackets, bars, plus signs and question marks are signs by themselves,
in the other one after a backslash.

* `Filter.Pattern`             the patterns
* `Filter.Pattern.ofText`      reading a pattern
* `Filter.Pattern.found?`      the first match in a text
* `Filter.Pattern.replaced`    a line with matches replaced
-/

namespace DatabaseTypes.Filter

/-- the characters that stand at one place -/
inductive Atom where
  | any
  | only (c : Char)
  | among (inverted : Bool) (ranges : List (Char × Char))
  deriving DecidableEq

/-- is a character in one of the ranges? -/
def inCharRanges (ranges : List (Char × Char)) (c : Char) : Bool :=
  ranges.any fun r => decide (r.1.toNat ≤ c.toNat ∧ c.toNat ≤ r.2.toNat)

/-- does an atom take a character? -/
def Atom.takes (c : Char) : Atom → Bool
  | .any => true
  | .only d => c == d
  | .among inverted ranges => inCharRanges ranges c != inverted

/-- where words begin and end: at either end of a word, at neither, at its front, behind it, or where no
word comes from before or goes on behind -/
inductive WordEdge where
  | either
  | neither
  | front
  | back
  | clearBefore
  | clearBehind
  deriving DecidableEq

/-- does a word begin or end here, as it should? The first flag tells whether a character of a word stands
before, the second whether one follows -/
def WordEdge.holds : WordEdge → Bool → Bool → Bool
  | .either, before, after => before != after
  | .neither, before, after => before == after
  | .front, before, after => !before && after
  | .back, before, after => before && !after
  | .clearBefore, before, _ => !before
  | .clearBehind, _, after => !after

/-- a word begins or ends at either of its ends -/
theorem WordEdge.holds_either (before after : Bool) :
    WordEdge.either.holds before after
      = (WordEdge.front.holds before after || WordEdge.back.holds before after) := by
  cases before <;> cases after <;> rfl

/-- a pattern -/
inductive Pattern where
  | empty
  | one (a : Atom)
  | sequence (p q : Pattern)
  | choice (p q : Pattern)
  | repeated (least : Nat) (greatest : Option Nat) (p : Pattern)
  | group (n : Nat) (p : Pattern)
  /-- the text of a group once more -/
  | again (n : Nat)
  | lineStart
  | lineEnd
  /-- at the front or the end of one of the lines in a text -/
  | innerStart
  | innerEnd
  /-- at the front or the end of the whole text -/
  | textStart
  | textEnd
  | word (edge : WordEdge)
  deriving DecidableEq

/-- why a text is no pattern -/
inductive PatternFault where
  | openSet
  | openGroup
  | openCount
  | closedGroup
  | badCount
  | badReference
  | lastBackslash
  | badClass
  | badRange
  | badRepetition
  deriving DecidableEq

/-- what is wrong, in words -/
def PatternFault.message (extended : Bool) : PatternFault → Text
  | .openSet => "Unmatched [, [^, [:, [., or [="
  | .openGroup => "Unmatched ( or \\("
  | .closedGroup => "Unmatched ) or \\)"
  | .openCount => if extended then "Unmatched \x7b" else "Unmatched \\\x7b"
  | .badCount => "Invalid content of \\\x7b\\\x7d"
  | .badReference => "Invalid back reference"
  | .lastBackslash => "Trailing backslash"
  | .badClass => "Invalid character class name"
  | .badRange => "Invalid range end"
  | .badRepetition => "Invalid preceding regular expression"

namespace Pattern

/-! ## sets -/

/-- the named sets of characters -/
def classes : List (Text × List (Char × Char)) :=
  let lower := [('a', 'z')]
  let upper := [('A', 'Z')]
  let digits := [('0', '9')]
  [("alpha", lower ++ upper), ("lower", lower), ("upper", upper), ("digit", digits),
    ("alnum", lower ++ upper ++ digits), ("space", [('\t', '\r'), (' ', ' ')]),
    ("blank", [('\t', '\t'), (' ', ' ')]), ("xdigit", [('a', 'f'), ('A', 'F'), ('0', '9')]),
    ("punct", [('!', '/'), (':', '@'), ('[', '\x60'), ('\x7b', '~')]),
    ("cntrl", [('\x00', '\x1f'), ('\x7f', '\x7f')]), ("print", [(' ', '~')]), ("graph", [('!', '~')])]

/-- the characters of words -/
def wordRanges : List (Char × Char) := [('a', 'z'), ('A', 'Z'), ('0', '9'), ('_', '_')]

/-- the ranges up to a closing bracket, and what follows it; each step uses up a character -/
def rangesOf : Nat → Text → Except PatternFault (List (Char × Char) × Text)
  | 0, _ => .error .openSet
  | _ + 1, [] => .error .openSet
  | _ + 1, ']' :: t => .ok ([], t)
  | fuel + 1, '[' :: ':' :: t =>
    let name := t.takeWhile (· != ':')
    match Text.after? [':', ']'] (t.drop name.length), classes.lookup name with
    | none, _ => .error .openSet
    | some _, none => .error .badClass
    | some rest, some named => do
      let (rs, rest) ← rangesOf fuel rest
      pure (named ++ rs, rest)
  | fuel + 1, a :: '-' :: b :: t =>
    if b = ']' then do
      let (rs, rest) ← rangesOf fuel (b :: t)
      pure ((a, a) :: ('-', '-') :: rs, rest)
    else if b < a then .error .badRange
    else do
      let (rs, rest) ← rangesOf fuel t
      pure ((a, b) :: rs, rest)
  | fuel + 1, a :: t => do
    let (rs, rest) ← rangesOf fuel t
    pure ((a, a) :: rs, rest)

/-- the atom of a set, and what follows it; a bracket that closes at once stands for itself -/
def setOf (t : Text) : Except PatternFault (Atom × Text) := do
  let inverted := t.head? == some '^'
  let t := if inverted then t.drop 1 else t
  match t with
  | ']' :: rest =>
    let (rs, rest) ← rangesOf t.length rest
    pure (.among inverted ((']', ']') :: rs), rest)
  | _ =>
    let (rs, rest) ← rangesOf (t.length + 1) t
    pure (.among inverted rs, rest)

/-! ## reading -/

/-- the signs of patterns -/
inductive Sign where
  | char (c : Char)
  | set (a : Atom)
  | assertion (p : Pattern)
  | openGroup
  | closeGroup
  | bar
  | times (least : Nat) (greatest : Option Nat)
  deriving DecidableEq

/-- the counts between braces, and what follows them -/
def counts? (extended : Bool) (t : Text) : Except PatternFault (Nat × Option Nat × Text) :=
  let inside := t.takeWhile fun c => Text.isDigit c || c == ','
  let rest := t.drop inside.length
  let close : Text := if extended then ['\x7d'] else ['\\', '\x7d']
  match Text.after? close rest with
  | none => .error (if rest.isEmpty then .openCount else .badCount)
  | some rest => match Text.split ',' inside with
    | [n] => match count? n with
      | some n => .ok (n, some n, rest)
      | none => .error .badCount
    | [a, b] =>
      let least := (count? a).getD 0
      if (count? b).any (· < least) then .error .badCount else .ok (least, count? b, rest)
    | _ => .error .badCount

/-- what an escaped character means in either dialect -/
def escapedSign (c : Char) : Sign :=
  if c = 'w' then .set (.among false wordRanges)
  else if c = 'W' then .set (.among true wordRanges)
  else if c = 's' then .set (.among false [('\t', '\r'), (' ', ' ')])
  else if c = 'S' then .set (.among true [('\t', '\r'), (' ', ' ')])
  else if c = 'b' then .assertion (.word .either)
  else if c = 'B' then .assertion (.word .neither)
  else if c = '<' then .assertion (.word .front)
  else if c = '>' then .assertion (.word .back)
  else if c = '\x60' then .assertion .textStart
  else if c = '\'' then .assertion .textEnd
  else if '1' ≤ c ∧ c ≤ '9' then .assertion (.again (c.toNat - '0'.toNat))
  else .char c

/-- what a character means where it is a sign -/
def sign? (c : Char) : Option Sign :=
  if c = '(' then some .openGroup
  else if c = ')' then some .closeGroup
  else if c = '|' then some .bar
  else if c = '+' then some (.times 1 none)
  else if c = '?' then some (.times 0 (some 1))
  else none

/-- may a repetition or the start of a line stand after these signs? `before` is reversed -/
def atFront : List Sign → Bool
  | [] | .openGroup :: _ | .bar :: _ => true
  | _ => false

/-- does a group or the pattern end here? -/
def atBack (extended : Bool) (t : Text) : Bool :=
  t.isEmpty || (if extended then t.head? == some ')' || t.head? == some '|'
    else Text.startsWith ['\\', ')'] t || Text.startsWith ['\\', '|'] t)

/-- the signs of a text after others, which are reversed; each step uses up a character -/
def signsFrom (extended : Bool) : Nat → List Sign → Text → Except PatternFault (List Sign)
  | 0, before, _ => .ok before.reverse
  | _ + 1, before, [] => .ok before.reverse
  | fuel + 1, before, c :: t =>
    let push (s : Sign) (t : Text) := signsFrom extended fuel (s :: before) t
    let counted (t : Text) : Except PatternFault (List Sign) := do
      let (least, greatest, rest) ← counts? extended t
      push (.times least greatest) rest
    match c, t with
    | '\\', [] => .error .lastBackslash
    | '\\', d :: u =>
      if extended then push (if (sign? d).isSome then .char d else escapedSign d) u
      else if d = '\x7b' then counted u
      else push ((sign? d).getD (escapedSign d)) u
    | '.', _ => push (.set .any) t
    | '[', _ => do
      let (a, rest) ← setOf t
      push (.set a) rest
    | '*', _ => push (if atFront before && !extended then .char '*' else .times 0 none) t
    | '^', _ => push (if extended || atFront before then .assertion .lineStart else .char '^') t
    | '$', _ => push (if extended || atBack extended t then .assertion .lineEnd else .char '$') t
    | '\x7b', _ => if extended && !atFront before then counted t else push (.char c) t
    | _, _ => push (if extended then (sign? c).getD (.char c) else .char c) t

/-- a pattern with a repetition of its last part -/
def withTimes (least : Nat) (greatest : Option Nat) : Pattern → Pattern
  | .sequence p q => .sequence p (.repeated least greatest q)
  | p => .repeated least greatest p

/-- one part after a pattern -/
def followedBy (p q : Pattern) : Pattern := if p = .empty then q else .sequence p q

/-- a pattern that is being read: groups that are open with what stands before them, the choices
before, the part begun, and the number of groups so far -/
structure Begun where
  outer : List (Nat × Option Pattern × Pattern) := []
  choices : Option Pattern := none
  part : Pattern := .empty
  groups : Nat := 0

/-- the choices with the part begun -/
def Begun.closed (b : Begun) : Pattern :=
  match b.choices with
  | some p => .choice p b.part
  | none => b.part

/-- what is read after a sign -/
def Begun.step (extended : Bool) (b : Begun) : Sign → Except PatternFault Begun
  | .char c => .ok { b with part := followedBy b.part (.one (.only c)) }
  | .set a => .ok { b with part := followedBy b.part (.one a) }
  | .assertion (.again n) =>
    if n ≤ b.groups then .ok { b with part := followedBy b.part (.again n) } else .error .badReference
  | .assertion p => .ok { b with part := followedBy b.part p }
  | .bar => .ok { b with choices := some b.closed, part := .empty }
  | .times least greatest => .ok { b with part := withTimes least greatest b.part }
  | .openGroup =>
    let n := b.groups + 1
    .ok { outer := (n, b.choices, b.part) :: b.outer, groups := n }
  | .closeGroup => match b.outer with
    | (n, choices, part) :: outer =>
      .ok { b with outer, choices, part := followedBy part (.group n b.closed) }
    | [] =>
      if extended then .ok { b with part := followedBy b.part (.one (.only ')')) }
      else .error .closedGroup

/-- the pattern of a text -/
def ofText (extended : Bool) (t : Text) : Except PatternFault Pattern := do
  let signs ← signsFrom extended (t.length + 1) [] t
  let b ← signs.foldlM (Begun.step extended) {}
  if b.outer.isEmpty then pure b.closed else throw .openGroup

/-- does a repetition stand where there is nothing to repeat? -/
def repeatsNothing (signs : List Sign) : Bool :=
  ((none :: signs.map some).zip signs).any fun (before, s) =>
    let isFront := match before with
      | none | some .openGroup | some .bar => true
      | _ => false
    let repeats := match s with
      | .times _ _ => true
      | _ => false
    isFront && repeats

/-- the pattern of a text, in which there must be something to repeat -/
def strictOfText (extended : Bool) (t : Text) : Except PatternFault Pattern := do
  let signs ← signsFrom extended (t.length + 1) [] t
  if repeatsNothing signs then throw .badRepetition
  ofText extended t

/-- the pattern of a text whose characters all stand for themselves -/
def ofPlainText (t : Text) : Pattern :=
  t.foldl (fun p c => followedBy p (.one (.only c))) .empty

/-- a pattern for either case of its letters -/
def eitherCase : Pattern → Pattern
  | .one (.only c) => .one (.among false [(c.toLower, c.toLower), (c.toUpper, c.toUpper)])
  | .one (.among inverted ranges) =>
    .one (.among inverted (ranges ++ ranges.flatMap fun r =>
      [(r.1.toLower, r.2.toLower), (r.1.toUpper, r.2.toUpper)]))
  | .sequence p q => .sequence (eitherCase p) (eitherCase q)
  | .choice p q => .choice (eitherCase p) (eitherCase q)
  | .repeated least greatest p => .repeated least greatest (eitherCase p)
  | .group n p => .group n (eitherCase p)
  | p => p

/-- a pattern for each of the lines in a text -/
def forEachLine : Pattern → Pattern
  | .lineStart => .innerStart
  | .lineEnd => .innerEnd
  | .sequence p q => .sequence (forEachLine p) (forEachLine q)
  | .choice p q => .choice (forEachLine p) (forEachLine q)
  | .repeated least greatest p => .repeated least greatest (forEachLine p)
  | .group n p => .group n (forEachLine p)
  | p => p

/-- how many groups a pattern has -/
def groupCount : Pattern → Nat
  | .sequence p q | .choice p q => groupCount p + groupCount q
  | .repeated _ _ p => groupCount p
  | .group _ p => groupCount p + 1
  | _ => 0

/-! ## matching -/

/-- a place in a text: the character before it, the text after it, how many characters are taken,
and the texts of groups -/
structure Spot where
  before : Option Char := none
  rest : Text
  taken : Nat := 0
  groups : List (Nat × Text) := []

/-- a place so many characters further on -/
def Spot.further (s : Spot) (n : Nat) : Spot :=
  { s with before := (s.rest.take n).getLast? <|> s.before, rest := s.rest.drop n, taken := s.taken + n }

/-- does a word begin or end at a place, as it should? -/
def Spot.isAt (s : Spot) (edge : WordEdge) : Bool :=
  edge.holds (s.before.any (inCharRanges wordRanges)) (s.rest.head?.any (inCharRanges wordRanges))

/-- a place after one more repetition from another place on: one that takes nothing leaves the groups as
they were, if they were there -/
def Spot.repeatedFrom (s : Spot) (p : Pattern) (next : Spot) : Spot :=
  let wasThere := match p with
    | .group n _ => (s.groups.lookup n).isSome
    | _ => false
  if next.taken = s.taken && wasThere then { next with groups := s.groups } else next

/-- the end of a match that `goOn` accepts, as many repetitions as possible first -/
def run : Nat → Pattern → Spot → (Spot → Option Spot) → Option Spot
  | 0, _, _, _ => none
  | fuel + 1, p, s, goOn =>
    match p with
    | .empty => goOn s
    | .one a => if s.rest.head?.any a.takes then goOn (s.further 1) else none
    | .sequence p q => run fuel p s fun s => run fuel q s goOn
    | .choice p q => run fuel p s goOn <|> run fuel q s goOn
    | .repeated least greatest p =>
      let more : Option Spot :=
        if greatest = some 0 then none
        else run fuel p s fun next =>
          if next.taken = s.taken && least = 0 then none
          else run fuel (.repeated (least - 1) (greatest.map (· - 1)) p) (s.repeatedFrom p next) goOn
      more <|> if least = 0 then goOn s else none
    | .group n p => run fuel p s fun next =>
      goOn { next with groups := (n, s.rest.take (next.taken - s.taken)) :: next.groups }
    | .again n => match s.groups.lookup n with
      | some t => if Text.startsWith t s.rest then goOn (s.further t.length) else none
      | none => none
    | .lineStart | .textStart => if s.before.isNone then goOn s else none
    | .lineEnd | .textEnd => if s.rest.isEmpty then goOn s else none
    | .innerStart => if s.before.all (· == '\n') then goOn s else none
    | .innerEnd => if s.rest.head?.all (· == '\n') then goOn s else none
    | .word edge => if s.isAt edge then goOn s else none

/-- how many parts a pattern has -/
def size : Pattern → Nat
  | .sequence p q | .choice p q => size p + size q + 1
  | .repeated least _ p => size p + least + 1
  | .group _ p => size p + 1
  | _ => 1

/-- can a pattern match in only one way at a place? -/
def isSteady : Pattern → Bool
  | .choice _ _ | .repeated _ _ _ => false
  | .sequence p q => isSteady p && isSteady q
  | .group _ p => isSteady p
  | _ => true

/-- does a pattern go back to a group? -/
def goesBack : Pattern → Bool
  | .again _ => true
  | .sequence p q | .choice p q => goesBack p || goesBack q
  | .repeated _ _ p | .group _ p => goesBack p
  | _ => false

/-- places with the furthest first, each of them once -/
def mergedSpots : List Spot → List Spot → List Spot
  | [], ts => ts
  | ss, [] => ss
  | s :: ss, t :: ts =>
    if t.taken < s.taken then s :: mergedSpots ss (t :: ts)
    else if s.taken < t.taken then t :: mergedSpots (s :: ss) ts
    else s :: mergedSpots ss ts

/-- is a place not among others? -/
def isNewSpot (ss : List Spot) (s : Spot) : Bool :=
  (ss.find? fun t => t.taken ≤ s.taken).all fun t => t.taken != s.taken

/-- the places that are reached in any number of further steps from new ones; those that were reached
before are left out -/
def reachedBy (step : List Spot → List Spot) : Nat → Option Nat → List Spot → List Spot → List Spot
  | 0, _, reached, _ | _ + 1, some 0, reached, _ | _ + 1, _, reached, [] => reached
  | fuel + 1, most, reached, fresh =>
    let next := (step fresh).filter (isNewSpot reached)
    reachedBy step fuel (most.map (· - 1)) (mergedSpots reached next) next

/-- the ends of all matches that begin at some places, the furthest first; no pattern in them goes back to
a group -/
def ends : Pattern → List Spot → List Spot
  | .empty, ss | .again _, ss => ss
  | .one a, ss => (ss.filter fun s => s.rest.head?.any a.takes).map (·.further 1)
  | .sequence p q, ss => ends q (ends p ss)
  | .choice p q, ss => mergedSpots (ends p ss) (ends q ss)
  | .repeated least greatest p, ss =>
    let front := Nat.repeat (ends p) least ss
    let most := ((front.map fun s => s.rest.length).max?).getD 0
    reachedBy (ends p) (most + 1) (greatest.map (· - least)) front front
  | .group _ p, ss => ends p ss
  | .lineStart, ss | .textStart, ss => ss.filter fun s => s.before.isNone
  | .lineEnd, ss | .textEnd, ss => ss.filter fun s => s.rest.isEmpty
  | .innerStart, ss => ss.filter fun s => s.before.all (· == '\n')
  | .innerEnd, ss => ss.filter fun s => s.rest.head?.all (· == '\n')
  | .word edge, ss => ss.filter fun s => s.isAt edge

/-- the end of the longest match at a place -/
def match? (p : Pattern) (s : Spot) : Option Spot :=
  let fuel := 2 * p.size + s.rest.length + 8
  let upTo (taken : Nat) : Option Spot := run fuel p s fun next => if next.taken = taken then some next else none
  if p.isSteady then run fuel p s some
  else if p.goesBack then (List.range (s.rest.length + 1)).reverse.findSome? fun n => upTo (s.taken + n)
  else match (p.ends [s]).head? with
    | none => none
    | some e => upTo e.taken

/-- the first match from a place on: where it begins and where it ends -/
def foundFrom? (p : Pattern) : Nat → Spot → Option (Spot × Spot)
  | 0, s => (p.match? s).map fun e => (s, e)
  | fuel + 1, s => match p.match? s with
    | some e => some (s, e)
    | none => if s.rest.isEmpty then none else foundFrom? p fuel (s.further 1)

/-- the first match in a text -/
def found? (p : Pattern) (t : Text) : Option (Spot × Spot) :=
  p.foundFrom? t.length { rest := t }

/-- does a pattern match somewhere in a line? -/
def occursIn (p : Pattern) (line : Text) : Bool := (p.found? line).isSome

/-! ## replacing -/

/-- how letters are written -/
inductive Casing where
  | asIs
  | upper
  | lower

/-- a text with its letters written in one way, and the first of them perhaps in another -/
def Casing.written (lasting : Casing) (once : Option Casing) (t : Text) : Text :=
  let one (c : Casing) (d : Char) : Char := match c with
    | .asIs => d
    | .upper => d.toUpper
    | .lower => d.toLower
  match t with
  | [] => []
  | c :: t => one (once.getD lasting) c :: t.map (one lasting)

/-- the casings that letters after a backslash ask for, of all that follows or of one letter -/
def casings : List (Char × (Option Casing × Option Casing)) := [
  ('U', (some .upper, none)), ('L', (some .lower, none)), ('E', (some .asIs, none)),
  ('u', (none, some .upper)), ('l', (none, some .lower))]

/-- a replacement with the match and its groups in the places of their marks -/
def filledFrom (found : Text) (groups : List (Nat × Text)) (lasting : Casing) (once : Option Casing) :
    Text → Text
  | [] => []
  | '\\' :: c :: t =>
    match casings.lookup c with
    | some (some all, _) => filledFrom found groups all none t
    | some (none, single) => filledFrom found groups lasting single t
    | none =>
      let piece : Text :=
        if c = '0' then found
        else if Text.isDigit c then (groups.lookup (c.toNat - '0'.toNat)).getD []
        else [if c = 'n' then '\n' else if c = 't' then '\t' else c]
      lasting.written once piece
        ++ filledFrom found groups lasting (if piece.isEmpty then once else none) t
  | c :: t =>
    let piece : Text := if c = '&' then found else [c]
    lasting.written once piece
      ++ filledFrom found groups lasting (if piece.isEmpty then once else none) t

/-- a replacement with the match and its groups in the places of their marks -/
def filled (found : Text) (groups : List (Nat × Text)) (t : Text) : Text :=
  filledFrom found groups .asIs none t

/-- which matches are replaced: from one on, all or only that one -/
structure Choice where
  first : Nat := 1
  all : Bool := false

/-- the rest of a line with matches replaced, and whether there was one to replace; `count` is the
number of the next match, and `free` tells whether an empty match counts here.  Each step uses up a
character. -/
def replacedFrom (p : Pattern) (new : Text) (c : Choice) : Nat → Nat → Bool → Spot → Text × Bool
  | 0, _, _, s => (s.rest, false)
  | fuel + 1, count, free, s =>
    match p.match? s with
    | none => match s.rest with
      | [] => ([], false)
      | d :: _ =>
        let (t, done) := replacedFrom p new c fuel count true (s.further 1)
        (d :: t, done)
    | some e =>
      let n := e.taken - s.taken
      let kept := s.rest.take (max n 1)
      let next := { s with groups := [] }.further (max n 1)
      if n = 0 && !free && s.rest.isEmpty then ([], false)
      else if n = 0 && !free then
        let (t, done) := replacedFrom p new c fuel count true next
        (kept ++ t, done)
      else
        let wanted := count == c.first || (c.all && c.first ≤ count)
        let own := if wanted then filled (s.rest.take n) e.groups new else s.rest.take n
        if wanted && !c.all then (own ++ s.rest.drop n, true)
        else
          let after := if n = 0 then s.rest.take 1 else []
          if s.rest.isEmpty then (own, wanted)
          else
            let (t, done) := replacedFrom p new c fuel (count + 1) (n = 0) next
            (own ++ after ++ t, wanted || done)

/-- a line with matches replaced, and whether there was one to replace -/
def replaced (p : Pattern) (new : Text) (c : Choice) (line : Text) : Text × Bool :=
  replacedFrom p new c (line.length + 1) 1 true { rest := line }

end Pattern
end DatabaseTypes.Filter
