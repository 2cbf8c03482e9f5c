import DatabaseTypes.Filter.Records.Grammar

/-!
# Patterns in scripts about records

Brackets, bars, stars, plus signs and question marks are signs by themselves, braces are not, and a
backslash starts an escape, also in sets.

* `Filter.Records.patternOf`    the pattern of a text
* `Filter.Records.Separator`    what stands between records or fields
* `Filter.Records.pieces`       the pieces of a text between separators
* `Filter.Records.replaced`     a text with matches replaced
-/

namespace DatabaseTypes.Filter.Records

open Pattern (Sign)

/-! ## reading -/

/-- why a text is no pattern -/
inductive LikenessFault where
  | openGroup
  | openSet
  | noOperand
  deriving DecidableEq

/-- what is wrong with the text of a pattern, in words -/
def LikenessFault.message (t : Text) : LikenessFault → Text
  | .openGroup => "regular expression compile failed (missing ')')\n" ++ t
  | .openSet => "regular expression compile failed (bad class -- [], [^] or [)\n" ++ t
  | .noOperand => "regular expression compile failed (missing operand)\n" ++ t

/-- a character of a set, with its escape, and what follows it -/
def setChar : Text → Char × Text
  | '\\' :: c :: t => (escaped? (c :: t)).getD (c, t)
  | c :: t => (c, t)
  | [] => ('\\', [])

/-- the ranges of a set up to its closing bracket, and what follows it; each step uses up a character -/
def setRanges (first : Bool) : Nat → Text → Option (List (Char × Char) × Text)
  | 0, _ | _ + 1, [] => none
  | fuel + 1, c :: t =>
    if c = ']' && !first then some ([], t)
    else match namedAt? (c :: t) with
      | some (ranges, rest) => (setRanges false fuel rest).map fun r => (ranges ++ r.1, r.2)
      | none =>
        let (a, rest) := setChar (c :: t)
        match rest with
        | '-' :: b :: more =>
          if b = ']' then (setRanges false fuel rest).map fun r => ((a, a) :: r.1, r.2)
          else
            let (b, more) := setChar (b :: more)
            (setRanges false fuel more).map fun r => ((a, b) :: r.1, r.2)
        | rest => (setRanges false fuel rest).map fun r => ((a, a) :: r.1, r.2)
where
  /-- the ranges of a named set at the front of a text -/
  namedAt? (t : Text) : Option (List (Char × Char) × Text) :=
    match Text.after? ['[', ':'] t with
    | none => none
    | some u =>
      let name := u.takeWhile (· != ':')
      match Text.after? [':', ']'] (u.drop name.length), Pattern.classes.lookup name with
      | some rest, some ranges => some (ranges, rest)
      | _, _ => none

/-- the signs of a text; each step uses up a character -/
def likenessSigns : Nat → Text → Except LikenessFault (List Sign)
  | 0, _ | _ + 1, [] => .ok []
  | fuel + 1, c :: t =>
    let with_ (s : Sign) (rest : Text) : Except LikenessFault (List Sign) :=
      (likenessSigns fuel rest).map (s :: ·)
    match c, t with
    | '\\', d :: u => match escaped? (d :: u) with
      | some (e, rest) => with_ (.char e) rest
      | none => with_ (.char d) u
    | '[', _ =>
      let inverted := t.head? == some '^'
      match setRanges true (t.length + 1) (if inverted then t.drop 1 else t) with
      | some (ranges, rest) => with_ (.set (.among inverted ranges)) rest
      | none => .error .openSet
    | '.', _ => with_ (.set .any) t
    | '*', _ => with_ (.times 0 none) t
    | '^', _ => with_ (.assertion .lineStart) t
    | '$', _ => with_ (.assertion .lineEnd) t
    | _, _ => with_ ((Pattern.sign? c).getD (.char c)) t

/-- does an operand lack: before a repetition, or beside a bar? -/
def lacksOperand (signs : List Sign) : Bool :=
  let before := none :: signs.map some
  let after := (signs.drop 1).map some ++ [none]
  ((before.zip signs).zip after).any fun ((b, s), a) =>
    let atFront := b = none || b = some .openGroup || b = some .bar
    match s with
    | .times _ _ => atFront
    | .bar => atFront || a = none || a = some .closeGroup
    | _ => false

/-- the pattern of a text -/
def patternOf (t : Text) : Except LikenessFault Pattern := do
  let signs ← likenessSigns (t.length + 1) t
  if lacksOperand signs then throw .noOperand
  match signs.foldlM (Pattern.Begun.step true) {} with
  | .error _ => throw .openGroup
  | .ok b => if b.outer.isEmpty then pure b.closed else throw .openGroup

/-! ## pieces -/

/-- what stands between records or fields: blanks, nothing, a character, what a pattern takes, or empty
lines -/
inductive Separator where
  | blanks
  | nothing
  | char (c : Char)
  | like (p : Pattern)
  | emptyLines

/-- the separator of fields that a text means -/
def Separator.ofText (t : Text) : Except LikenessFault Separator :=
  match t with
  | [] => .ok .nothing
  | [' '] => .ok .blanks
  | [c] => .ok (.char c)
  | t => (patternOf t).map .like

/-- is a character a blank between fields? -/
def isFieldBlank (c : Char) : Bool := c == ' ' || c == '\t' || c == '\n'

/-- the first match of a pattern in a text that is not empty: what stands before it, and what after it;
each step uses up a character -/
def firstMatch? (p : Pattern) : Nat → Pattern.Spot → Option (Nat × Nat)
  | 0, _ => none
  | fuel + 1, s => match p.match? s with
    | some e => if e.taken = s.taken then
        if s.rest.isEmpty then none else firstMatch? p fuel (s.further 1)
      else some (s.taken, e.taken)
    | none => if s.rest.isEmpty then none else firstMatch? p fuel (s.further 1)

/-- the pieces of a text between the matches of a pattern; each step uses up a character -/
def piecesBy (p : Pattern) : Nat → Text → List Text
  | 0, t => [t]
  | fuel + 1, t => match firstMatch? p (t.length + 1) { rest := t } with
    | some (before, after) => t.take before :: piecesBy p fuel (t.drop after)
    | none => [t]

/-- the runs of characters between blanks, which may be empty -/
def fieldRuns (t : Text) : List Text :=
  t.foldr (fun c rs => if isFieldBlank c then [] :: rs else match rs with
    | r :: rs => (c :: r) :: rs
    | [] => [[c]]) [[]]

/-- the words of a text between blanks -/
def blankWords (t : Text) : List Text := (fieldRuns t).filter (!·.isEmpty)

/-- the pieces of a text between separators -/
def pieces (s : Separator) (t : Text) : List Text :=
  if t.isEmpty then []
  else match s with
    | .blanks => blankWords t
    | .nothing => t.map fun c => [c]
    | .char c => Text.split c t
    | .like p => piecesBy p t.length t
    | .emptyLines => [t]

/-- nothing has no pieces -/
theorem pieces_nil (s : Separator) : pieces s [] = [] := by simp [pieces]

/-! ## replacing -/

/-- a replacement with the match in the place of its marks -/
def filledWith (found : Text) : Text → Text
  | '\\' :: '&' :: t => '&' :: filledWith found t
  | '\\' :: '\\' :: t => '\\' :: filledWith found t
  | '&' :: t => found ++ filledWith found t
  | c :: t => c :: filledWith found t
  | [] => []

/-- a text with matches replaced, and how many; `once` asks for the first one only, and `free` tells
whether an empty match counts here.  Each step uses up a character. -/
def replacedAt (p : Pattern) (new : Text) (once : Bool) : Nat → Bool → Pattern.Spot → Text × Nat
  | 0, _, s => (s.rest, 0)
  | fuel + 1, free, s =>
    let onward (free : Bool) : Text × Nat := match s.rest with
      | [] => ([], 0)
      | c :: _ =>
        let (t, n) := replacedAt p new once fuel free (s.further 1)
        (c :: t, n)
    match p.match? s with
    | none => onward true
    | some e =>
      let size := e.taken - s.taken
      if size = 0 && !free then onward true
      else
        let own := filledWith (s.rest.take size) new
        if once then (own ++ s.rest.drop size, 1)
        else if size = 0 then
          let (t, n) := onward true
          (own ++ t, n + 1)
        else
          let (t, n) := replacedAt p new once fuel false (s.further size)
          (own ++ t, n + 1)

/-- a text with matches of a pattern replaced, and how many -/
def replaced (p : Pattern) (new : Text) (once : Bool) (t : Text) : Text × Nat :=
  replacedAt p new once (t.length + 1) true { rest := t }

end DatabaseTypes.Filter.Records
