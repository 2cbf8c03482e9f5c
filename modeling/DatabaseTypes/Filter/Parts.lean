import DatabaseTypes.Filter.Lines

/-!
# Parts of lines

* `Filter.placesOf`    the places that a list means
* `Filter.cutting`     parts of lines
-/

namespace DatabaseTypes.Filter

/-! ## places -/

/-- places from one to another, the last of which may be left open -/
structure Places where
  first : Nat
  last : Option Nat

/-- is a place among places? -/
def amongPlaces (ps : List Places) (n : Nat) : Bool :=
  ps.any fun p => p.first ≤ n && p.last.all (n ≤ ·)

/-- places that are being read: the number before a dash, whether there was a dash, and the number
after it -/
structure PlacesBegun where
  before : Option Nat := none
  dash : Bool := false
  after : Option Nat := none

/-- why a list means no places; `fields` tells whether they are fields -/
inductive PlacesFault where
  | zero
  | range
  | withoutEnd
  | decreasing
  | tooLarge (digits : Text)
  | stray (rest : Text)

/-- what is wrong, in words -/
def PlacesFault.message (fields : Bool) : PlacesFault → Text
  | .zero => if fields then "fields are numbered from 1"
    else "byte/character positions are numbered from 1"
  | .range => if fields then "invalid field range" else "invalid byte or character range"
  | .withoutEnd => "invalid range with no endpoint: -"
  | .decreasing => "invalid decreasing range"
  | .tooLarge digits => (if fields then "field number '" else "byte/character offset '") ++ digits
    ++ "' is too large"
  | .stray rest => (if fields then "invalid field value '" else "invalid byte/character position '")
    ++ rest ++ "'"

/-- places that were read to their end -/
def PlacesBegun.ended (p : PlacesBegun) : Except PlacesFault Places :=
  match p.dash, p.before, p.after with
  | false, none, _ | false, some 0, _ => .error .zero
  | false, some n, _ => .ok ⟨n, some n⟩
  | true, none, none => .error .withoutEnd
  | true, before, none => .ok ⟨before.getD 1, none⟩
  | true, before, some n =>
    if n < before.getD 1 then .error .decreasing else .ok ⟨before.getD 1, some n⟩

/-- a number with one more digit -/
def withDigit (n : Option Nat) (c : Char) : Option Nat := some (10 * n.getD 0 + (c.toNat - '0'.toNat))

/-- the places that a list means, from those on that are being read -/
def placesFrom (p : PlacesBegun) : Text → Except PlacesFault (List Places)
  | [] => do pure [← p.ended]
  | c :: t =>
    if c = '-' then
      if p.dash then .error .range
      else if p.before = some 0 then .error .zero
      else placesFrom { p with dash := true } t
    else if c = ',' ∨ c = ' ' ∨ c = '\t' then do
      let own ← p.ended
      pure (own :: (← placesFrom {} t))
    else if !Text.isDigit c then .error (.stray (c :: t))
    else
      let next : PlacesBegun := if p.dash then { p with after := withDigit p.after c }
        else { p with before := withDigit p.before c }
      if Nat.pow 2 64 ≤ (if p.dash then next.after else next.before).getD 0 then
        let n := (if p.dash then p.after else p.before).getD 0
        .error (.tooLarge (Text.ofNat n ++ (c :: t).takeWhile Text.isDigit))
      else placesFrom next t

/-- the places that a list means -/
def placesOf (t : Text) : Except PlacesFault (List Places) := placesFrom {} t

/-- the items at places, counted from one -/
def atPlaces {α : Type} (among : Nat → Bool) (items : List α) : List α :=
  ((items.mapIdx fun i x => (i + 1, x)).filter fun x => among x.1).map (·.2)

/-! ## parts of lines -/

/-- which parts of lines are written: some of their characters, or some of their fields -/
structure Cut where
  fields : Bool
  among : Nat → Bool
  delimiter : Char := '\t'
  joiner : Text := ['\t']
  onlyDelimited : Bool := false

/-- the part of a line, if it has one -/
def Cut.line (c : Cut) (l : Text) : List Text :=
  if !c.fields then [atPlaces c.among l]
  else if l.contains c.delimiter then
    [Text.joined c.joiner (atPlaces c.among (Text.split c.delimiter l))]
  else if c.onlyDelimited then [] else [l]

/-- the letters of the options that have no letter of their own -/
def joinerLetter : Char := '\x01'

/-- the letter of the option that turns the choice round -/
def complementLetter : Char := '\x02'

/-- the options of cutting -/
def cutLetters : Letters where
  plain := ['s', 'n', 'z', complementLetter]
  valued := ['b', 'c', 'f', 'd', joinerLetter]
  words := [("bytes", 'b'), ("characters", 'c'), ("fields", 'f'), ("delimiter", 'd'),
    ("only-delimited", 's'), ("output-delimiter", joinerLetter), ("complement", complementLetter),
    ("zero-terminated", 'z')]

/-- the delimiter that an option gives -/
def Cut.delimiterOf : Text → Except Text Char
  | [] => .ok '\x00'
  | [c] => if c.toNat < 128 then .ok c else .error "the delimiter must be a single character"
  | _ => .error "the delimiter must be a single character"

/-- what arguments ask for, or what is wrong with it -/
def Cut.ofArguments (a : Arguments) : Except Text Cut := do
  let lists := a.options.filter fun o => ['b', 'c', 'f'].contains o.1
  if 1 < lists.length then throw "only one list may be specified".toList
  let delimiter ← (a.value? 'd').mapM delimiterOf
  match lists with
  | [] => throw "you must specify a list of bytes, characters, or fields".toList
  | (letter, list) :: _ =>
    let fields := letter == 'f'
    if delimiter.isSome && !fields then
      throw "an input delimiter may be specified only when operating on fields".toList
    if a.has 's' && !fields then
      throw "suppressing non-delimited lines makes sense\n\tonly when operating on fields".toList
    let places ← (placesOf list).mapError (PlacesFault.message fields)
    let own := delimiter.getD '\t'
    pure {
      fields, delimiter := own, joiner := (a.value? joinerLetter).getD [own]
      onlyDelimited := a.has 's'
      among := fun n => amongPlaces places n != a.has complementLetter }

/-- write parts of lines -/
def cutting : Program := withArguments cutLetters fun s a input =>
  match Cut.ofArguments a with
  | .error t => s.misuse t input
  | .ok cut => s.across Scene.plainly 1 a.operands input fun os =>
    withFeedsOf (feedOf a) ((bareLinesBy (feedOf a) (joinedBytes os)).flatMap cut.line)

end DatabaseTypes.Filter
