import DatabaseTypes.Text.Pieces
import DatabaseTypes.Yaml.Construction
import DatabaseTypes.Yaml.Cursor

/-!
# The value of a settings file

A settings file is read in pieces while one goes through its text, and what is wrong with a piece
shows only when it is reached.  The first two pieces are read before anything else.

* `Yaml.Supply`           a text, and what is found beyond it
* `Yaml.Supply.ofBytes`   the text of a file
* `Yaml.Supply.settle`    what going through the text gives in the end
* `Yaml.Assembly.collection`  the value of a collection with everything that it holds
* `Yaml.Document.value`       the value of a document
* `Yaml.ofBytes`              the value of a file, which is null if there is no document
* `Yaml.mistakeText`          a mistake with its place, in words
-/

namespace DatabaseTypes.Yaml

/-! ## the text -/

/-- a text, and what is found beyond it unless it ends there -/
structure Supply where
  text : Text
  beyond : Option Failure := none

namespace Supply

/-- the line of the first character that no text may hold, counted from `line` on -/
def unprintableLine? : Nat → Text → Option Nat
  | _, [] => none
  | line, c :: t =>
    if !isPrintable c then some line
    else unprintableLine? (if isBreak c then line + 1 else line) t

/-- what is wrong with a piece after a text -/
def flaw? (before piece : Text) : Option Failure :=
  (unprintableLine? (before.countP isBreak) piece).map fun line =>
    .mistake line .unprintableCharacter

/-- the text of pieces after `before` up to the first flaw, with the fault after them -/
def ofPieces (before : Text) (fault : Option Utf8Fault) : List Text → Supply
  | [] => { text := before, beyond := fault.map fun f => .fault (.undecodable f) }
  | piece :: more => match flaw? before piece with
    | some failure => { text := before, beyond := some failure }
    | none => ofPieces (before ++ piece) fault more

/-- the text of a file: its first two pieces are one -/
def ofBytes (bs : Bytes) : Supply :=
  match Text.pieces bs with
  | ([], fault) => ofPieces [] fault []
  | ([_], some fault) => ofPieces [] (some fault) []
  | ([first], none) => ofPieces [] none [first]
  | (first :: second :: more, fault) => ofPieces [] fault ((first ++ second) :: more)

/-- what going through the text gives: what is beyond it counts once its last character is looked
at -/
def settle {α : Type} (s : Supply) (r : Except Stop α) : Except Failure α :=
  match s.beyond, r with
  | none, .ok a => .ok a
  | none, .error stop => .error stop.failure
  | some failure, .ok _ => .error failure
  | some failure, .error stop =>
    .error (if s.text.length ≤ stop.index + 1 then failure else stop.failure)

/-- a text that ends is all that counts -/
theorem settle_ok {α : Type} (t : Text) (a : α) : settle { text := t } (.ok a) = .ok a := rfl

end Supply
/-! ## putting collections together -/

/-- a value with the numbers of those collections that stand in it by their numbers alone, because
they are around it -/
structure Assembled where
  value : Value
  open_ : List Nat := []

namespace Assembly

/-- the values of the collections that do not hold themselves, as far as they are known -/
abbrev Known := StateM (Array (Option Value))

/-- a value in a place that is not one of a key, where what is no number does not differ -/
def plain : Value → Value
  | .noNumber _ => .float .notANumber
  | v => v

/-- a collection under its number: it is a knot if it is in itself, or in another one that is in
it -/
def closed (number : Nat) (body : Value) (inside : List Nat) : Assembled :=
  if inside.isEmpty then ⟨body, []⟩ else ⟨.knot number body, inside.filter (· != number)⟩

/-- the value of a part, `collection` giving that of a collection -/
def part (collection : Nat → Known Assembled) : Part → Known Assembled
  | .value v => pure ⟨plain v, []⟩
  | .collection n => collection n

/-- a pair under a number -/
def pair (collection : Nat → Known Assembled) (number : Nat) (p : Part × Part) :
    Known Assembled := do
  let first ← part collection p.1
  let second ← part collection p.2
  pure (closed number (.pair first.value second.value) (first.open_ ++ second.open_))

/-- the value of a filling under its number; pairs have numbers of their own, which differ from those
of the `count` nodes -/
def body (collection : Nat → Known Assembled) (count number : Nat) :
    Filling → Known Assembled
  | .list items => do
    let vs ← items.mapM (part collection)
    pure ⟨.list (vs.map Assembled.value), vs.flatMap Assembled.open_⟩
  | .pairs items => do
    let vs ← (items.zipIdx 1).mapM fun (p, i) => pair collection (count * i + number) p
    pure ⟨.list (vs.map Assembled.value), vs.flatMap Assembled.open_⟩
  | .set items => pure ⟨.set items, []⟩
  | .mapping entries => do
    let vs ← entries.mapM fun e => do pure (e.1, ← part collection e.2)
    pure ⟨.mapping (vs.map fun e => (e.1, e.2.value)), vs.flatMap fun e => e.2.open_⟩

/-- the value of a collection inside others, whose numbers are `around`; `depth` bounds how many
there can be -/
def collection (fillings : Array (Option Filling)) :
    Nat → List Nat → Nat → Known Assembled
  | 0, _, _ => pure ⟨.null, []⟩
  | depth + 1, around, number => do
    match ((← get)[number]?).join with
    | some v => pure ⟨v, []⟩
    | none =>
      if around.contains number then pure ⟨.again number, [number]⟩
      else
        let filling := (fillings[number]?).join.getD (.list [])
        let inside := collection fillings depth (number :: around)
        let b ← body inside fillings.size number filling
        if b.open_.isEmpty then modify fun known => known.setIfInBounds number (some b.value)
        pure (closed number b.value b.open_)

end Assembly

/-- the value of a document -/
def Document.value (d : Document) : Except Failure Value := do
  let (p, fillings) ← d.filled
  let known := Array.replicate fillings.size none
  let collection := Assembly.collection fillings (fillings.size + 1) []
  pure ((Assembly.part collection p).run known).1.value

/-! ## files -/

/-- the value of what is supplied -/
def Supply.value (s : Supply) : Except Failure Value := do
  match ← s.settle (Document.ofText? s.text) with
  | none => pure .null
  | some d => d.value

/-- the value of a file -/
def ofBytes (bs : Bytes) : Except Failure Value := (Supply.ofBytes bs).value

/-- a mistake in words, with the number of its line -/
def mistakeText (line : Nat) (m : Mistake) : Text :=
  "line " ++ Text.ofNat (line + 1) ++ ": " ++ m.message

end DatabaseTypes.Yaml
