import DatabaseTypes.Markup.EmojiTable
import DatabaseTypes.Text.Lines
import DatabaseTypes.Text.Case

/-!
# Emoji by their names

A name between colons stands for an emoji.  Some emoji take a tone of skin after their name, a
country stands for its flag, and a name may end with the presentation that is asked for.

* `Emoji.ofName?`   the emoji of a name
* `Emoji.placed`    a text with emoji in place of their names
-/

namespace DatabaseTypes.Emoji

/-! ## tables -/

/-- the words of a text between spaces -/
def wordsOf (t : Text) : List Text := (Text.split ' ' t).filter fun w => !w.isEmpty

/-- the entries of a table: lists of words -/
def entries (table : List String) : List (List Text) :=
  table.flatMap fun line => (Text.split ';' line.toList).map wordsOf

/-- the first word of the entry in which a name is one of the other words -/
def heading? (table : List String) (name : Text) : Option Text :=
  (entries table).findSome? fun e => match e with
    | emoji :: names => if names.contains name then some emoji else none
    | [] => none

/-! ## rules -/

/-- the tones of skin, with the code of their modifiers -/
def tones : List (Text × Nat) := [
  ("light", 0x1f3fb), ("medium-light", 0x1f3fc), ("medium", 0x1f3fd), ("medium-dark", 0x1f3fe),
  ("dark", 0x1f3ff)]

/-- an emoji in a tone: the modifier follows its first character, in place of a selector -/
def inTone (code : Nat) : Text → Text
  | c :: t => c :: Char.ofNat code :: (if t.head? = some '\ufe0f' then t.drop 1 else t)
  | [] => []

/-- the emoji of a name that ends with a tone of skin -/
def tonedName? (name : Text) : Option Text :=
  tones.findSome? fun tone => do
    let ending : Text := ['_'] ++ tone.1 ++ "_skin_tone"
    let base ← Text.after? ending.reverse name.reverse
    pure (inTone tone.2 (← heading? toned base.reverse))

/-- the letters of a code as they stand for a flag -/
def flagOf (code : Text) : Text := code.map fun c => Char.ofNat (c.toNat - 'A'.toNat + 0x1f1e6)

/-- the flag of a country, whose name may follow the words for a flag -/
def flag? (name : Text) : Option Text :=
  (heading? countries ((Text.after? "flag_for_" name).getD name)).map flagOf

/-- the emoji of a name -/
def ofName? (name : Text) : Option Text :=
  heading? listed name <|> heading? toned name <|> tonedName? name <|> flag? name

/-! ## places -/

/-- the ends of a name that ask for a presentation, with the selectors for it -/
def presentations : List (Text × Char) := [("-emoji", '\ufe0f'), ("-text", '\ufe0e')]

/-- a name without the presentation it asks for, and the selector for it -/
def splitName (name : Text) : Text × Text :=
  (presentations.findSome? fun p =>
    (Text.after? p.1.reverse name.reverse).map fun base => (base.reverse, [p.2])).getD (name, [])

/-- what stands for a name between colons: an emoji, or the name as it is -/
def shownName (name : Text) : Text :=
  let (base, selector) := splitName name
  match ofName? (Text.lowered base) with
  | some emoji => emoji ++ selector
  | none => [':'] ++ name ++ [':']

/-- the name before the next colon, and what follows it, if no white space comes first -/
def nameAfter? : Text → Option (Text × Text)
  | [] => none
  | c :: t =>
    if c = ':' then some ([], t)
    else if Text.isBlank c then none
    else (nameAfter? t).map fun r => (c :: r.1, r.2)

/-- `placed` for a text of at most `fuel` characters -/
def placedWithin : Nat → Text → Text
  | 0, t => t
  | _ + 1, [] => []
  | fuel + 1, c :: t =>
    if c = ':' then match nameAfter? t with
      | some (name, rest) => shownName name ++ placedWithin fuel rest
      | none => c :: placedWithin fuel t
    else c :: placedWithin fuel t

/-- a text with emoji in place of their names between colons; each step leaves less of it -/
def placed (t : Text) : Text := placedWithin t.length t

end DatabaseTypes.Emoji
