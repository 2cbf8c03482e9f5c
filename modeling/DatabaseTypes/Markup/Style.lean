import DatabaseTypes.Fault
import DatabaseTypes.Text.Case
import DatabaseTypes.Decimal.Reading

/-!
# Styles

A style is given by words: attributes, colours, and a link.  A colour has one of the usual names, a number below
256, or shares of red, green and blue.

* `Markup.colourNames`       the names of colours
* `Markup.isColour`          is a word a colour?
* `Markup.Style`             what the words of a style set
* `Markup.Style.ofWords?`    the style of words
* `Markup.Style.name`        the one name of a style
* `Markup.styleName`         the one name for the words of a style
-/

namespace DatabaseTypes.Markup

/-! ## colours -/

/-- the names of colours, with spaces between them -/
def colourNames : List String := [
  "default black red green yellow blue magenta cyan white bright_black bright_red bright_green",
  "bright_yellow bright_blue bright_magenta bright_cyan bright_white grey0 gray0 navy_blue",
  "dark_blue blue3 blue1 dark_green deep_sky_blue4 dodger_blue3 dodger_blue2 green4 spring_green4",
  "turquoise4 deep_sky_blue3 dodger_blue1 green3 spring_green3 dark_cyan light_sea_green",
  "deep_sky_blue2 deep_sky_blue1 spring_green2 cyan3 dark_turquoise turquoise2 green1",
  "spring_green1 medium_spring_green cyan2 cyan1 dark_red deep_pink4 purple4 purple3 blue_violet",
  "orange4 grey37 gray37 medium_purple4 slate_blue3 royal_blue1 chartreuse4 dark_sea_green4",
  "pale_turquoise4 steel_blue steel_blue3 cornflower_blue chartreuse3 cadet_blue sky_blue3",
  "steel_blue1 pale_green3 sea_green3 aquamarine3 medium_turquoise chartreuse2 sea_green2",
  "sea_green1 aquamarine1 dark_slate_gray2 dark_magenta dark_violet purple light_pink4 plum4",
  "medium_purple3 slate_blue1 yellow4 wheat4 grey53 gray53 light_slate_grey light_slate_gray",
  "medium_purple light_slate_blue dark_olive_green3 dark_sea_green light_sky_blue3 sky_blue2",
  "dark_sea_green3 dark_slate_gray3 sky_blue1 chartreuse1 light_green pale_green1",
  "dark_slate_gray1 red3 medium_violet_red magenta3 dark_orange3 indian_red hot_pink3",
  "medium_orchid3 medium_orchid medium_purple2 dark_goldenrod light_salmon3 rosy_brown grey63",
  "gray63 medium_purple1 gold3 dark_khaki navajo_white3 grey69 gray69 light_steel_blue3",
  "light_steel_blue yellow3 dark_sea_green2 light_cyan3 light_sky_blue1 green_yellow",
  "dark_olive_green2 dark_sea_green1 pale_turquoise1 deep_pink3 magenta2 hot_pink2 orchid",
  "medium_orchid1 orange3 light_pink3 pink3 plum3 violet light_goldenrod3 tan misty_rose3",
  "thistle3 plum2 khaki3 light_goldenrod2 light_yellow3 grey84 gray84 light_steel_blue1 yellow2",
  "dark_olive_green1 honeydew2 light_cyan1 red1 deep_pink2 deep_pink1 magenta1 orange_red1",
  "indian_red1 hot_pink dark_orange salmon1 light_coral pale_violet_red1 orchid2 orchid1 orange1",
  "sandy_brown light_salmon1 light_pink1 pink1 plum1 gold1 navajo_white1 misty_rose1 thistle1",
  "yellow1 light_goldenrod1 khaki1 wheat1 cornsilk1 grey100 gray100 grey3 gray3 grey7 gray7",
  "grey11 gray11 grey15 gray15 grey19 gray19 grey23 gray23 grey27 gray27 grey30 gray30 grey35",
  "gray35 grey39 gray39 grey42 gray42 grey46 gray46 grey50 gray50 grey54 gray54 grey58 gray58",
  "grey62 gray62 grey66 gray66 grey70 gray70 grey74 gray74 grey78 gray78 grey82 gray82 grey85",
  "gray85 grey89 gray89 grey93 gray93"]

/-- what stands between a beginning and a closing bracket at the end -/
def insideBrackets? (start word : Text) : Option Text :=
  match Text.after? start word with
  | some t => if t.getLast? = some ')' then some t.dropLast else none
  | none => none

/-- the value of decimal digits -/
def numberOf (digits : Text) : Nat := digits.foldl (fun n c => 10 * n + (c.toNat - '0'.toNat)) 0

/-- do digits make a number of a colour? They are three at most. -/
def isColourNumber (digits : Text) : Bool :=
  1 ≤ digits.length && digits.length ≤ 3 && digits.all Text.isDigit && numberOf digits < 256

/-- the value of a share of red, green or blue; there must be a digit, and not too many -/
def shareOf (digits : Text) : Except Fault Nat :=
  if digits.isEmpty then .error (.notInteger 10 [])
  else if Limit.digits < digits.length then .error (.beyond (.digitsRead digits.length))
  else .ok (numberOf (Text.inAscii digits))

/-- are these three shares of a colour? What is no text of digits and commas is none. -/
def isColourOfShares (t : Text) : Except Fault Bool :=
  let isPart (c : Char) : Bool := c == ',' || Text.isDigit c || (Text.digit? c).isSome
  if t.isEmpty || !t.all isPart then .ok false
  else match Text.split ',' t with
    | [r, g, b] => do pure ([← shareOf r, ← shareOf g, ← shareOf b].all (· < 256))
    | _ => .ok false

/-- is a word a colour? By name, by a hash sign and six digits, by its number, or by its shares. -/
def isColour (word : Text) : Except Fault Bool :=
  if (colourNames.flatMap fun names => Text.split ' ' names.toList).contains word then .ok true
  else match word with
    | '#' :: digits => .ok (digits.length == 6 && digits.all fun c => (Text.hexDigit? c).isSome)
    | _ => match insideBrackets? "color(" word, insideBrackets? "rgb(" word with
      | some digits, _ => .ok (isColourNumber digits)
      | none, some shares => isColourOfShares shares
      | none, none => .ok false

/-! ## styles -/

/-- the attributes of styles in their usual order, with their other names -/
def attributes : List (Text × List Text) := [
  ("bold", ["b"]), ("dim", ["d"]), ("italic", ["i"]), ("underline", ["u"]), ("blink", []),
  ("blink2", []), ("reverse", ["r"]), ("conceal", ["c"]), ("strike", ["s"]), ("underline2", ["uu"]),
  ("frame", []), ("encircle", []), ("overline", ["o"])]

/-- the usual name of an attribute -/
def attribute? (word : Text) : Option Text :=
  (attributes.find? fun a => a.1 == word || a.2.contains word).map (·.1)

/-- a style: the attributes that are set or unset, the colours, and a link -/
structure Style where
  attributes : List (Text × Bool) := []
  colour : Option Text := none
  background : Option Text := none
  link : Option Text := none

/-- the words of a text -/
def words (t : Text) : List Text :=
  let step (c : Char) (ws : List Text) : List Text :=
    if Text.isBlank c then [] :: ws
    else match ws with
      | w :: ws => (c :: w) :: ws
      | [] => [[c]]
  (t.foldr step [[]]).filter fun w => !w.isEmpty

namespace Style

/-- the style of words, if they name one -/
def ofWords? (s : Style) : List Text → Except Fault (Option Style)
  | [] => .ok (some s)
  | word :: rest => do
    let w := Text.lowered word
    if w = "on" then match rest with
      | colour :: rest =>
        let c := Text.lowered colour
        if ← isColour c then ofWords? { s with background := some c } rest else pure none
      | [] => pure none
    else if w = "not" then match rest with
      | name :: rest => match attribute? name with
        | some a => ofWords? { s with attributes := Members.put a false s.attributes } rest
        | none => pure none
      | [] => pure none
    else if w = "link" then match rest with
      | target :: rest => ofWords? { s with link := some target } rest
      | [] => pure none
    else match attribute? w with
      | some a => ofWords? { s with attributes := Members.put a true s.attributes } rest
      | none => if ← isColour w then ofWords? { s with colour := some w } rest else pure none

/-- the style of a text, if it is one; no word, and the word for none, make the plain style -/
def ofText? (t : Text) : Except Fault (Option Style) :=
  if t.trim = "none" then .ok (some {}) else ofWords? {} (words t)

/-- the name of a style: its attributes in the usual order, and then colours and link -/
def name (s : Style) : Text :=
  let set := Markup.attributes.filterMap fun a => (s.attributes.lookup a.1).map fun on =>
    if on then a.1 else "not " ++ a.1
  let more (start : Text) (v : Option Text) : List Text := (v.map (start ++ ·)).toList
  let parts := set ++ s.colour.toList ++ more "on " s.background ++ more "link " s.link
  if parts.isEmpty then "none" else Text.joined [' '] parts

end Style

/-- the one name of a style, whatever the order and the spelling of its words; words that name no
style are a name by themselves -/
def styleName (t : Text) : Except Fault Text := do
  match ← Style.ofText? t with
  | some s => pure s.name
  | none => pure t.trim.lowered

end DatabaseTypes.Markup
