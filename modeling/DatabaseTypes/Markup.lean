import DatabaseTypes.Markup.Emoji
import DatabaseTypes.Markup.Handler
import DatabaseTypes.Markup.Style
import DatabaseTypes.Text.Basic
import DatabaseTypes.Text.Width

/-!
# Markup

Text for the terminal can hold tags in brackets, which name styles, and names of emoji between
colons.  Tags are not shown, and a closing tag must have its opening tag.

* `Markup.Piece`     plain text, or a tag with its place
* `Markup.pieces`    the pieces of a text
* `Markup.Tag`        a tag by its name and what is given to it
* `Markup.Tag.after`  the open tags after a tag
* `Markup.shown`      what is shown of a text
-/

namespace DatabaseTypes.Markup

/-! ## pieces

Tags stand in brackets.  An opening bracket that does not begin a tag is plain text, and so is a tag
after a backslash.
-/

/-- plain text, or the content of a tag with the place of its bracket -/
inductive Piece where
  | plain (text : Text)
  | tag (content : Text) (position : Nat)
  deriving DecidableEq

/-- may a tag begin with this character? -/
def beginsTag (c : Char) : Bool := ('a' ≤ c && c ≤ 'z') || c == '#' || c == '/' || c == '@'

/-- the content of a tag after its opening bracket, and what follows the tag -/
def tagAfter? (t : Text) : Option (Text × Text) :=
  let content := t.takeWhile fun c => c != '[' && c != ']'
  match t.dropWhile fun c => c != '[' && c != ']' with
  | ']' :: rest => if content.head?.any beginsTag then some (content, rest) else none
  | _ => none

/-- plain text between tags, which is given reversed: a backslash before a bracket is not shown -/
def plainBetween (reversed : Text) : List Piece :=
  if reversed.isEmpty then []
  else [.plain (Text.replaced ['\\', '['] ['['] reversed.reverse)]

/-- the pieces of a text that begins at a place after plain text, which is given reversed: half of
the backslashes before a tag are shown, and an odd one makes the tag plain -/
def piecesFrom : Nat → Nat → Text → Text → List Piece
  | 0, _, before, _ => plainBetween before
  | _ + 1, _, before, [] => plainBetween before
  | fuel + 1, position, before, c :: t =>
    let slashes := (c :: t).takeWhile (· == '\\')
    let n := slashes.length
    match (c :: t).drop n with
    | '[' :: rest => match tagAfter? rest with
      | none => piecesFrom fuel (position + n + 1) ('[' :: slashes ++ before) rest
      | some (content, after) =>
        let here : Piece :=
          if n % 2 = 1 then .plain ('[' :: content ++ [']']) else .tag content (position + n)
        plainBetween before ++ .plain (slashes.take (n / 2)) :: here
          :: piecesFrom fuel (position + n + content.length + 2) [] after
    | rest =>
      if n = 0 then piecesFrom fuel (position + 1) (c :: before) t
      else piecesFrom fuel (position + n) (slashes ++ before) rest

/-- the pieces of a text -/
def pieces (t : Text) : List Piece := piecesFrom (t.length + 1) 0 [] t

/-! ## tags -/

/-- a tag: its name, and what is given to it after an equals sign -/
structure Tag where
  name : Text
  given : Option Text := none
  deriving DecidableEq

namespace Tag

/-- the tag of a content -/
def ofContent (content : Text) : Tag :=
  let name := content.takeWhile (· != '=')
  match content.dropWhile (· != '=') with
  | [] => { name }
  | _ :: given => { name, given := some given }

/-- the style that a tag stands for -/
def style (t : Tag) : Text :=
  match t.given with
  | none => t.name
  | some given => t.name ++ [' '] ++ given

/-- the innermost open tag of a name, and the other open tags; the innermost comes first -/
def ofName? (name : Text) : List Tag → Option (Tag × List Tag)
  | [] => none
  | tag :: tags =>
    if tag.name = name then some (tag, tags)
    else (ofName? name tags).map fun r => (r.1, tag :: r.2)

/-- the open tag that a closing tag of a name closes, and the other open tags; without a name that
is the innermost one -/
def closing (name content : Text) (position : Nat) (tags : List Tag) :
    Except Fault (Tag × List Tag) := do
  if Text.allBlank name then match tags with
    | [] => throw (.nothingToClose position)
    | tag :: outer => pure (tag, outer)
  else match ofName? (← styleName name.trim) tags with
    | some r => pure r
    | none => throw (.unopenedTag ('[' :: content ++ [']']) position)

/-- does a tag name something that is done? -/
def isHandler (t : Tag) : Bool := t.name.head? == some '@'

/-- end a tag, whose words must not be a style with a colour that cannot be read -/
def finish (t : Tag) : Except Fault Unit := do
  let _ ← Style.ofText? t.style
  pure ()

end Tag

/-! ## what is shown -/

/-- the open tags and the closed ones after a tag -/
def afterTag (content : Text) (position : Nat) :
    List Tag × List Tag → Except Fault (List Tag × List Tag)
  | (tags, closed) =>
    let tag := Tag.ofContent content
    match tag.name with
    | '/' :: name => do
      let (t, left) ← Tag.closing name content position tags
      if t.isHandler then do
        (t.given.filter (!·.isEmpty)).forM Handler.check
        pure (left, closed)
      else pure (left, t :: closed)
    | name => do pure ({ tag with name := ← styleName name } :: tags, closed)

/-- the plain text of pieces, with the open and the closed tags before them -/
def plainText : List Tag × List Tag → List Piece → Except Fault Text
  | (tags, closed), [] => do
    (tags ++ closed).forM Tag.finish
    pure []
  | tags, .plain t :: ps => do pure (Emoji.placed t ++ (← plainText tags ps))
  | tags, .tag content position :: ps => do plainText (← afterTag content position tags) ps

/-- is the character one that a terminal would act upon? -/
def isControl (c : Char) : Bool := ['\x07', '\x08', '\x0b', '\x0c', '\r'].contains c

/-- what is shown of a text -/
def shown (t : Text) : Except Fault Text := do
  let plain ← plainText ([], []) (pieces t)
  pure (Text.withoutTabs (plain.filter fun c => !isControl c))

end DatabaseTypes.Markup
