import DatabaseTypes.Text.Lines
import DatabaseTypes.Json.Writer
import DatabaseTypes.Schema.Basic

/-!
# Comments

Documentation becomes one comment: on one line if it has one line, otherwise as a block.  The
token that closes a comment is broken up inside it.

* `Comment.escaped`          a line in which no comment ends
* `Comment.ofLines`          the comment of documentation
* `Comment.variantLines`     one line for each documented variant of an enum
* `Comment.ofEnum`           the comment of an enum, which goes on with its variants
-/

namespace DatabaseTypes.Comment

/-- the first line of a block -/
def opening : Text := "/**"

/-- the last line of a block -/
def closing : Text := " */"

/-- a line in which the token that closes a comment is broken up -/
def escaped (line : Text) : Text := Text.replaced "*/" "*\\/" line

/-- a line of a block, without white space at its end -/
def blockLine (line : Text) : Text := Text.trimEnd (" * " ++ escaped line)

/-- the comment of documentation, by its lines: nothing, a single line, or a block -/
def ofLines : List Text → List Text
  | [] => []
  | [line] => [opening ++ " " ++ escaped line ++ closing]
  | ls => opening :: ls.map blockLine ++ [closing]

/-- the line of a variant: its name and its documentation without empty lines -/
def variantLine (v : Variant) : Text :=
  v.name.display ++ ": " ++ Text.joined " " (v.documentation.filter fun line => !line.isEmpty)

/-- the lines of the documented variants of an enum -/
def variantLines (e : Enum) : List Text :=
  (e.variants.filter fun v => !v.documentation.isEmpty).map variantLine

/-- the comment of an enum, by its lines: its own documentation, and in the same block its
documented variants -/
def ofEnum (e : Enum) : List Text :=
  match variantLines e with
  | [] => ofLines e.documentation
  | variants => opening :: (e.documentation ++ variants).map blockLine ++ [closing]

/-- a comment if comments are wanted -/
def shown (enabled : Bool) (comment : List Text) : List Text := if enabled then comment else []

end DatabaseTypes.Comment
