import DatabaseTypes.Text.Basic

/-!
# Layout

The output is a tree of pieces that carry their own indentation, so that writing it is nothing but
putting the pieces together.

* `Layout`           the pieces
* `Layout.before`    lines above a piece
* `Layout.text`      the text of a piece
-/

namespace DatabaseTypes

/-- a piece of the output -/
inductive Layout where
  /-- a text as it is -/
  | verbatim (text : Text)
  /-- lines at one indentation -/
  | lines (lines : List Text) (indent : Text)
  /-- pieces with a separator between them -/
  | joined (children : List Layout) (separator : Text)
  /-- a piece between two lines -/
  | block (opening : Text) (body : Layout) (closing : Text)
  deriving Inhabited

namespace Layout

/-- pieces, each on lines of its own -/
def stacked (children : List Layout) : Layout := .joined children ['\n']

/-- lines above a piece, if there are any -/
def before (above : List Text) (node : Layout) (indent : Text) : Layout :=
  if above.isEmpty then node else stacked [.lines above indent, node]

mutual

/-- the text of a piece -/
def text : Layout → Text
  | .verbatim t => t
  | .lines ls indent => Text.joined ['\n'] (ls.map (indent ++ ·))
  | .joined children separator => Text.joined separator (texts children)
  | .block opening body closing => opening ++ ['\n'] ++ body.text ++ ['\n'] ++ closing

/-- the texts of pieces -/
def texts : List Layout → List Text
  | [] => []
  | node :: nodes => node.text :: texts nodes

end

theorem texts_eq_map (nodes : List Layout) : texts nodes = nodes.map text := by
  induction nodes with
  | nil => rfl
  | cons node nodes ih => rw [texts, ih, List.map_cons]

theorem text_before (above : List Text) (node : Layout) (indent : Text) (h : above ≠ []) :
    (before above node indent).text
      = Text.joined ['\n'] (above.map (indent ++ ·)) ++ ['\n'] ++ node.text := by
  have h' : above.isEmpty = false := by simpa using h
  simp [before, h', stacked, text, texts, Text.joined]

theorem before_nil (node : Layout) (indent : Text) : before [] node indent = node := rfl

end Layout
end DatabaseTypes
