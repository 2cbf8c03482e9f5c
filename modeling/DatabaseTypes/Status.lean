import DatabaseTypes.Markup
import DatabaseTypes.Session

/-!
# Status lines

* `Status.opening`   what stands before a message of a style
* `Status.line`      a message with its indentation and opening, as markup
* `Action.status`    write a status line
-/

namespace DatabaseTypes

/-- what stands before a message of a style; nothing for a style that is not known -/
def Status.opening (style : Text) : Text :=
  let table : List (Text × Text) := [
    ("success", "[green]✓[/green] "), ("error", "[red]✗[/red] "),
    ("warning", "[yellow]![/yellow] "), ("info", "  ")]
  (table.lookup style).getD []

/-- a message with its indentation and opening -/
def Status.line (message style : Text) (indent : Nat) : Text :=
  Text.spaces indent ++ opening style ++ message

/-- write a status line among the messages, and log it -/
def Action.status (message style : Text) (indent : Nat := 0) : Action Unit := do
  let shown ← Action.lift (Markup.shown (Status.line message style indent))
  modify fun s => s.complained (shown ++ ['\n'])
  Action.log .debug "status" [("message", .text message), ("style", .text style)] (some "progress")

end DatabaseTypes
