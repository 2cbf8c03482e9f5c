import DatabaseTypes.Json.Reader
import DatabaseTypes.Text.Case
import DatabaseTypes.Fault
import DatabaseTypes.Yaml.Value

/-!
# Settings from environment variables

A variable sets a whole group of settings as a JSON text, or a single setting of a group; the names
are compared without regard to case.

* `Settings.Group`            a group of settings with its keys
* `Environment.folded`        the variables with their names in lower case
* `Settings.Group.exploded`   the single settings of a group
* `Settings.Group.fromVariables`   what the variables say about a group
* `Settings.fromVariables`    what they say about all groups
-/

namespace DatabaseTypes

open Yaml

/-! ## groups -/

/-- a group of settings: its name, its keys, and those of them whose values are lists -/
structure Settings.Group where
  name : Text
  keys : List Text
  listKeys : List Text

/-- the groups of settings -/
def Settings.groups : List Settings.Group := [
  ⟨"logging", ["level", "outputs"], ["outputs"]⟩,
  ⟨"generator", ["documentation", "output"], []⟩,
  ⟨"formatting", ["enabled", "command", "timeout_sec"], ["command"]⟩]

/-! ## variables -/

/-- environment variables -/
abbrev Environment := List (Text × Text)

/-- the variables with their names in lower case; of two that become one the later counts -/
def Environment.folded (env : Environment) : Environment :=
  Members.ofPairs (env.map fun v => (v.1.lowered, v.2))

/-- what stands between the parts of the name of a variable -/
def Environment.separator : Text := ['_', '_']

namespace Settings.Group

/-- the variable of a whole group -/
def variableName (g : Group) : Text := "supatypes" ++ Environment.separator ++ g.name

/-- a JSON text in a variable of the group -/
def decoded (g : Group) (t : Text) : Except Fault Value :=
  match Json.ofText t with
  | .ok v => .ok (.ofJson v)
  | .error (.beyond .listDepth) => .error (.beyond .listDepth)
  | .error (.beyond .objectDepth) => .error (.beyond .objectDepth)
  | .error _ => .error (.unreadableVariable g.name)

/-- the value of a single setting: a list is given as a JSON text, unless it is empty -/
def single (g : Group) (names : List Text) (t : Text) : Except Fault Value :=
  if g.listKeys.any (fun k => names == [k]) && !t.isEmpty then g.decoded t else .ok (.text t)

/-- the settings that variables give one by one -/
def exploded (g : Group) (vars : Environment) : Except Fault (List (Value × Value)) :=
  vars.foldlM (fun es (name, t) =>
    match Text.after? (g.variableName ++ Environment.separator) name with
    | none => .ok es
    | some path => do
      let names := Text.splitText Environment.separator path
      let value ← g.single names t
      pure (Entries.putUnder value names es)) []

/-- the key that a name means, without regard to case -/
def keyOf (g : Group) (name : Value) : Value :=
  match name with
  | .text t => .text ((g.keys.find? fun k => k == t.lowered).getD t)
  | v => v

/-- the entries under the keys that their names mean -/
def renamed (g : Group) (es : List (Value × Value)) : List (Value × Value) :=
  es.foldl (fun found e => Entries.put (g.keyOf e.1) e.2 found) []

/-- what the variables say about the group: single settings override those of the whole group, and
something other than a mapping stays as it is -/
def fromVariables (g : Group) (vars : Environment) : Except Fault (Option Value) := do
  match vars.lookup g.variableName with
  | none =>
    let es ← g.exploded vars
    pure (if es.isEmpty then none else some (.mapping (g.renamed es)))
  | some t =>
    match ← g.decoded t with
    | .null => pure none
    | .mapping base =>
      let es ← (Entries.overriding (← g.exploded vars) base).mapError .beyond
      pure (some (.mapping (g.renamed es)))
    | v => pure (some v)

end Settings.Group

/-- what environment variables say about all groups -/
def Settings.fromVariables (env : Environment) : Except Fault (List (Value × Value)) := do
  let found ← Settings.groups.mapM fun g => do
    pure ((← g.fromVariables env.folded).map fun v => (Value.text g.name, v))
  pure (found.filterMap id)

end DatabaseTypes
