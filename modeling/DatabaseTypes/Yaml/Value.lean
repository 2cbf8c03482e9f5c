import DatabaseTypes.Calendar
import DatabaseTypes.Json.Writer
import DatabaseTypes.Limit

/-!
# Values of settings files

What a settings file can hold: the JSON values, and besides them bytes, dates, times, pairs and
sets; the keys of a mapping can be any of the simple ones.  A collection can hold itself.

* `Yaml.Value`               the values
* `Yaml.Value.opened`        a value that holds itself, one level of it being written out
* `Yaml.Value.ofJson`        a JSON value among them
* `Yaml.Value.sameKey`       are two keys one?
* `Yaml.Value.get?`, `Yaml.Entries.find?`   looking up a key
* `Yaml.Value.overriding`, `Yaml.Entries.overriding`   what values leave of those that they override
-/

namespace DatabaseTypes.Yaml

/-- a value of a settings file; the entries of a mapping keep their order -/
inductive Value where
  | null
  | bool (value : Bool)
  | int (value : Int)
  | float (value : Binary64)
  | text (value : Text)
  | bytes (value : Bytes)
  | date (value : Date)
  | moment (value : Moment)
  | list (items : List Value)
  | pair (first second : Value)
  | set (items : List Value)
  | mapping (entries : List (Value × Value))
  /-- a key that is no number and differs from every other one; its number tells it apart -/
  | noNumber (number : Nat)
  /-- a collection on whose way to itself there are others: inside it, `again` with its number
  stands for it -/
  | knot (number : Nat) (body : Value)
  | again (number : Nat)
  deriving Inhabited

namespace Value

/-! ## values that hold themselves -/

mutual

/-- the value with `whole` for every `again` of a number -/
def tied (number : Nat) (whole : Value) : Value → Value
  | .list items => .list (tiedItems number whole items)
  | .pair first second => .pair (tied number whole first) (tied number whole second)
  | .mapping entries => .mapping (tiedEntries number whole entries)
  | .knot n body => if n = number then .knot n body else .knot n (tied number whole body)
  | .again n => if n = number then whole else .again n
  | v => v

/-- the items of a list with `whole` in them -/
def tiedItems (number : Nat) (whole : Value) : List Value → List Value
  | [] => []
  | v :: vs => tied number whole v :: tiedItems number whole vs

/-- the entries of a mapping with `whole` in them -/
def tiedEntries (number : Nat) (whole : Value) : List (Value × Value) → List (Value × Value)
  | [] => []
  | (k, v) :: es => (k, tied number whole v) :: tiedEntries number whole es

end

/-- the collection that a value is, where it stands itself for every `again` of its number -/
def opened : Value → Value
  | .knot number body => tied number (.knot number body) body
  | v => v

/-! ## JSON values -/

mutual

/-- a JSON value as a value of a settings file -/
def ofJson : Json → Value
  | .null => .null
  | .bool b => .bool b
  | .int i => .int i
  | .float x => .float x
  | .text t => .text t
  | .list items => .list (ofJsonItems items)
  | .object members => .mapping (ofJsonMembers members)

/-- the items of a JSON list -/
def ofJsonItems : List Json → List Value
  | [] => []
  | v :: vs => ofJson v :: ofJsonItems vs

/-- the members of a JSON object -/
def ofJsonMembers : List (Text × Json) → List (Value × Value)
  | [] => []
  | (k, v) :: ms => (.text k, ofJson v) :: ofJsonMembers ms

end

/-! ## keys -/

/-- the number that a value equals, where truth values count as zero and one -/
def asNumber? : Value → Option (Int ⊕ Binary64)
  | .bool b => some (.inl (if b then 1 else 0))
  | .int i => some (.inl i)
  | .float x => some (match x.toInt? with
    | some i => .inl i
    | none => .inr x)
  | _ => none

/-- are two keys one? Numbers are compared by value, across their sorts. -/
def sameKey (k l : Value) : Bool :=
  match k, l with
  | .text s, .text t => s == t
  | .null, .null => true
  | .bytes s, .bytes t => s == t
  | .date s, .date t => s == t
  | .moment s, .moment t => s.same t
  | .noNumber m, .noNumber n => m == n
  | _, _ => match k.asNumber?, l.asNumber? with
    | some m, some n => m == n
    | _, _ => false

theorem sameKey_text (s t : Text) : sameKey (.text s) (.text t) = (s == t) := rfl

/-- can a value be a key? -/
def isKey : Value → Bool
  | .list _ | .pair _ _ | .set _ | .mapping _ | .knot _ _ | .again _ => false
  | _ => true

end Value

/-! ## mappings -/

namespace Entries

variable {α : Type}

/-- the value under a key -/
def find? (key : Value) : List (Value × α) → Option α
  | [] => none
  | (k, v) :: es => if k.sameKey key then some v else find? key es

/-- the value under a key replaced by what `f` makes of it, or a new entry at the end -/
def alter (key : Value) (f : Option α → α) : List (Value × α) → List (Value × α)
  | [] => [(key, f none)]
  | (k, v) :: es => if k.sameKey key then (k, f (some v)) :: es else (k, v) :: alter key f es

/-- the entries with a key set -/
def put (key : Value) (value : α) : List (Value × α) → List (Value × α) :=
  alter key fun _ => value

/-- the entries with others put among them, where `f` makes the new value of an entry of what is to
be put and what is there -/
def putAll {ε : Type} (f : Value → Option Value → Except ε Value) :
    List (Value × Value) → List (Value × Value) → Except ε (List (Value × Value))
  | [], base => .ok base
  | (k, v) :: es, base => match f v (find? k base) with
    | .error e => .error e
    | .ok value => putAll f es (put k value base)

/-- the entries with a value put below the names on its way; where something other than a mapping
is in the way nothing changes -/
def putUnder (value : Value) :
    List Text → List (Value × Value) → List (Value × Value)
  | [], es => es
  | [name], es => put (.text name) value es
  | name :: names, es =>
    alter (.text name) (fun
      | none => .mapping (putUnder value names [])
      | some (.mapping inner) => .mapping (putUnder value names inner)
      | some other => other) es

end Entries

namespace Value

/-- the value under a name in a mapping; nothing for any other value -/
def get? (name : Text) (v : Value) : Option Value :=
  match v.opened with
  | .mapping entries => Entries.find? (.text name) entries
  | _ => none

/-- is the value a text? -/
def isText : Value → Bool
  | .text _ => true
  | _ => false

/-- null, false, zero and whatever is empty count as false -/
def isTruthy : Value → Bool
  | .null => false
  | .bool b => b
  | .int i => i != 0
  | .float x => !x.isZero
  | .text t => !t.isEmpty
  | .bytes bs => !bs.isEmpty
  | .list items => !items.isEmpty
  | .set items => !items.isEmpty
  | .mapping entries => !entries.isEmpty
  | _ => true

/-! ## overriding -/

/-- the entries of a mapping that overrides another one -/
def mappings? (v : Value) (old : Option Value) :
    Option (List (Value × Value) × List (Value × Value)) :=
  match v.opened, old.map opened with
  | .mapping entries, some (.mapping base) => some (entries, base)
  | _, _ => none

/-- what a value leaves of an old one that it overrides: a mapping overrides a mapping entry by
entry, anything else replaces it; `depth` bounds how deep this goes -/
def overriding : Nat → Value → Option Value → Except Limit Value
  | 0, v, old => if (mappings? v old).isSome then .error .endlessOverride else .ok v
  | depth + 1, v, old => match mappings? v old with
    | some (entries, base) => (Entries.putAll (overriding depth) entries base).map .mapping
    | none => .ok v

end Value

/-- entries that override others -/
def Entries.overriding (entries base : List (Value × Value)) :
    Except Limit (List (Value × Value)) :=
  putAll (Value.overriding Limit.depth) entries base

end DatabaseTypes.Yaml
