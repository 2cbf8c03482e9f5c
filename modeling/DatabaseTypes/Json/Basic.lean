import DatabaseTypes.Text.Basic
import DatabaseTypes.Decimal.Binary

/-!
# JSON values

* `Json`              the values; integers are exact and differ from floating-point numbers
* `Json.Kind`         what sort of value it is, with the word for it
* `Json.isTruthy`     does the value count as true?
* `Json.get?`         a member of an object
* `Members.put`       a member set, in its place if it is there and at the end otherwise
* `Members.ofPairs`   the members that a sequence of settings leaves
-/

namespace DatabaseTypes

/-- a JSON value; the members of an object keep their order -/
inductive Json where
  | null
  | bool (value : Bool)
  | int (value : Int)
  | float (value : Binary64)
  | text (value : Text)
  | list (items : List Json)
  | object (members : List (Text × Json))
  deriving Inhabited

instance : Coe Text Json := ⟨Json.text⟩
instance : Coe String Json := ⟨fun s => Json.text s.toList⟩

/-! ## kinds -/

/-- the sorts of values -/
inductive Json.Kind where
  | null
  | bool
  | int
  | float
  | text
  | list
  | object
  deriving DecidableEq

/-- the word for a sort of values in messages -/
def Json.Kind.word : Json.Kind → Text
  | .null => "NoneType"
  | .bool => "bool"
  | .int => "int"
  | .float => "float"
  | .text => "str"
  | .list => "list"
  | .object => "dict"

namespace Json

/-- the sort of a value -/
def kind : Json → Kind
  | .null => .null
  | .bool _ => .bool
  | .int _ => .int
  | .float _ => .float
  | .text _ => .text
  | .list _ => .list
  | .object _ => .object

/-- null, false, zero and whatever is empty count as false -/
def isTruthy : Json → Bool
  | .null => false
  | .bool b => b
  | .int i => i != 0
  | .float x => !x.isZero
  | .text t => !t.isEmpty
  | .list l => !l.isEmpty
  | .object m => !m.isEmpty

/-- a value that does not count as false -/
def truthy? (v : Json) : Option Json := if v.isTruthy then some v else none

/-- is the value null? -/
def isNull : Json → Bool
  | .null => true
  | _ => false

/-- is the value an object? -/
def isObject : Json → Bool
  | .object _ => true
  | _ => false

end Json

/-! ## members -/

namespace Members

variable {α : Type}

/-- the members with `key` set: in its place if it is there, at the end otherwise -/
def put (key : Text) (value : α) : List (Text × α) → List (Text × α)
  | [] => [(key, value)]
  | m :: ms => if m.1 = key then (key, value) :: ms else m :: put key value ms

theorem lookup_put_self (key : Text) (value : α) (ms : List (Text × α)) :
    (put key value ms).lookup key = some value := by
  induction ms with
  | nil => simp [put]
  | cons m ms ih =>
    by_cases h : m.1 = key
    · simp [put, h]
    · rw [put, if_neg h, List.lookup_cons, ih]
      have : (key == m.1) = false := by simpa using Ne.symm h
      simp [this]

theorem lookup_put_of_ne {key other : Text} (h : other ≠ key) (value : α) (ms : List (Text × α)) :
    (put key value ms).lookup other = ms.lookup other := by
  have hb : (other == key) = false := by simpa using h
  induction ms with
  | nil => simp [put, h]
  | cons m ms ih =>
    by_cases e : m.1 = key
    · rw [put, if_pos e, List.lookup_cons, List.lookup_cons, e]
      simp [hb]
    · rw [put, if_neg e, List.lookup_cons, List.lookup_cons, ih]

theorem mem_put {key : Text} {value : α} {ms : List (Text × α)} {m : Text × α}
    (h : m ∈ put key value ms) : m = (key, value) ∨ m ∈ ms := by
  induction ms with
  | nil => exact .inl (List.mem_singleton.mp h)
  | cons x ms ih =>
    rw [put] at h
    split at h
    · rcases List.mem_cons.mp h with rfl | h
      · exact .inl rfl
      · exact .inr (List.mem_cons_of_mem _ h)
    · rcases List.mem_cons.mp h with rfl | h
      · exact .inr List.mem_cons_self
      · exact (ih h).imp_right (List.mem_cons_of_mem _)

theorem nodup_put {ms : List (Text × α)} (h : (ms.map Prod.fst).Nodup) (key : Text)
    (value : α) : ((put key value ms).map Prod.fst).Nodup := by
  induction ms with
  | nil => exact List.nodup_cons.mpr ⟨List.not_mem_nil, .nil⟩
  | cons x ms ih =>
    rw [List.map_cons, List.nodup_cons] at h
    rw [put]
    split
    · rename_i hx
      rw [List.map_cons, List.nodup_cons, ← hx]
      exact h
    · rename_i hx
      rw [List.map_cons, List.nodup_cons]
      refine ⟨fun hmem => ?_, ih h.2⟩
      obtain ⟨m, hm, hfst⟩ := List.mem_map.mp hmem
      rcases mem_put hm with rfl | hm
      · exact hx hfst.symm
      · exact h.1 (List.mem_map.mpr ⟨m, hm, hfst⟩)

/-- a member that is new is added at the end -/
theorem put_of_not_mem {key : Text} {ms : List (Text × α)} (h : key ∉ ms.map Prod.fst) (value : α) :
    put key value ms = ms ++ [(key, value)] := by
  induction ms with
  | nil => rfl
  | cons x ms ih =>
    have hx : x.1 ≠ key := fun e => h (e ▸ List.mem_cons_self)
    rw [put, if_neg hx, ih fun hmem => h (List.mem_cons_of_mem _ hmem), List.cons_append]

/-- the members that setting one key after the other leaves -/
def ofPairs (pairs : List (Text × α)) : List (Text × α) :=
  pairs.foldl (fun ms p => put p.1 p.2 ms) []

theorem nodup_ofPairs (pairs : List (Text × α)) : ((ofPairs pairs).map Prod.fst).Nodup :=
  List.foldlRecOn (motive := fun ms : List (Text × α) => (ms.map Prod.fst).Nodup) pairs _ .nil
    fun _ h p _ => nodup_put h p.1 p.2

/-- the members without those under `key` -/
def erase (key : Text) (ms : List (Text × α)) : List (Text × α) :=
  ms.filter fun m => m.1 != key

end Members

/-- the member of an object under a key; nothing for any other value -/
def Json.get? (key : Text) : Json → Option Json
  | .object members => members.lookup key
  | _ => none

end DatabaseTypes
