import DatabaseTypes.Filter.Records.Value
import Std.Data.HashMap

/-!
# Tables of values

The keys of a table stand in rows, and each row has the key that was asked for last in front.  Whole
numbers stand in rows by their remainder, and texts by a number made of their characters; whole numbers
get their places among the texts once a text is asked for.

* `Filter.Records.Key`          the keys
* `Filter.Records.Table`        the tables
* `Filter.Records.Table.keys`   the keys in the order of their rows
-/

namespace DatabaseTypes.Filter.Records

/-- characters are hashed by their numbers -/
instance hashableChar : Hashable Char := instHashableChar

/-- a key of a table -/
inductive Key where
  | whole (i : Int)
  | text (t : Text)
  deriving DecidableEq

/-- a key as a text -/
def Key.toText : Key → Text
  | .whole i => Text.ofInt i
  | .text t => t

/-- the number of a text by which it finds its row: the number so far, with a character, times a prime -/
def textNumber (t : Text) : Nat :=
  t.foldl (fun n c => (n ^^^ c.toNat) * 16777619 % Nat.pow 2 32) 2166136261

/-- a table: the values by the texts of their keys, the rows of whole numbers and of texts, and whether
there are any of them -/
structure Table where
  values : Std.HashMap Text Value := ∅
  numbers : Array (List Int) := Array.replicate 64 []
  texts : Array (List Text) := Array.replicate 64 []
  hasNumbers : Bool := false
  hasTexts : Bool := false
  /-- are the keys the numbers from one on, and nothing was asked for that is not? -/
  isList : Bool := false

namespace Table

/-- how many rows there are -/
def size (t : Table) : Nat := t.texts.size

/-- the row of a whole number -/
def rowOf (t : Table) (i : Int) : Nat := (i % (t.size : Int)).toNat

/-- the row of a text -/
def rowOfText (t : Table) (k : Text) : Nat := textNumber k % t.size

/-- an element in front of a row -/
def inFront {α : Type} [BEq α] (x : α) (rows : Array (List α)) (n : Nat) : Array (List α) :=
  rows.modify n fun row => x :: row.filter (· != x)

/-- rows with others for some of their elements: those whose new row is another one -/
def halved {α : Type} (row : α → Nat) (rows : Array (List α)) : Array (List α) :=
  rows.mapIdx (fun n xs => xs.filter fun x => row x == n)
    ++ rows.mapIdx (fun n xs => xs.filter fun x => row x == n + rows.size)

/-- twice as many rows -/
def doubled (t : Table) : Table :=
  let size := 2 * t.size
  { t with
    texts := halved (fun k => textNumber k % size) t.texts
    numbers := halved (fun (i : Int) => (i % (size : Int)).toNat) t.numbers }

/-- room for one more element: rows have twelve elements on average at most -/
def grown (t : Table) : Table := if 12 * t.size < t.values.size + 1 then t.doubled else t

/-- the whole numbers with their places among the texts -/
def withTexts (t : Table) : Table :=
  if t.hasTexts then t
  else
    let own := t.numbers.toList.flatten.map fun (i : Int) => Text.ofInt i
    { t with
      hasTexts := true
      texts := own.foldl (fun rows k => inFront k rows (t.rowOfText k)) t.texts }

/-- a text asked for; if there is nothing yet, `creates` tells whether there is something then -/
def askedText (t : Table) (k : Text) (creates : Bool) : Table :=
  let t := t.withTexts
  if t.values.contains k then
    let row := t.rowOfText k
    { t with texts := inFront k t.texts row }
  else if !creates then t
  else
    let t := t.grown
    let row := t.rowOfText k
    { t with values := t.values.insert k .unset, texts := inFront k t.texts row }

/-- a whole number asked for -/
def askedNumber (t : Table) (i : Int) (creates : Bool) : Table :=
  let k := Text.ofInt i
  let row := t.rowOf i
  let isThere := ((t.numbers[row]?).getD []).contains i
  if isThere then { t with numbers := inFront i t.numbers row }
  else if t.hasTexts then
    let t := t.askedText k creates
    if t.values.contains k then
      let row := t.rowOf i
      { t with numbers := inFront i t.numbers row, hasNumbers := true }
    else t
  else if !creates then t
  else
    let t := t.grown
    let row := t.rowOf i
    { t with
      values := t.values.insert k .unset, hasNumbers := true, numbers := inFront i t.numbers row }

/-- a key asked for -/
def asked (t : Table) (k : Key) (creates : Bool) : Table :=
  if t.values.isEmpty && !creates then t
  else match k with
    | .text k => t.askedText k creates
    | .whole i =>
      if t.isList && (1 ≤ i && i ≤ t.values.size) then t else { t.askedNumber i creates with isList := false }

/-- is there something for a key? -/
def has (t : Table) (k : Key) : Bool := t.values.contains k.toText

/-- the value for a key -/
def get (t : Table) (k : Key) : Value := (t.values.get? k.toText).getD .unset

/-- a value for a key -/
def put (t : Table) (k : Key) (v : Value) : Table :=
  let t := t.asked k true
  { t with values := t.values.insert k.toText v }

/-- a value for a key that was asked for before -/
def stored (t : Table) (k : Key) (v : Value) : Table :=
  if t.has k then { t with values := t.values.insert k.toText v } else t.put k v

/-- what is stored for a key is there -/
theorem get_stored (t : Table) (k : Key) (v : Value) : (t.stored k v).get k = v := by
  unfold stored
  split <;> simp [get, put]

/-- a table without a key -/
def erased (t : Table) (k : Key) : Table :=
  if !t.has k then t
  else
    let name := k.toText
    let t := t.asked k false
    { t with
      values := t.values.erase name
      texts := t.texts.map fun row => row.filter (· != name)
      numbers := t.numbers.map fun row => row.filter fun i => Text.ofInt i != name
      isList := false }

/-- a table of values by the numbers from one on -/
def ofValues (vs : List Value) : Table :=
  if vs.isEmpty then {}
  else
    let rec rows (fuel n : Nat) : Nat := match fuel with
      | 0 => n
      | fuel + 1 => if 12 * n < vs.length then rows fuel (2 * n) else n
    let size := rows vs.length 64
    let numbers := vs.zipIdx.foldl (fun (a : Array (List Int)) p =>
      inFront ((p.2 : Int) + 1) a ((p.2 + 1) % size)) (Array.replicate size [])
    { values := Std.HashMap.ofList (vs.zipIdx.map fun p => (Text.ofNat (p.2 + 1), p.1))
      numbers, texts := Array.replicate size [], hasNumbers := true, isList := true }

/-- the keys in the order of their rows, and the table after they were asked for -/
def keys (t : Table) : List Text × Table :=
  let t := { t.withTexts with isList := false }
  (t.texts.toList.flatten, t)

end Table

end DatabaseTypes.Filter.Records
