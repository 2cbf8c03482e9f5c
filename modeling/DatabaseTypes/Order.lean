import DatabaseTypes.Text.Case
import DatabaseTypes.Fault
import DatabaseTypes.Schema.Basic

/-!
# The order of the output

Names sort alphabetically without regard to case; of names that differ in case only, the one with
the lower-case letter comes first.  What sorts alike keeps its order.

* `SortKey`            the folded name, and the name with its case exchanged for ties
* `Order.place`, `Order.sorted`   insertion into a sorted list, and sorting
* `Order.byText`       items by a text of theirs
* `Order.byName`       items by a name that may turn out to be no text
-/

namespace DatabaseTypes

/-- what names are compared by -/
structure SortKey where
  folded : Text
  swapped : Text
  deriving DecidableEq

/-- the sort key of a name -/
def SortKey.ofText (name : Text) : SortKey := ⟨name.foldCase, name.swapCase⟩

/-- the order of sort keys: the folded names decide, the exchanged ones only between equals -/
def SortKey.atMost (k l : SortKey) : Bool :=
  if k.folded = l.folded then k.swapped.atMost l.swapped else k.folded.atMost l.folded

theorem SortKey.atMost_refl (k : SortKey) : k.atMost k = true := by
  simp [SortKey.atMost, Text.atMost_refl]

/-- the sort key of a name that may turn out to be no text -/
def Json.sortKey : Json → Except Fault SortKey
  | .text t => .ok (SortKey.ofText t)
  | v => .error (.lacks v.kind "casefold")

namespace Order

variable {α : Type}

/-! ## sorting -/

/-- `x` in front of the first item that is not below it -/
def place (le : α → α → Bool) (x : α) : List α → List α
  | [] => [x]
  | y :: ys => if le x y then x :: y :: ys else y :: place le x ys

/-- the items in order; items that are alike stay as they came -/
def sorted (le : α → α → Bool) : List α → List α
  | [] => []
  | x :: xs => place le x (sorted le xs)

theorem sorted_nil (le : α → α → Bool) : sorted le [] = [] := rfl
theorem sorted_cons (le : α → α → Bool) (x : α) (xs : List α) :
    sorted le (x :: xs) = place le x (sorted le xs) := rfl

theorem place_perm (le : α → α → Bool) (x : α) (xs : List α) :
    (place le x xs).Perm (x :: xs) := by
  induction xs with
  | nil => exact List.Perm.refl _
  | cons y ys ih =>
    rw [place]
    by_cases h : le x y = true
    · rw [if_pos h]
    · rw [if_neg h]
      exact (ih.cons y).trans (List.Perm.swap x y ys)

theorem sorted_perm (le : α → α → Bool) (xs : List α) : (sorted le xs).Perm xs := by
  induction xs with
  | nil => exact List.Perm.refl _
  | cons x xs ih => exact (place_perm le x _).trans (ih.cons x)

/-! ## by a name -/

/-- items by a text of theirs -/
def byText (text : α → Text) (items : List α) : List α :=
  sorted (fun x y => (SortKey.ofText (text x)).atMost (SortKey.ofText (text y))) items

/-- items with their sort keys -/
def keyed (key : α → Except Fault SortKey) (items : List α) : Except Fault (List (SortKey × α)) :=
  items.mapM fun x => do pure (← key x, x)

/-- items by a name that must turn out to be a text -/
def byName (name : α → Json) (items : List α) : Except Fault (List α) := do
  let pairs ← keyed (fun x => (name x).sortKey) items
  pure ((sorted (fun x y => x.1.atMost y.1) pairs).map (·.2))

end Order

/-! ## schemas -/

/-- tables by key -/
def Schema.orderedTables (s : Schema) : List Table := Order.byText Table.key s.tables

/-- the enums with a variant, by key -/
def Schema.orderedEnums (s : Schema) : List Enum :=
  Order.byText Enum.key (s.enums.filter fun e => !e.variants.isEmpty)

/-- the composite types with a member, by key -/
def Schema.orderedComposites (s : Schema) : List Composite :=
  Order.byText Composite.key (s.composites.filter fun c => !c.members.isEmpty)

/-- schemas by key -/
def Schema.ordered (schemas : List Schema) : List Schema := Order.byText Schema.key schemas

end DatabaseTypes
