import DatabaseTypes.Proofs.Arranged
import DatabaseTypes.Proofs.Numeral
import DatabaseTypes.Proofs.Unnamed

/-!
# The alphabet

ASCII names are sorted as in a dictionary: in lower case, and of two names that differ in case only the one with the
lower-case letter at the first place where they differ is first.  No two of them are alike, and a quoted key is before
every identifier.

* `Text.Precedes`               which of two names is first
* `SortKey.atMost_ofText`       the sort keys of ASCII names are compared alike
* `Text.linear_alphabetical`    no two ASCII names are alike
* `Schema.ordered_alphabetically`   the order of the output
-/

namespace DatabaseTypes

/-! ## names -/

namespace Text

/-- at the first place where two texts differ, does the first one have a lower-case letter? -/
def smallFirst : Text → Text → Bool
  | c :: s, d :: t => if c = d then smallFirst s t else c.isLower
  | _, _ => false

/-- in lower case the first text is below the second one, or they are the same and the first one has the lower-case
letter where they differ -/
def Precedes (s t : Text) : Prop :=
  s.lowerLetters < t.lowerLetters ∨ s.lowerLetters = t.lowerLetters ∧ smallFirst s t = true

instance (s t : Text) : Decidable (s.Precedes t) := inferInstanceAs (Decidable (_ ∨ _ ∧ _))

/-- the order of ASCII names -/
def alphabetical (s t : Text) : Bool := decide (s = t ∨ s.Precedes t)

section
variable {s t : Text} (hs : s.IsAscii) (ht : t.IsAscii)

theorem charCode_of_ascii {c : Char} (h : c.toNat < 128) : charCode c = c.toNat := by
  have hhalf : isHalf c = false := by
    simp only [isHalf, Bool.and_eq_false_iff, decide_eq_false_iff_not]
    omega
  rw [charCode, hhalf]
  rfl

include hs ht in
theorem atMost_iff_of_isAscii : s.atMost t = true ↔ s = t ∨ s < t := by
  induction s generalizing t with
  | nil =>
    cases t with
    | nil => simp [atMost]
    | cons d t => simp [atMost]
  | cons c s ih =>
    cases t with
    | nil => simp [atMost]
    | cons d t =>
      obtain ⟨hc, hs⟩ := List.forall_mem_cons.mp hs
      obtain ⟨hd, ht⟩ := List.forall_mem_cons.mp ht
      rw [atMost, List.cons_lt_cons_iff, List.cons.injEq]
      by_cases h : c = d
      · rw [if_pos h, ih hs ht]
        simp [h]
      · rw [if_neg h, decide_eq_true_eq, charCode_of_ascii hc, charCode_of_ascii hd]
        simp only [h, false_and, or_false, false_or]
        exact Iff.rfl

include hs in
theorem foldCase_of_isAscii : s.foldCase = s.lowerLetters := by
  induction s with
  | nil => rfl
  | cons c s ih =>
    obtain ⟨hc, hs⟩ := List.forall_mem_cons.mp hs
    have hfold : foldChar c = [c.toLower] := if_pos hc
    rw [foldCase_cons, hfold, ih hs]
    rfl

end

/-- of the two cases of an ASCII letter the capital is below the other one -/
theorem swapAscii_facts {c : Char} : c.toNat < 128 → c.toLower = (if c.isUpper then swapAscii c else c)
    ∧ (c.isUpper = true → c.isLower = false ∧ (swapAscii c).isLower = true ∧ c < swapAscii c) :=
  forall_ascii (P := fun c => c.toLower = (if c.isUpper then swapAscii c else c)
    ∧ (c.isUpper = true → c.isLower = false ∧ (swapAscii c).isLower = true ∧ c < swapAscii c)) (by decide +kernel)

/-- of two letters that differ in case the lower-case one is above the other one, and so below it when the case is
exchanged -/
theorem swapAscii_lt_iff {c d : Char} (hc : c.toNat < 128) (hd : d.toNat < 128) (h : c.toLower = d.toLower)
    (hne : c ≠ d) : swapAscii c < swapAscii d ↔ c.isLower = true := by
  obtain ⟨hcl, hcu⟩ := swapAscii_facts hc
  obtain ⟨hdl, hdu⟩ := swapAscii_facts hd
  rw [hcl, hdl] at h
  cases hC : c.isUpper with
  | true =>
    obtain ⟨hsmall, _, hlt⟩ := hcu hC
    cases hD : d.isUpper with
    | true =>
      rw [hC, hD, if_pos rfl, if_pos rfl] at h
      exact absurd (by rw [← swapAscii_swapAscii hc, h, swapAscii_swapAscii hd]) hne
    | false =>
      rw [hC, hD] at h
      have hback : swapAscii d = c := by rw [← show swapAscii c = d from h, swapAscii_swapAscii hc]
      rw [hback, hsmall]
      exact ⟨fun h => absurd h (Char.lt_asymm hlt), nofun⟩
  | false =>
    cases hD : d.isUpper with
    | true =>
      obtain ⟨_, hsmall, hlt⟩ := hdu hD
      rw [hC, hD] at h
      have hback : swapAscii c = d := by rw [show c = swapAscii d from h, swapAscii_swapAscii hd]
      rw [hback, show c = swapAscii d from h]
      exact ⟨fun _ => hsmall, fun _ => hlt⟩
    | false =>
      rw [hC, hD] at h
      exact absurd h hne

section
variable {s t : Text} (hs : s.IsAscii) (ht : t.IsAscii)
include hs

theorem isAscii_map_swapAscii : IsAscii (s.map swapAscii) := by
  intro c hc
  obtain ⟨d, hd, rfl⟩ := List.mem_map.mp hc
  exact toNat_swapAscii_lt (hs d hd)

theorem isAscii_lowerLetters : s.lowerLetters.IsAscii := by
  intro c hc
  obtain ⟨d, hd, rfl⟩ := List.mem_map.mp hc
  rw [(swapAscii_facts (hs d hd)).1]
  split
  · exact toNat_swapAscii_lt (hs d hd)
  · exact hs d hd

theorem swapCase_of_isAscii : s.swapCase = s.map swapAscii := swapCaseAfter_eq_map hs []

include ht in
/-- two texts that are the same in lower case are compared by the first place where they differ -/
theorem map_swapAscii_lt_iff (h : s.lowerLetters = t.lowerLetters) :
    s.map swapAscii < t.map swapAscii ↔ smallFirst s t = true := by
  induction s generalizing t with
  | nil =>
    cases t with
    | nil => simp [smallFirst]
    | cons d t => cases h
  | cons c s ih =>
    cases t with
    | nil => cases h
    | cons d t =>
      obtain ⟨hcd, hst⟩ := List.cons.inj h
      obtain ⟨hc, hs⟩ := List.forall_mem_cons.mp hs
      obtain ⟨hd, ht⟩ := List.forall_mem_cons.mp ht
      rw [List.map_cons, List.map_cons, List.cons_lt_cons_iff, smallFirst]
      by_cases hne : c = d
      · rw [if_pos hne, ← ih hs ht hst]
        simp [hne]
      · have hswap : swapAscii c ≠ swapAscii d := by
          intro e
          exact hne (by rw [← swapAscii_swapAscii hc, e, swapAscii_swapAscii hd])
        rw [if_neg hne, ← swapAscii_lt_iff hc hd hcd hne]
        simp [hswap]

end
end Text

/-! ## the order -/

section
variable {s t : Text} (hs : s.IsAscii) (ht : t.IsAscii)
include hs ht

/-- **The sort keys of ASCII names are in the order of the names.** -/
theorem SortKey.atMost_ofText : (SortKey.ofText s).atMost (SortKey.ofText t) = Text.alphabetical s t := by
  rw [Bool.eq_iff_iff, Text.alphabetical, decide_eq_true_eq, Text.Precedes, SortKey.atMost]
  show (if s.foldCase = t.foldCase then s.swapCase.atMost t.swapCase else s.foldCase.atMost t.foldCase) = true ↔ _
  rw [Text.foldCase_of_isAscii hs, Text.foldCase_of_isAscii ht, Text.swapCase_of_isAscii hs,
    Text.swapCase_of_isAscii ht]
  by_cases hlower : s.lowerLetters = t.lowerLetters
  · have hirrefl : ¬ t.lowerLetters < t.lowerLetters := List.lt_irrefl _
    rw [if_pos hlower, Text.atMost_iff_of_isAscii (Text.isAscii_map_swapAscii hs) (Text.isAscii_map_swapAscii ht),
      Text.map_swapAscii_lt_iff hs ht hlower]
    have heq : s.map Text.swapAscii = t.map Text.swapAscii ↔ s = t := by
      refine ⟨fun e => SortKey.ofText_inj hs ht ?_, congrArg _⟩
      rw [SortKey.ofText, SortKey.ofText, Text.foldCase_of_isAscii hs, Text.foldCase_of_isAscii ht,
        Text.swapCase_of_isAscii hs, Text.swapCase_of_isAscii ht, hlower, e]
    simp only [heq, hlower, hirrefl, true_and, false_or]
  · have hne : s ≠ t := fun e => hlower (congrArg _ e)
    rw [if_neg hlower, Text.atMost_iff_of_isAscii (Text.isAscii_lowerLetters hs) (Text.isAscii_lowerLetters ht)]
    simp [hlower, hne]

end

/-- an order of keys is one of what has different keys -/
theorem Order.Linear.comap {κ κ' : Type} {le : κ → κ → Bool} (h : Linear le) {f : κ' → κ}
    (hf : Function.Injective f) : Linear fun k l => le (f k) (f l) where
  total k l := h.total (f k) (f l)
  trans := h.trans
  antisymm hkl hlk := hf (h.antisymm hkl hlk)

/-- any two ASCII names are in order, and no two different ones are alike -/
theorem Text.linear_alphabetical :
    Order.Linear fun s t : { t : Text // t.IsAscii } => Text.alphabetical s.val t.val := by
  have hkeys : (fun s t : { t : Text // t.IsAscii } => Text.alphabetical s.val t.val)
      = fun s t => (SortKey.ofText s.val).atMost (SortKey.ofText t.val) :=
    funext fun s => funext fun t => (SortKey.atMost_ofText s.property t.property).symm
  rw [hkeys]
  exact SortKey.linear_atMost.comap fun s t h => Subtype.ext (SortKey.ofText_inj s.property t.property h)

/-- a quoted key is before every identifier -/
theorem Key.precedes_of_isBare {m n : Text} (hm : Key.isBare m = false) (hn : Key.isBare n = true) :
    (Key.ofName m).Precedes (Key.ofName n) := by
  obtain ⟨i, e, hi, _, rfl⟩ := Key.exists_of_isBare hn
  obtain ⟨c, t, rfl, hc⟩ := Key.exists_cons_of_isIdentifier hi
  have hquote : Key.isTail c = true → '"' < c.toLower :=
    Text.forall_ascii (P := fun c => Key.isTail c = true → '"' < c.toLower) (by decide +kernel)
      (Key.toNat_of_isTail hc).2
  have hm' : Key.ofName m = Json.literal false m := if_neg (by simp [hm])
  have hn' : Key.ofName (c :: t ++ e) = c :: t ++ e := if_pos hn
  rw [hm', hn']
  exact .inl (List.cons_lt_cons_iff.mpr (.inl (hquote hc)))

/-! ## the output -/

/-- `ys` are the items `xs` in the order of their texts: each of them is there once, and those with the same text are
as they came -/
def Order.Alphabetical {α : Type} (text : α → Text) (xs ys : List α) : Prop :=
  Arranged Text.alphabetical (fun x => (.ok (text x) : Except Fault Text)) xs ys

section
variable {α : Type} {text : α → Text} {xs : List α} (h : ∀ x ∈ xs, (text x).IsAscii)
include h

/-- what is sorted by ASCII texts is in their order -/
theorem Order.alphabetical_byText : Order.Alphabetical text xs (Order.byText text xs) :=
  (Order.arranged_byText text xs).recode (fun x hx => ⟨text x, rfl, h x hx, rfl⟩)
    (fun _ _ => SortKey.atMost_ofText) fun _ _ => SortKey.ofText_inj

/-- what is sorted by names that turn out to be ASCII texts is in their order -/
theorem Order.alphabetical_byName {name : α → Json} (hname : ∀ x ∈ xs, name x = .text (text x)) :
    ∃ ys, Order.byName name xs = .ok ys ∧ Order.Alphabetical text xs ys := by
  obtain ⟨ys, hys⟩ := Order.exists_byName name xs fun x hx => by rw [hname x hx]; rfl
  refine ⟨ys, hys, (Order.byName_eq_ok_iff.mp hys).recode (f := SortKey.ofText) (P := Text.IsAscii) (fun x hx => ?_)
    (fun _ _ => SortKey.atMost_ofText) fun _ _ => SortKey.ofText_inj⟩
  exact ⟨text x, rfl, h x hx, by rw [hname x hx]; rfl⟩

end

/-- the keys of the tables, the enums and the composite types are ASCII -/
structure Schema.AsciiKeyed (s : Schema) : Prop where
  tables : ∀ t ∈ s.tables, t.key.IsAscii
  enums : ∀ x ∈ s.enums, x.key.IsAscii
  composites : ∀ x ∈ s.composites, x.key.IsAscii

/-- **The output is in alphabetical order.** If the keys of a schema are ASCII, its tables, its enums with a variant
and its composite types with a member are each there once, in the alphabetical order of their keys, and those with
the same key as they are declared; so are the items of any list by their names, if these are ASCII.  No two different
ASCII texts are alike in this order, and a quoted key is before every identifier. -/
theorem Schema.ordered_alphabetically {s : Schema} (h : s.AsciiKeyed) :
    Order.Alphabetical Table.key s.tables s.orderedTables
    ∧ Order.Alphabetical Enum.key (s.enums.filter fun x => !x.variants.isEmpty) s.orderedEnums
    ∧ Order.Alphabetical Composite.key (s.composites.filter fun x => !x.members.isEmpty) s.orderedComposites
    ∧ (Order.Linear fun s t : { t : Text // t.IsAscii } => Text.alphabetical s.val t.val)
    ∧ (∀ m n, Key.isBare m = false → Key.isBare n = true → (Key.ofName m).Precedes (Key.ofName n))
    ∧ ∀ {α : Type} {name : α → Json} {text : α → Text} {xs : List α}, (∀ x ∈ xs, name x = .text (text x))
      → (∀ x ∈ xs, (text x).IsAscii) → ∃ ys, Order.byName name xs = .ok ys ∧ Order.Alphabetical text xs ys := by
  refine ⟨Order.alphabetical_byText h.tables, Order.alphabetical_byText fun x hx => ?_,
    Order.alphabetical_byText fun x hx => ?_, Text.linear_alphabetical, fun m n => Key.precedes_of_isBare,
    fun hname hascii => Order.alphabetical_byName hascii hname⟩
  · exact h.enums x (List.mem_filter.mp hx).1
  · exact h.composites x (List.mem_filter.mp hx).1

/-- a table with an ASCII name -/
def Table.named (name : Text) : Table := { name, key := Key.ofName name }

/-- a schema with keys that differ in case only, a quoted key and an enum without variants -/
def Schema.mixed : Schema where
  name := "public"
  key := "public"
  tables := ["post", "$log", "Post", "order line", "pOst"].map Table.named
  enums := [{ name := "E", key := "E" }, { name := "e", key := "e", variants := [{ name := "v" }] }]
  composites := []

theorem Schema.ordered_alphabetically_mixed : Schema.mixed.AsciiKeyed
    ∧ Order.Alphabetical Table.key Schema.mixed.tables Schema.mixed.orderedTables
    ∧ Schema.mixed.orderedTables.map Table.key = ["\"order line\"", "$log", "post", "pOst", "Post"] := by
  have hkeyed : Schema.mixed.AsciiKeyed := ⟨by decide, by decide, by decide⟩
  exact ⟨hkeyed, (Schema.ordered_alphabetically hkeyed).1, by decide⟩

end DatabaseTypes
