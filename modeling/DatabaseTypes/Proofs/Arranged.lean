import Mathlib.Data.List.Sort
import DatabaseTypes.Proofs.Sorted

/-!
# Arrangements

Sorting puts items in the order of their keys and leaves those with the same key as they came.  There is only one list
like that, and it does not depend on the order in which the items came if and only if no two of them have the same key.

* `Order.Arranged`                 a list is the arrangement of another one
* `Order.Arranged.unique`          there is only one
* `Order.Arranged.recode`          the same order by other keys
* `Order.Arranged.perm_iff`        when it is the arrangement of the items in any other order, too
* `Order.keyed_eq_ok_iff`          sorting gives it
* `Order.arranged_byText`, `Order.byName_eq_ok_iff`, `Table.foreignKeys_eq_ok_iff`   what the output is sorted by
* `Order.byText_perm_iff`, `Order.byName_perm_iff`   when that does not depend on the order of the items
-/

namespace DatabaseTypes

deriving instance DecidableEq for ForeignKey.SortKey

namespace Order

variable {α κ ε : Type} {le : κ → κ → Bool}

/-! ## sorting -/

theorem place_eq_orderedInsert (le : α → α → Bool) (x : α) (xs : List α) :
    place le x xs = xs.orderedInsert (fun x y => le x y = true) x := by
  induction xs with
  | nil => rfl
  | cons y ys ih => rw [place, List.orderedInsert_cons, ih]

theorem sorted_eq_insertionSort (le : α → α → Bool) (xs : List α) :
    sorted le xs = xs.insertionSort fun x y => le x y = true := by
  induction xs with
  | nil => rfl
  | cons x xs ih => rw [sorted_cons, List.insertionSort_cons, place_eq_orderedInsert, ih]

/-- items that are alike stay as they came -/
theorem filter_sorted {le : α → α → Bool} {alike : α → Bool}
    (h : ∀ x y, alike x = true → alike y = true → le x y = true) (xs : List α) :
    (sorted le xs).filter alike = xs.filter alike := by
  have hpairs : (xs.filter alike).Pairwise fun x y => le x y = true := by
    refine List.pairwise_of_forall_mem_list fun x hx y hy => ?_
    exact h x y (List.mem_filter.mp hx).2 (List.mem_filter.mp hy).2
  have hsub : (xs.filter alike).Sublist (sorted le xs) := by
    rw [sorted_eq_insertionSort]
    exact List.sublist_insertionSort hpairs List.filter_sublist
  have hfilter := hsub.filter alike
  simp only [List.filter_filter, Bool.and_self] at hfilter
  exact (hfilter.eq_of_length ((sorted_perm le xs).filter alike).length_eq.symm).symm

/-! ## arrangements -/

variable [DecidableEq κ] {key : α → Except ε κ} {xs ys zs : List α}

/-- has an item this key? -/
def hasKey (key : α → Except ε κ) (k : κ) (x : α) : Bool := (key x).toOption == some k

theorem hasKey_iff {k : κ} {x : α} : hasKey key k x = true ↔ key x = .ok k := by
  unfold hasKey
  cases key x <;> simp [Except.toOption]

/-- `ys` are the items `xs` in the order of their keys: each of them is there once, and those with the same key are as
they came -/
structure Arranged (le : κ → κ → Bool) (key : α → Except ε κ) (xs ys : List α) : Prop where
  perm : ys.Perm xs
  keyed : ∀ x ∈ xs, ∃ k, key x = .ok k
  ordered : ys.Pairwise fun x y => ∃ k l, key x = .ok k ∧ key y = .ok l ∧ le k l = true
  stable : ∀ k, ys.filter (hasKey key k) = xs.filter (hasKey key k)

/-- two lists in the order of their keys are the same if the items with any one key are -/
theorem eq_of_ordered (hle : Linear le) (hp : ys.Perm zs) (hkeyed : ∀ x ∈ ys, ∃ k, key x = .ok k)
    (hy : ys.Pairwise fun x y => ∃ k l, key x = .ok k ∧ key y = .ok l ∧ le k l = true)
    (hz : zs.Pairwise fun x y => ∃ k l, key x = .ok k ∧ key y = .ok l ∧ le k l = true)
    (h : ∀ k, ys.filter (hasKey key k) = zs.filter (hasKey key k)) : ys = zs := by
  induction ys generalizing zs with
  | nil => exact hp.nil_eq
  | cons y ys ih =>
    cases zs with
    | nil => exact absurd hp.length_eq (by simp)
    | cons z zs =>
      obtain ⟨hy₁, hys⟩ := List.pairwise_cons.mp hy
      obtain ⟨hz₁, hzs⟩ := List.pairwise_cons.mp hz
      obtain ⟨k, hk⟩ := hkeyed y List.mem_cons_self
      -- neither of the first items can be above the other one
      have hkey : key z = .ok k := by
        rcases List.mem_cons.mp (hp.mem_iff.mp List.mem_cons_self) with rfl | hyz
        · exact hk
        rcases List.mem_cons.mp (hp.mem_iff.mpr List.mem_cons_self) with rfl | hzy
        · exact hk
        obtain ⟨a, b, ha, hb, hab⟩ := hy₁ z hzy
        obtain ⟨c, d, hc, hd, hcd⟩ := hz₁ y hyz
        cases ha.symm.trans hd
        cases hb.symm.trans hc
        rw [hb, ← hle.antisymm hab hcd, ← ha, hk]
      have hfirst := h k
      rw [List.filter_cons_of_pos (hasKey_iff.mpr hk), List.filter_cons_of_pos (hasKey_iff.mpr hkey)] at hfirst
      obtain ⟨rfl, _⟩ := List.cons.inj hfirst
      have hrest : ∀ l, ys.filter (hasKey key l) = zs.filter (hasKey key l) := by
        intro l
        have hl := h l
        simp only [List.filter_cons] at hl
        split at hl
        · exact (List.cons.inj hl).2
        · exact hl
      rw [ih hp.cons_inv (fun x hx => hkeyed x (List.mem_cons_of_mem _ hx)) hys hzs hrest]

/-- there is only one arrangement -/
theorem Arranged.unique (hle : Linear le) (hy : Arranged le key xs ys) (hz : Arranged le key xs zs) : ys = zs := by
  refine eq_of_ordered hle (hy.perm.trans hz.perm.symm) (fun x hx => hy.keyed x (hy.perm.mem_iff.mp hx)) hy.ordered
    hz.ordered fun k => ?_
  rw [hy.stable, hz.stable]

/-- the arrangement is the same for every order of the items exactly if no two of them have the same key -/
theorem Arranged.perm_iff (h : Arranged le key xs zs) : (∀ ys, xs.Perm ys → Arranged le key ys zs)
    ↔ ∀ x ∈ xs, ∀ y ∈ xs, key x = key y → x = y := by
  constructor
  · intro hall x hx y hy hxy
    obtain ⟨k, hxk⟩ := h.keyed x hx
    -- whichever of the two comes first is the first of those with the key
    have hfirst {z : α} (hz : z ∈ xs) (hzk : key z = .ok k) : (zs.filter (hasKey key k)).head? = some z := by
      obtain ⟨before, after, rfl⟩ := List.append_of_mem hz
      rw [(hall _ List.perm_middle).stable k, List.filter_cons_of_pos (hasKey_iff.mpr hzk)]
      rfl
    exact Option.some.inj ((hfirst hx hxk).symm.trans (hfirst hy (hxy ▸ hxk)))
  · intro hdistinct ys hp
    refine ⟨h.perm.trans hp, fun x hx => h.keyed x (hp.mem_iff.mpr hx), h.ordered, fun k => ?_⟩
    rw [h.stable k]
    -- all items with the key are the same one
    have heq {ws : List α} (hws : xs.Perm ws) : (ws.filter (hasKey key k)).Pairwise (· = ·) := by
      refine List.pairwise_of_forall_mem_list fun x hx y hy => ?_
      obtain ⟨hx, hxk⟩ := List.mem_filter.mp hx
      obtain ⟨hy, hyk⟩ := List.mem_filter.mp hy
      exact hdistinct x (hws.mem_iff.mpr hx) y (hws.mem_iff.mpr hy)
        ((hasKey_iff.mp hxk).trans (hasKey_iff.mp hyk).symm)
    exact List.Perm.eq_of_pairwise (fun _ _ _ _ e _ => e) (heq (List.Perm.refl xs)) (heq hp) (hp.filter _)

/-- items in the order of their keys are in the order of other keys that are compared alike -/
theorem Arranged.recode {κ' ε' : Type} [DecidableEq κ'] {le' : κ' → κ' → Bool} {key' : α → Except ε' κ'} {f : κ' → κ}
    {P : κ' → Prop} (h : Arranged le key xs ys)
    (hkey : ∀ x ∈ xs, ∃ k, key' x = .ok k ∧ P k ∧ key x = .ok (f k))
    (hle : ∀ k l, P k → P l → le (f k) (f l) = le' k l) (hinj : ∀ k l, P k → P l → f k = f l → k = l) :
    Arranged le' key' xs ys where
  perm := h.perm
  keyed x hx := (hkey x hx).imp fun _ hk => hk.1
  ordered := by
    refine h.ordered.imp_of_mem fun {x y} hx hy hxy => ?_
    obtain ⟨k, hk, hPk, hfk⟩ := hkey x (h.perm.mem_iff.mp hx)
    obtain ⟨l, hl, hPl, hfl⟩ := hkey y (h.perm.mem_iff.mp hy)
    obtain ⟨a, b, ha, hb, hab⟩ := hxy
    cases hfk.symm.trans ha
    cases hfl.symm.trans hb
    exact ⟨k, l, hk, hl, (hle k l hPk hPl).symm.trans hab⟩
  stable k := by
    by_cases hk : ∃ x ∈ xs, key' x = .ok k
    · obtain ⟨x, hx, hxk⟩ := hk
      obtain ⟨k', hk', hP, _⟩ := hkey x hx
      cases hxk.symm.trans hk'
      have hsame {zs : List α} (hzs : ∀ z ∈ zs, z ∈ xs) :
          zs.filter (hasKey key' k) = zs.filter (hasKey key (f k)) := by
        refine List.filter_congr fun z hz => Bool.eq_iff_iff.mpr ?_
        obtain ⟨l, hl, hPl, hfl⟩ := hkey z (hzs z hz)
        rw [hasKey_iff, hasKey_iff, hl, hfl]
        constructor
        · rintro ⟨⟩
          rfl
        · intro e
          rw [hinj l k hPl hP (Except.ok.inj e)]
      rw [hsame fun z hz => h.perm.mem_iff.mp hz, hsame fun z hz => hz, h.stable]
    · have hnone {zs : List α} (hzs : ∀ z ∈ zs, z ∈ xs) : zs.filter (hasKey key' k) = [] :=
        List.filter_eq_nil_iff.mpr fun z hz hzk => hk ⟨z, hzs z hz, hasKey_iff.mp hzk⟩
      rw [hnone fun z hz => h.perm.mem_iff.mp hz, hnone fun z hz => hz]

/-- items are arranged by sorting them with their keys -/
theorem arranged_keyed (hle : Linear le) {pairs : List (κ × α)}
    (hp : xs.mapM (fun x => do pure (← key x, x)) = .ok pairs) :
    Arranged le key xs ((sorted (fun p q => le p.1 q.1) pairs).map (·.2)) := by
  obtain ⟨hitems, hkeys⟩ := Outcome.mapM_paired hp
  have hperm := sorted_perm (fun p q : κ × α => le p.1 q.1) pairs
  refine ⟨?_, fun x hx => ?_, ?_, fun k => ?_⟩
  · rw [← hitems]
    exact hperm.map _
  · rw [← hitems] at hx
    obtain ⟨p, hp, rfl⟩ := List.mem_map.mp hx
    exact ⟨p.1, hkeys p hp⟩
  · refine List.pairwise_map.mpr ((pairwise_sorted hle Prod.fst pairs).imp_of_mem fun {p q} hp hq hpq => ?_)
    exact ⟨p.1, q.1, hkeys p (hperm.mem_iff.mp hp), hkeys q (hperm.mem_iff.mp hq), hpq⟩
  · have hstable : (sorted (fun p q : κ × α => le p.1 q.1) pairs).filter (fun p => p.1 == k)
        = pairs.filter fun p => p.1 == k := by
      refine filter_sorted (fun p q hpk hqk => ?_) pairs
      rw [eq_of_beq hpk, eq_of_beq hqk]
      exact (hle.total k k).elim id id
    have hkey {ps : List (κ × α)} (hps : ∀ p ∈ ps, p ∈ pairs) :
        (ps.map (·.2)).filter (hasKey key k) = (ps.filter fun p => p.1 == k).map (·.2) := by
      rw [List.filter_map]
      refine congrArg _ (List.filter_congr fun p hp => ?_)
      show hasKey key k p.2 = (p.1 == k)
      rw [hasKey, hkeys p (hps p hp)]
      exact Option.some_beq_some
    rw [hkey fun p hp => hperm.mem_iff.mp hp, hstable, ← hkey fun p hp => hp, hitems]

/-- what sorting items with their keys gives is their arrangement -/
theorem keyed_eq_ok_iff (hle : Linear le) :
    ((xs.mapM fun x => do pure (← key x, x)) >>= fun pairs => pure ((sorted (fun p q => le p.1 q.1) pairs).map (·.2)))
      = .ok ys ↔ Arranged le key xs ys := by
  constructor
  · intro h
    obtain ⟨pairs, hpairs, h⟩ := Outcome.bind_eq_ok_iff.mp h
    cases h
    exact arranged_keyed hle hpairs
  · intro h
    obtain ⟨pairs, hpairs⟩ : ∃ pairs, xs.mapM (fun x => do pure (← key x, x)) = .ok pairs := by
      refine Outcome.exists_mapM_ok fun x hx => ?_
      obtain ⟨k, hk⟩ := h.keyed x hx
      exact ⟨(k, x), Outcome.bind_eq_ok_iff.mpr ⟨k, hk, rfl⟩⟩
    exact Outcome.bind_eq_ok_iff.mpr ⟨pairs, hpairs, congrArg Except.ok ((arranged_keyed hle hpairs).unique hle h)⟩

/-! ## what the output is sorted by -/

section
variable {name : α → Json} {text : α → Text}

/-- what is sorted by texts is arranged by their sort keys -/
theorem arranged_byText (text : α → Text) (xs : List α) :
    Arranged (ε := Fault) SortKey.atMost (fun x => .ok (SortKey.ofText (text x))) xs (byText text xs) where
  perm := sorted_perm _ xs
  keyed _ _ := ⟨_, rfl⟩
  ordered := by
    have hpairs := pairwise_sorted SortKey.linear_atMost (fun x => SortKey.ofText (text x)) xs
    exact hpairs.imp fun h => ⟨_, _, rfl, rfl, h⟩
  stable k := by
    refine filter_sorted (fun x y hx hy => ?_) xs
    rw [hasKey_iff] at hx hy
    rw [Except.ok.inj hx, Except.ok.inj hy]
    exact k.atMost_refl

/-- what is sorted by names is arranged by their sort keys -/
theorem byName_eq_ok_iff : byName name xs = .ok ys ↔ Arranged SortKey.atMost (fun x => (name x).sortKey) xs ys :=
  keyed_eq_ok_iff SortKey.linear_atMost

theorem byName_perm (h : byName name xs = .ok ys) : ys.Perm xs := (byName_eq_ok_iff.mp h).perm

/-- what is sorted by texts does not depend on the order in which it comes exactly if no two different items have the
same sort key -/
theorem byText_perm_iff : (∀ ys, xs.Perm ys → byText text ys = byText text xs)
    ↔ ∀ x ∈ xs, ∀ y ∈ xs, SortKey.ofText (text x) = SortKey.ofText (text y) → x = y := by
  have hsame (ys : List α) : byText text ys = byText text xs
      ↔ Arranged (ε := Fault) SortKey.atMost (fun x => .ok (SortKey.ofText (text x))) ys (byText text xs) := by
    constructor
    · intro h
      exact h ▸ arranged_byText text ys
    · exact (arranged_byText text ys).unique SortKey.linear_atMost
  simp only [hsame, (arranged_byText text xs).perm_iff, Except.ok.injEq]

/-- the same for what is sorted by names that turn out to be texts -/
theorem byName_perm_iff (h : byName name xs = .ok zs) : (∀ ys, xs.Perm ys → byName name ys = .ok zs)
    ↔ ∀ x ∈ xs, ∀ y ∈ xs, (name x).sortKey = (name y).sortKey → x = y := by
  simp only [byName_eq_ok_iff]
  exact (byName_eq_ok_iff.mp h).perm_iff

end
end Order

/-- foreign keys are arranged by the names of their fields and relations -/
theorem Table.foreignKeys_eq_ok_iff {t : Table} {keys : List ForeignKey} : t.foreignKeys = .ok keys
    ↔ Order.Arranged ForeignKey.SortKey.atMost ForeignKey.sortKey (t.fields.filterMap Field.foreignKey?) keys :=
  Order.keyed_eq_ok_iff ForeignKey.SortKey.linear_atMost

end DatabaseTypes
