import Mathlib.Data.List.Nodup
import DatabaseTypes.Relationship
import DatabaseTypes.Proofs.Outcome

/-!
# Sorting

What is sorted by keys comes out in the order of its keys, and different ASCII names have different keys.

* `Order.Linear`            an order in which different keys are never alike
* `Order.pairwise_sorted`   what is sorted is in order
* `Order.forall₂_sorted`    items with the same keys are sorted to the same places
* `SortKey.ofText_inj`      different ASCII names have different sort keys
-/

namespace DatabaseTypes

/-! ## linear orders -/

/-- an order that compares any two keys and in which different keys are never alike -/
structure Order.Linear {κ : Type} (le : κ → κ → Bool) : Prop where
  total : ∀ k l, le k l = true ∨ le l k = true
  trans : ∀ {k l m}, le k l = true → le l m = true → le k m = true
  antisymm : ∀ {k l}, le k l = true → le l k = true → k = l

/-- one key decides, and another one only between equals -/
theorem Order.Linear.lex {κ κ₁ κ₂ : Type} [DecidableEq κ₁] {le₁ : κ₁ → κ₁ → Bool}
    {le₂ : κ₂ → κ₂ → Bool} (h₁ : Linear le₁) (h₂ : Linear le₂) {f : κ → κ₁} {g : κ → κ₂}
    (hinj : ∀ k l, f k = f l → g k = g l → k = l) :
    Linear fun k l => if f k = f l then le₂ (g k) (g l) else le₁ (f k) (f l) where
  total k l := by
    by_cases e : f k = f l
    · rw [if_pos e, if_pos e.symm]
      exact h₂.total _ _
    · rw [if_neg e, if_neg (Ne.symm e)]
      exact h₁.total _ _
  trans {k l m} hkl hlm := by
    by_cases e : f k = f l
    · by_cases e' : f l = f m
      · rw [if_pos e] at hkl
        rw [if_pos e'] at hlm
        rw [if_pos (e.trans e')]
        exact h₂.trans hkl hlm
      · rw [if_neg e', ← e] at hlm
        rw [if_neg (e ▸ e')]
        exact hlm
    · rw [if_neg e] at hkl
      by_cases e' : f l = f m
      · rw [e'] at hkl e
        rw [if_neg e]
        exact hkl
      · rw [if_neg e'] at hlm
        by_cases e'' : f k = f m
        · rw [← e''] at hlm
          exact absurd (h₁.antisymm hkl hlm) e
        · rw [if_neg e'']
          exact h₁.trans hkl hlm
  antisymm {k l} hkl hlk := by
    by_cases e : f k = f l
    · rw [if_pos e] at hkl
      rw [if_pos e.symm] at hlk
      exact hinj k l e (h₂.antisymm hkl hlk)
    · rw [if_neg e] at hkl
      rw [if_neg (Ne.symm e)] at hlk
      exact absurd (h₁.antisymm hkl hlk) e

/-- no two characters have the same code: none but those that stand for halves has that of a half -/
theorem charCode_inj {c d : Char} (h : charCode c = charCode d) : c = d := by
  have hvalid : ∀ e : Char, e.toNat < 0xd800 ∨ 0xdfff < e.toNat := fun e =>
    e.valid.imp_right And.left
  have hc := hvalid c
  have hd := hvalid d
  refine Char.toNat_inj.mp ?_
  simp only [charCode, isHalf, halfShift, Bool.and_eq_true, decide_eq_true_eq] at h
  split at h <;> split at h <;> omega

theorem Text.linear_atMost : Order.Linear Text.atMost where
  total s t := by
    induction s generalizing t with
    | nil => exact .inl rfl
    | cons a s ih =>
      cases t with
      | nil => exact .inr rfl
      | cons b t =>
        by_cases e : a = b
        · rw [atMost, atMost, if_pos e, if_pos e.symm]
          exact ih t
        · rw [atMost, atMost, if_neg e, if_neg (Ne.symm e), decide_eq_true_eq, decide_eq_true_eq]
          exact Nat.lt_or_gt_of_ne fun h => e (charCode_inj h)
  trans {s t u} hst htu := by
    induction s generalizing t u with
    | nil => rfl
    | cons a s ih =>
      cases t with
      | nil => cases hst
      | cons b t =>
        cases u with
        | nil => cases htu
        | cons c u =>
          rw [atMost] at hst htu ⊢
          by_cases e : a = b
          · subst e
            rw [if_pos rfl] at hst
            by_cases e' : a = c
            · rw [if_pos e'] at htu ⊢
              exact ih hst htu
            · rw [if_neg e'] at htu ⊢
              exact htu
          · rw [if_neg e, decide_eq_true_eq] at hst
            by_cases e' : b = c
            · subst e'
              rw [if_neg e, decide_eq_true_eq]
              exact hst
            · rw [if_neg e', decide_eq_true_eq] at htu
              rw [if_neg (by rintro rfl; exact Nat.lt_asymm hst htu), decide_eq_true_eq]
              exact Nat.lt_trans hst htu
  antisymm {s t} hst hts := by
    induction s generalizing t with
    | nil =>
      cases t with
      | nil => rfl
      | cons b t => cases hts
    | cons a s ih =>
      cases t with
      | nil => cases hst
      | cons b t =>
        rw [atMost] at hst hts
        by_cases e : a = b
        · rw [if_pos e] at hst
          rw [if_pos e.symm] at hts
          rw [e, ih hst hts]
        · rw [if_neg e, decide_eq_true_eq] at hst
          rw [if_neg (Ne.symm e), decide_eq_true_eq] at hts
          exact absurd hts (Nat.lt_asymm hst)

theorem SortKey.linear_atMost : Order.Linear SortKey.atMost :=
  Text.linear_atMost.lex Text.linear_atMost fun k l hf hs => by
    cases k; cases l; cases hf; cases hs; rfl

theorem ForeignKey.SortKey.linear_atMost : Order.Linear ForeignKey.SortKey.atMost :=
  DatabaseTypes.SortKey.linear_atMost.lex DatabaseTypes.SortKey.linear_atMost fun k l hf hr => by
    cases k; cases l; cases hf; cases hr; rfl

/-! ## sorting -/

namespace Order

variable {α κ : Type}

section
variable {le : κ → κ → Bool} (hle : Linear le) (key : α → κ)

include hle in
theorem pairwise_place {x : α} {xs : List α}
    (h : xs.Pairwise fun x y => le (key x) (key y) = true) :
    (place (fun x y => le (key x) (key y)) x xs).Pairwise fun x y => le (key x) (key y) = true := by
  induction xs with
  | nil => exact List.pairwise_singleton _ _
  | cons y ys ih =>
    obtain ⟨hy, hys⟩ := List.pairwise_cons.mp h
    rw [place]
    split
    · rename_i hxy
      refine List.pairwise_cons.mpr ⟨fun z hz => ?_, h⟩
      rcases List.mem_cons.mp hz with rfl | hz
      · exact hxy
      · exact hle.trans hxy (hy z hz)
    · rename_i hxy
      refine List.pairwise_cons.mpr ⟨fun z hz => ?_, ih hys⟩
      rcases List.mem_cons.mp ((place_perm _ x ys).mem_iff.mp hz) with rfl | hz
      · exact (hle.total _ _).resolve_left hxy
      · exact hy z hz

include hle in
theorem pairwise_sorted (xs : List α) :
    (sorted (fun x y => le (key x) (key y)) xs).Pairwise fun x y => le (key x) (key y) = true := by
  induction xs with
  | nil => exact List.Pairwise.nil
  | cons x xs ih => exact pairwise_place hle key ih

/-- items with the same keys are sorted to the same places -/
theorem forall₂_sorted {β : Type} {key' : β → κ} {R : α → β → Prop} {xs : List α} {ys : List β}
    (h : List.Forall₂ R xs ys) (hR : ∀ x y, R x y → key x = key' y) :
    List.Forall₂ R (sorted (fun x y => le (key x) (key y)) xs)
      (sorted (fun x y => le (key' x) (key' y)) ys) := by
  have hplace : ∀ {x : α} {y : β} {xs : List α} {ys : List β}, R x y → List.Forall₂ R xs ys →
      List.Forall₂ R (place (fun x y => le (key x) (key y)) x xs)
        (place (fun x y => le (key' x) (key' y)) y ys) := by
    intro x y xs ys hxy h
    induction h with
    | nil => exact .cons hxy .nil
    | cons hzw h ih =>
      rw [place, place, hR _ _ hxy, hR _ _ hzw]
      split
      · exact .cons hxy (.cons hzw h)
      · exact .cons hzw ih
  induction h with
  | nil => exact .nil
  | cons hxy _ ih => exact hplace hxy ih

end

end Order

/-! ## ASCII names -/

/-- a text of ASCII characters -/
def Text.IsAscii (t : Text) : Prop := ∀ c ∈ t, c.toNat < 128

instance (t : Text) : Decidable t.IsAscii :=
  decidable_of_iff (t.all (fun c => decide (c.toNat < 128)) = true) (by simp [Text.IsAscii])

/-- what is so of the first 128 code points is so of every ASCII character -/
theorem Text.forall_ascii {P : Char → Prop} (h : ∀ n < 128, P (Char.ofNat n)) {c : Char} (hc : c.toNat < 128) :
    P c := by
  have hP := h c.toNat hc
  rwa [Char.ofNat_toNat] at hP

/-- an ASCII character with its case exchanged -/
def Text.swapAscii (c : Char) : Char := if 'A' ≤ c ∧ c ≤ 'Z' then c.toLower else c.toUpper

theorem Text.swapAscii_swapAscii {c : Char} : c.toNat < 128 → swapAscii (swapAscii c) = c :=
  forall_ascii (P := fun c => swapAscii (swapAscii c) = c) (by decide +kernel)

theorem Text.toNat_swapAscii_lt {c : Char} : c.toNat < 128 → (swapAscii c).toNat < 128 :=
  forall_ascii (P := fun c => (swapAscii c).toNat < 128) (by decide +kernel)

theorem Text.swapCaseAfter_eq_map {t : Text} (h : t.IsAscii) (before : Text) :
    swapCaseAfter before t = t.map swapAscii := by
  induction t generalizing before with
  | nil => rfl
  | cons c t ih =>
    have hc := h c List.mem_cons_self
    have hsigma : c ≠ 'Σ' := by
      rintro rfl
      revert hc
      decide
    rw [swapCaseAfter, if_neg hsigma, ih fun d hd => h d (List.mem_cons_of_mem _ hd), swapChar]
    rw [if_pos hc]
    rfl

/-- different ASCII names have different sort keys -/
theorem SortKey.ofText_inj {s t : Text} (hs : s.IsAscii) (ht : t.IsAscii)
    (h : SortKey.ofText s = SortKey.ofText t) : s = t := by
  have hback : ∀ {u : Text}, u.IsAscii → u.swapCase.map Text.swapAscii = u := by
    intro u hu
    rw [Text.swapCase, Text.swapCaseAfter_eq_map hu, List.map_map]
    calc u.map (Text.swapAscii ∘ Text.swapAscii) = u.map id :=
          List.map_congr_left fun c hc => Text.swapAscii_swapAscii (hu c hc)
      _ = u := List.map_id u
  have hswap : s.swapCase = t.swapCase := congrArg SortKey.swapped h
  rw [← hback hs, ← hback ht, hswap]

end DatabaseTypes
