import DatabaseTypes.Json.Basic
import Mathlib.Logic.Basic

/-!
# Places in JSON values

A way of keys leads through objects to what stands in a value.  Something other than an object on the way hides what
could be at its end.

* `Json.at?`          what stands at a place
* `Json.Hides`        something other than an object is on the way to a place
* `Json.UniqueKeys`   no object at any place has a key twice
-/

namespace DatabaseTypes

namespace Members

variable {α : Type} {ms : List (Text × α)} {m : Text × α} {key : Text} {v : α}

theorem lookup_eq_none_iff : ms.lookup key = none ↔ key ∉ ms.map Prod.fst := by
  rw [List.lookup_eq_none_iff, List.mem_map]
  constructor
  · rintro h ⟨m, hm, rfl⟩
    exact bne_iff_ne.mp (h m hm) rfl
  · intro h m hm
    rw [bne_iff_ne]
    rintro rfl
    exact h ⟨m, hm, rfl⟩

theorem lookup_cons_of_ne (h : m.1 ≠ key) : (m :: ms).lookup key = ms.lookup key := by
  rw [List.lookup_cons, beq_false_of_ne h.symm]

theorem mem_of_lookup (h : ms.lookup key = some v) : (key, v) ∈ ms := by
  induction ms with
  | nil => cases h
  | cons m ms ih =>
    by_cases hm : m.1 = key
    · subst hm
      rw [List.lookup_cons_self] at h
      cases h
      exact List.mem_cons_self
    · rw [lookup_cons_of_ne hm] at h
      exact List.mem_cons_of_mem _ (ih h)

theorem lookup_of_mem (hd : (ms.map Prod.fst).Nodup) (h : (key, v) ∈ ms) : ms.lookup key = some v := by
  induction ms with
  | nil => cases h
  | cons m ms ih =>
    obtain ⟨hm, hms⟩ := List.nodup_cons.mp hd
    rcases List.mem_cons.mp h with rfl | h
    · exact List.lookup_cons_self
    · rw [lookup_cons_of_ne, ih hms h]
      rintro rfl
      exact hm (List.mem_map.mpr ⟨_, h, rfl⟩)

theorem mem_keys_put {other : Text} :
    other ∈ (put key v ms).map Prod.fst ↔ other = key ∨ other ∈ ms.map Prod.fst := by
  by_cases h : other = key
  · subst h
    refine iff_of_true (Decidable.byContradiction fun hnot => ?_) (.inl rfl)
    rw [← lookup_eq_none_iff, lookup_put_self] at hnot
    cases hnot
  · rw [or_iff_right h, ← not_iff_not, ← lookup_eq_none_iff, ← lookup_eq_none_iff, lookup_put_of_ne h]

/-- a member that is there already changes nothing -/
theorem put_of_lookup (h : ms.lookup key = some v) : put key v ms = ms := by
  induction ms with
  | nil => cases h
  | cons m ms ih =>
    by_cases hm : m.1 = key
    · subst hm
      rw [List.lookup_cons_self] at h
      cases h
      rw [put, if_pos rfl]
    · rw [lookup_cons_of_ne hm] at h
      rw [put, if_neg hm, ih h]

end Members

namespace Json

/-- what stands in a value at a place, a way through objects -/
def at? : List Text → Json → Option Json
  | [], v => some v
  | key :: keys, v => (v.get? key).bind (at? keys)

variable {v w : Json} {key : Text} {place : List Text}

theorem get?_of_not_object (h : v.isObject = false) (key : Text) : v.get? key = none := by
  cases v with
  | object ms => cases h
  | _ => rfl

theorem at?_cons (h : v.get? key = some w) : v.at? (key :: place) = w.at? place := by
  rw [at?, h]
  rfl

theorem at?_cons_of_none (h : v.get? key = none) : v.at? (key :: place) = none := by
  rw [at?, h]
  rfl

/-! ## hidden places -/

/-- something other than an object is on the way to a place -/
def Hides (v : Json) (place : List Text) : Prop :=
  ∃ way w, way <+: place ∧ way ≠ place ∧ v.at? way = some w ∧ w.isObject = false

theorem hides_of_not_object (h : v.isObject = false) : v.Hides (key :: place) :=
  ⟨[], v, List.nil_prefix, nofun, rfl, h⟩

/-- what is on the way from an object is on the way from its member -/
theorem hides_cons_iff (hv : v.isObject = true) :
    v.Hides (key :: place) ↔ ∃ w, v.get? key = some w ∧ w.Hides place := by
  constructor
  · rintro ⟨way, x, hprefix, hne, hx, hplain⟩
    cases way with
    | nil =>
      obtain rfl := Option.some.inj hx
      rw [hv] at hplain
      cases hplain
    | cons first way =>
      obtain ⟨rfl, hway⟩ := List.cons_prefix_cons.mp hprefix
      obtain ⟨w, hw, hx⟩ := Option.bind_eq_some_iff.mp hx
      exact ⟨w, hw, way, x, hway, fun h => hne (h ▸ rfl), hx, hplain⟩
  · rintro ⟨w, hw, way, x, hprefix, hne, hx, hplain⟩
    exact ⟨key :: way, x, List.cons_prefix_cons.mpr ⟨rfl, hprefix⟩, fun h => hne (List.cons.inj h).2,
      (at?_cons hw).trans hx, hplain⟩

/-! ## unique keys -/

/-- no object at any place has a key twice -/
def UniqueKeys (v : Json) : Prop := ∀ place ms, v.at? place = some (.object ms) → (ms.map Prod.fst).Nodup

theorem UniqueKeys.nodup {ms : List (Text × Json)} (h : (Json.object ms).UniqueKeys) : (ms.map Prod.fst).Nodup :=
  h [] ms rfl

theorem UniqueKeys.of_get? (h : v.UniqueKeys) (hw : v.get? key = some w) : w.UniqueKeys :=
  fun place ms hms => h (key :: place) ms ((at?_cons hw).trans hms)

theorem uniqueKeys_object {ms : List (Text × Json)} (hd : (ms.map Prod.fst).Nodup)
    (h : ∀ m ∈ ms, m.2.UniqueKeys) : (Json.object ms).UniqueKeys := by
  intro place os hos
  cases place with
  | nil =>
    cases hos
    exact hd
  | cons key place =>
    obtain ⟨w, hw, hos⟩ := Option.bind_eq_some_iff.mp hos
    exact h (key, w) (Members.mem_of_lookup hw) place os hos

theorem uniqueKeys_of_not_object (h : v.isObject = false) : v.UniqueKeys := by
  intro place ms hms
  cases place with
  | nil =>
    cases hms
    cases h
  | cons key place =>
    rw [at?_cons_of_none (get?_of_not_object h key)] at hms
    cases hms

end Json
end DatabaseTypes
