import DatabaseTypes.Proofs.Outcome
import DatabaseTypes.Yaml.Value

/-!
# Entries that override others

If no two of the overriding entries have one key, each of them is put once, and the value under a name comes
from them if they have one there.

* `Entries.Distinct`          no two entries have one key
* `Entries.find?_putAll`      the value under a name after entries are put among others
* `Entries.distinct_putAll`, `Entries.keys_putAll`, `Entries.values_putAll`   what stays true of all entries
* `Value.NestedWithin`        how deep mappings go
* `Value.exists_overriding`   mappings that do not go too deep override others
-/

namespace DatabaseTypes.Yaml

/-! ## names as keys -/

/-- a text is one key with itself alone -/
theorem Value.sameKey_text_iff {k : Value} {t : Text} : k.sameKey (.text t) = true ↔ k = .text t := by
  cases k with
  | text s => exact beq_iff_eq.trans ⟨congrArg Value.text, Value.text.inj⟩
  | _ => exact ⟨nofun, nofun⟩

theorem Value.text_sameKey_iff {k : Value} {t : Text} :
    (Value.text t).sameKey k = true ↔ .text t = k := by
  cases k with
  | text s => exact beq_iff_eq.trans ⟨congrArg Value.text, Value.text.inj⟩
  | _ => exact ⟨nofun, nofun⟩

namespace Entries

variable {α : Type} {es base : List (Value × α)} {k : Value} {v : α} {t : Text}

theorem find?_cons_self : find? (.text t) ((.text t, v) :: es) = some v := by
  rw [find?, if_pos (Value.sameKey_text_iff.mpr rfl)]

theorem find?_cons_of_ne (h : k ≠ .text t) : find? (.text t) ((k, v) :: es) = find? (.text t) es := by
  rw [find?, if_neg fun hs => h (Value.sameKey_text_iff.mp hs)]

theorem mem_of_find? {key : Value} (h : find? key es = some v) : ∃ k, (k, v) ∈ es := by
  induction es with
  | nil => cases h
  | cons e es ih =>
    rw [find?] at h
    split at h
    · cases h
      exact ⟨_, List.mem_cons_self⟩
    · obtain ⟨k, hk⟩ := ih h
      exact ⟨k, List.mem_cons_of_mem _ hk⟩

theorem mem_of_find?_text (h : find? (.text t) es = some v) : (.text t, v) ∈ es := by
  induction es with
  | nil => cases h
  | cons e es ih =>
    rw [find?] at h
    split at h
    · rename_i hk
      cases h
      rw [← Value.sameKey_text_iff.mp hk]
      exact List.mem_cons_self
    · exact List.mem_cons_of_mem _ (ih h)

/-! ## one entry -/

theorem find?_alter_self (f : Option α → α) :
    find? (.text t) (alter (.text t) f es) = some (f (find? (.text t) es)) := by
  induction es with
  | nil => exact find?_cons_self
  | cons e es ih =>
    obtain ⟨k, v⟩ := e
    rw [alter]
    by_cases hk : k = .text t
    · rw [if_pos (Value.sameKey_text_iff.mpr hk), hk, find?_cons_self, find?_cons_self]
    · rw [if_neg fun hs => hk (Value.sameKey_text_iff.mp hs), find?_cons_of_ne hk, ih,
        find?_cons_of_ne hk]

theorem find?_alter_of_ne (h : k ≠ .text t) (f : Option α → α) :
    find? (.text t) (alter k f es) = find? (.text t) es := by
  induction es with
  | nil => exact find?_cons_of_ne h
  | cons e es ih =>
    obtain ⟨l, v⟩ := e
    rw [alter]
    by_cases hs : l.sameKey k = true
    -- the entry that is altered has a key that is one with `k`, and so is not the name
    · have hl : l ≠ .text t := by
        rintro rfl
        exact h (Value.text_sameKey_iff.mp hs).symm
      rw [if_pos hs, find?_cons_of_ne hl, find?_cons_of_ne hl]
    · rw [if_neg hs]
      by_cases hl : l = .text t
      · rw [hl, find?_cons_self, find?_cons_self]
      · rw [find?_cons_of_ne hl, find?_cons_of_ne hl, ih]

theorem find?_put_self : find? (.text t) (put (.text t) v es) = some v := find?_alter_self _

theorem find?_put_of_ne (h : k ≠ .text t) : find? (.text t) (put k v es) = find? (.text t) es :=
  find?_alter_of_ne h _

/-- an entry that is put among others, or one of them under its key with another value -/
theorem mem_put {e : Value × α} (h : e ∈ put k v es) :
    e ∈ es ∨ e.2 = v ∧ (e.1 = k ∨ ∃ w, (e.1, w) ∈ es) := by
  induction es with
  | nil =>
    rw [put, alter, List.mem_singleton] at h
    rw [h]
    exact .inr ⟨rfl, .inl rfl⟩
  | cons x es ih =>
    obtain ⟨l, w⟩ := x
    rw [put, alter] at h
    split at h
    · rcases List.mem_cons.mp h with rfl | h
      · exact .inr ⟨rfl, .inr ⟨w, List.mem_cons_self⟩⟩
      · exact .inl (List.mem_cons_of_mem _ h)
    · rcases List.mem_cons.mp h with rfl | h
      · exact .inl List.mem_cons_self
      · rcases ih h with h | ⟨hv, hk | ⟨u, hu⟩⟩
        · exact .inl (List.mem_cons_of_mem _ h)
        · exact .inr ⟨hv, .inl hk⟩
        · exact .inr ⟨hv, .inr ⟨u, List.mem_cons_of_mem _ hu⟩⟩

/-! ## keys that differ -/

/-- no two entries have one key -/
def Distinct (es : List (Value × α)) : Prop := es.Pairwise fun a b => a.1.sameKey b.1 = false

theorem Distinct.find?_eq_none (h : Distinct ((.text t, v) :: es)) : find? (.text t) es = none := by
  induction es with
  | nil => rfl
  | cons e es ih =>
    obtain ⟨k, w⟩ := e
    have hk : k ≠ .text t := by
      rintro rfl
      have := (List.pairwise_cons.mp h).1 _ List.mem_cons_self
      rw [Value.text_sameKey_iff.mpr rfl] at this
      cases this
    rw [find?_cons_of_ne hk]
    exact ih (h.sublist (.cons_cons _ (.cons _ (.refl es))))

theorem Distinct.find?_of_mem (h : Distinct es) (he : (.text t, v) ∈ es) : find? (.text t) es = some v := by
  induction es with
  | nil => cases he
  | cons e es ih =>
    obtain ⟨hne, hes⟩ := List.pairwise_cons.mp h
    rcases List.mem_cons.mp he with rfl | he
    · exact find?_cons_self
    · refine (find?_cons_of_ne fun hk => ?_).trans (ih hes he)
      have hsame := hne _ he
      rw [hk, Value.text_sameKey_iff.mpr rfl] at hsame
      cases hsame

theorem Distinct.put (h : Distinct es) (k : Value) (v : α) : Distinct (put k v es) := by
  induction es with
  | nil => exact List.pairwise_singleton _ _
  | cons e es ih =>
    obtain ⟨l, w⟩ := e
    obtain ⟨hl, hes⟩ := List.pairwise_cons.mp h
    rw [Entries.put, alter]
    by_cases hs : l.sameKey k = true
    · rw [if_pos hs]
      exact List.pairwise_cons.mpr ⟨hl, hes⟩
    · rw [if_neg hs]
      refine List.pairwise_cons.mpr ⟨fun e he => ?_, ih hes⟩
      rcases mem_put he with he | ⟨_, hk | ⟨u, hu⟩⟩
      · exact hl e he
      · rw [hk]
        exact Bool.eq_false_iff.mpr hs
      · exact hl (e.1, u) hu

/-! ## all entries -/

section
variable {ε : Type} {f : Value → Option Value → Except ε Value} {entries base es : List (Value × Value)}

/-- the value under a name comes from the entries that are put, or is the one that was there -/
theorem find?_putAll (hd : Distinct entries) (h : putAll f entries base = .ok es) (t : Text) :
    (find? (.text t) entries = none → find? (.text t) es = find? (.text t) base)
      ∧ ∀ v, find? (.text t) entries = some v →
        ∃ w, f v (find? (.text t) base) = .ok w ∧ find? (.text t) es = some w := by
  induction entries generalizing base with
  | nil =>
    cases h
    exact ⟨fun _ => rfl, nofun⟩
  | cons e entries ih =>
    obtain ⟨k, v⟩ := e
    rw [putAll] at h
    split at h
    · cases h
    · rename_i value hvalue
      obtain ⟨hnone, hsome⟩ := ih (List.pairwise_cons.mp hd).2 h
      by_cases hk : k = .text t
      · subst hk
        rw [find?_cons_self]
        refine ⟨nofun, fun w hw => ?_⟩
        cases hw
        rw [hnone hd.find?_eq_none, find?_put_self]
        exact ⟨value, hvalue, rfl⟩
      · rw [find?_cons_of_ne hk]
        rw [find?_put_of_ne hk] at hnone hsome
        exact ⟨hnone, hsome⟩

theorem distinct_putAll (hd : Distinct base) (h : putAll f entries base = .ok es) : Distinct es := by
  induction entries generalizing base with
  | nil =>
    cases h
    exact hd
  | cons e entries ih =>
    rw [putAll] at h
    split at h
    · cases h
    · exact ih (hd.put _ _) h

theorem keys_putAll {P : Value → Prop} (hbase : ∀ e ∈ base, P e.1) (hentries : ∀ e ∈ entries, P e.1)
    (h : putAll f entries base = .ok es) : ∀ e ∈ es, P e.1 := by
  induction entries generalizing base with
  | nil =>
    cases h
    exact hbase
  | cons e entries ih =>
    rw [putAll] at h
    split at h
    · cases h
    · refine ih (fun x hx => ?_) (fun x hx => hentries x (List.mem_cons_of_mem _ hx)) h
      rcases mem_put hx with hx | ⟨_, hk | ⟨u, hu⟩⟩
      · exact hbase x hx
      · rw [hk]
        exact hentries e List.mem_cons_self
      · exact hbase (x.1, u) hu

/-- what is true of all values that were there stays true of all values, if it does where one is put -/
theorem values_putAll {P : Value → Prop} (hbase : ∀ e ∈ base, P e.2)
    (hput : ∀ e ∈ entries, ∀ old value, (∀ o, old = some o → P o) → f e.2 old = .ok value → P value)
    (h : putAll f entries base = .ok es) : ∀ e ∈ es, P e.2 := by
  induction entries generalizing base with
  | nil =>
    cases h
    exact hbase
  | cons e entries ih =>
    rw [putAll] at h
    split at h
    · cases h
    · rename_i value hvalue
      refine ih (fun x hx => ?_) (fun x hx => hput x (List.mem_cons_of_mem _ hx)) h
      rcases mem_put hx with hx | ⟨hv, _⟩
      · exact hbase x hx
      · rw [hv]
        refine hput e List.mem_cons_self _ value (fun o ho => ?_) hvalue
        obtain ⟨k, hk⟩ := mem_of_find? ho
        exact hbase (k, o) hk

/-- the keys that were there are not moved -/
theorem keys_prefix_put (k v : Value) (es : List (Value × Value)) :
    es.map Prod.fst <+: (put k v es).map Prod.fst := by
  induction es with
  | nil => exact List.nil_prefix
  | cons e es ih =>
    rw [put, alter]
    split
    · exact List.prefix_rfl
    · exact (List.prefix_cons_inj _).mpr ih

theorem keys_prefix_putAll (h : putAll f entries base = .ok es) : base.map Prod.fst <+: es.map Prod.fst := by
  induction entries generalizing base with
  | nil =>
    cases h
    exact List.prefix_rfl
  | cons e entries ih =>
    rw [putAll] at h
    split at h
    · cases h
    · exact (keys_prefix_put _ _ base).trans (ih h)

theorem exists_putAll (h : ∀ e ∈ entries, ∀ old, ∃ value, f e.2 old = .ok value) :
    ∃ es, putAll f entries base = .ok es := by
  induction entries generalizing base with
  | nil => exact ⟨base, rfl⟩
  | cons e entries ih =>
    obtain ⟨value, hvalue⟩ := h e List.mem_cons_self (find? e.1 base)
    rw [putAll, hvalue]
    exact ih fun x hx => h x (List.mem_cons_of_mem _ hx)

/-- entries under names can be put if each of them can be put in place of what is there -/
theorem exists_putAll_of_find? (hd : Distinct entries) (htexts : ∀ e ∈ entries, e.1.isText = true)
    (h : ∀ t v, find? (.text t) entries = some v → ∃ x, f v (find? (.text t) base) = .ok x) :
    ∃ es, putAll f entries base = .ok es := by
  induction entries generalizing base with
  | nil => exact ⟨base, rfl⟩
  | cons e entries ih =>
    obtain ⟨k, v⟩ := e
    obtain ⟨t, rfl⟩ : ∃ t, k = .text t := by
      have hk := htexts _ List.mem_cons_self
      cases k with
      | text t => exact ⟨t, rfl⟩
      | _ => cases hk
    obtain ⟨x, hx⟩ := h t v find?_cons_self
    rw [putAll, hx]
    refine ih (List.pairwise_cons.mp hd).2 (fun e he => htexts e (List.mem_cons_of_mem _ he)) fun u y hu => ?_
    -- what is put under a name changes nothing under the other names
    have hne : (Value.text t) ≠ .text u := by
      rintro ⟨⟩
      rw [hd.find?_eq_none] at hu
      cases hu
    rw [find?_put_of_ne hne]
    exact h u y ((find?_cons_of_ne hne).trans hu)

end

end Entries

/-! ## mappings -/

namespace Value

theorem opened_mapping (es : List (Value × Value)) : (Value.mapping es).opened = .mapping es := rfl

/-- is the value a mapping? -/
def isMapping (v : Value) : Bool :=
  match v.opened with
  | .mapping _ => true
  | _ => false

theorem isMapping_iff {v : Value} : v.isMapping = true ↔ ∃ es, v.opened = .mapping es := by
  unfold isMapping
  split
  · rename_i es h
    exact ⟨fun _ => ⟨es, h⟩, fun _ => rfl⟩
  · rename_i h
    exact ⟨nofun, fun ⟨es, hes⟩ => absurd hes (h es)⟩

/-- a mapping is written out, or holds itself -/
theorem mapping_or_knot {v : Value} (h : v.isMapping = true) :
    (∃ es, v = .mapping es) ∨ ∃ number body, v = .knot number body := by
  cases v with
  | mapping es => exact .inl ⟨es, rfl⟩
  | knot number body => exact .inr ⟨number, body, rfl⟩
  | _ => cases h

/-- mappings within the value, itself among them, are nested no deeper than that -/
def NestedWithin : Nat → Value → Prop
  | 0, v => v.isMapping = false
  | depth + 1, v => ∀ es, v.opened = .mapping es → ∀ e ∈ es, NestedWithin depth e.2

theorem nestedWithin_mapping (depth : Nat) {es : List (Value × Value)}
    (h : ∀ e ∈ es, NestedWithin depth e.2) : NestedWithin (depth + 1) (.mapping es) := by
  rintro _ ⟨⟩
  exact h

theorem nestedWithin_of_isMapping {v : Value} (h : v.isMapping = false) (depth : Nat) :
    NestedWithin depth v := by
  cases depth with
  | zero => exact h
  | succ depth =>
    intro es hes
    rw [isMapping_iff.mpr ⟨es, hes⟩] at h
    cases h

theorem mappings?_eq_some_iff {v : Value} {old : Option Value}
    {p : List (Value × Value) × List (Value × Value)} : mappings? v old = some p
      ↔ v.opened = .mapping p.1 ∧ ∃ o, old = some o ∧ o.opened = .mapping p.2 := by
  unfold mappings?
  constructor
  · intro h
    split at h
    · rename_i entries base hv ho
      cases h
      obtain ⟨o, rfl, hopened⟩ := Option.map_eq_some_iff.mp ho
      exact ⟨hv, o, rfl, hopened⟩
    · cases h
  · rintro ⟨hv, o, rfl, ho⟩
    rw [hv, Option.map_some, ho]

theorem mappings?_eq_none {v : Value} {old : Option Value}
    (h : v.isMapping = false ∨ ∀ o, old = some o → o.isMapping = false) : mappings? v old = none := by
  rw [Option.eq_none_iff_forall_ne_some]
  rintro p hp
  obtain ⟨hv, o, ho, hom⟩ := mappings?_eq_some_iff.mp hp
  rcases h with h | h
  · rw [isMapping_iff.mpr ⟨_, hv⟩] at h
    cases h
  · have := h o ho
    rw [isMapping_iff.mpr ⟨_, hom⟩] at this
    cases this

/-! ## overriding -/

/-- what is no mapping, or overrides none, stays as it is -/
theorem overriding_eq_self {v : Value} {old : Option Value}
    (h : v.isMapping = false ∨ ∀ o, old = some o → o.isMapping = false) (depth : Nat) :
    overriding depth v old = .ok v := by
  cases depth with
  | zero => rw [overriding, mappings?_eq_none h]; rfl
  | succ depth => rw [overriding, mappings?_eq_none h]

theorem overriding_none (depth : Nat) (v : Value) : overriding depth v none = .ok v :=
  overriding_eq_self (.inr fun _ h => by cases h) depth

/-- a mapping overrides a mapping entry by entry -/
theorem overriding_mapping {v o : Value} {entries base : List (Value × Value)}
    (hv : v.opened = .mapping entries) (ho : o.opened = .mapping base) (depth : Nat) :
    overriding (depth + 1) v (some o)
      = (Entries.putAll (overriding depth) entries base).map .mapping := by
  have hm : mappings? v (some o) = some (entries, base) :=
    mappings?_eq_some_iff.mpr ⟨hv, o, rfl, ho⟩
  rw [overriding, hm]

/-- a mapping stays a mapping -/
theorem isMapping_overriding {depth : Nat} {v w : Value} {old : Option Value}
    (h : overriding depth v old = .ok w) : w.isMapping = v.isMapping := by
  cases depth with
  | zero =>
    rw [overriding] at h
    split at h
    · cases h
    · cases h
      rfl
  | succ depth =>
    rw [overriding] at h
    split at h
    · rename_i entries base hm
      obtain ⟨es, _, rfl⟩ := Outcome.map_eq_ok_iff.mp h
      rw [isMapping_iff.mpr ⟨_, (mappings?_eq_some_iff.mp hm).1⟩]
      rfl
    · cases h
      rfl

/-- mappings that do not go too deep override others -/
theorem exists_overriding {depth : Nat} {v : Value} (h : NestedWithin depth v) (old : Option Value) :
    ∃ w, overriding depth v old = .ok w := by
  induction depth generalizing v old with
  | zero => exact ⟨v, overriding_eq_self (.inl h) 0⟩
  | succ depth ih =>
    rw [overriding]
    split
    · rename_i entries base hm
      obtain ⟨es, hes⟩ : ∃ es, Entries.putAll (overriding depth) entries base = .ok es :=
        Entries.exists_putAll fun e he old => ih (h entries (mappings?_eq_some_iff.mp hm).1 e he) old
      exact ⟨.mapping es, by rw [hes]; rfl⟩
    · exact ⟨v, rfl⟩

/-- what is left goes no deeper than the deeper of the two -/
theorem nestedWithin_overriding {depth bound : Nat} {v w : Value} {old : Option Value}
    (hv : NestedWithin bound v) (hold : ∀ o, old = some o → NestedWithin bound o)
    (h : overriding depth v old = .ok w) : NestedWithin bound w := by
  induction depth generalizing bound v w old with
  | zero =>
    rw [overriding] at h
    split at h
    · cases h
    · cases h
      exact hv
  | succ depth ih =>
    rw [overriding] at h
    split at h
    · rename_i entries base hm
      obtain ⟨hopened, o, ho, hbase⟩ := mappings?_eq_some_iff.mp hm
      obtain ⟨es, hes, rfl⟩ := Outcome.map_eq_ok_iff.mp h
      cases bound with
      | zero =>
        rw [NestedWithin, isMapping_iff.mpr ⟨_, hopened⟩] at hv
        cases hv
      | succ bound =>
        rintro _ ⟨⟩
        refine Entries.values_putAll (hold o ho base hbase) (fun e he old value hold hvalue => ?_) hes
        exact ih (hv entries hopened e he) hold hvalue
    · cases h
      exact hv

end Value

end DatabaseTypes.Yaml
