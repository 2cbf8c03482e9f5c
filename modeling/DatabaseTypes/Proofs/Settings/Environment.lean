import DatabaseTypes.Proofs.Json.Place
import DatabaseTypes.Proofs.Settings.Leaf
import DatabaseTypes.Settings.Environment

/-!
# Settings from variables, one by one

If every variable of a group is for a single setting, the variables say about every setting what its own variable
says.

* `Environment.setting?`       what the variable of a setting says
* `Environment.IsSingle`       variables that are for single settings
* `Settings.fromVariables_single`   what they say about all groups
-/

namespace DatabaseTypes

open Yaml

/-- the variable of a setting -/
def Settings.Leaf.variableName (l : Settings.Leaf) : Text :=
  l.group.variableName ++ Environment.separator ++ l.key

/-! ## names that differ -/

namespace Environment

theorem nodup_folded (env : Environment) : (env.folded.map Prod.fst).Nodup := Members.nodup_ofPairs _

/-- what the variable of a setting says, if there is one -/
def setting? (env : Environment) (l : Settings.Leaf) : Option Value :=
  (env.folded.lookup l.variableName).bind fun t => (l.group.single [l.key] t).toOption

/-- variables of a group are for single settings, and have values that can be read and do not go too deep -/
def AreSingle (g : Settings.Group) (vars : Environment) : Prop :=
  ∀ name t path, (name, t) ∈ vars → Text.after? (g.variableName ++ separator) name = some path →
    path ∈ g.keys ∧ ∃ v, g.single [path] t = .ok v ∧ v.NestedWithin (Limit.depth - 1)

/-- all variables of settings are for single ones -/
structure IsSingle (env : Environment) : Prop where
  whole : ∀ g ∈ Settings.groups, env.folded.lookup g.variableName = none
  single : ∀ g ∈ Settings.groups, AreSingle g env.folded

end Environment

namespace Settings

/-! ## keys -/

theorem splitText_key {g : Group} (hg : g ∈ groups) {key : Text} (hkey : key ∈ g.keys) :
    Text.splitText Environment.separator key = [key] := by
  have hall : ∀ g ∈ groups, ∀ key ∈ g.keys, Text.splitText Environment.separator key = [key] := by
    decide +kernel
  exact hall g hg key hkey

theorem keyOf_key {g : Group} (hg : g ∈ groups) {key : Text} (hkey : key ∈ g.keys) :
    g.keyOf (.text key) = .text key := by
  have hall : ∀ g ∈ groups, ∀ key ∈ g.keys, (g.keys.find? fun k => k == key.lowered).getD key = key := by
    decide +kernel
  rw [Group.keyOf, hall g hg key hkey]

/-! ## variables of a group -/

section
variable {g : Group}

/-- what variables say one by one is put together one by one -/
def Group.explodedInto (g : Group) (es : List (Value × Value)) (v : Text × Text) :
    Except Fault (List (Value × Value)) :=
  match Text.after? (g.variableName ++ Environment.separator) v.1 with
  | none => .ok es
  | some path => do
    let names := Text.splitText Environment.separator path
    let value ← g.single names v.2
    pure (Entries.putUnder value names es)

theorem exploded_eq_foldlM (g : Group) (vars : Environment) :
    g.exploded vars = vars.foldlM g.explodedInto [] := rfl

theorem explodedInto_other {name : Text} (es : List (Value × Value)) (t : Text)
    (h : Text.after? (g.variableName ++ Environment.separator) name = none) :
    g.explodedInto es (name, t) = .ok es := by
  rw [Group.explodedInto, h]

theorem explodedInto_key {name t path : Text} {v : Value} (hg : g ∈ groups) (es : List (Value × Value))
    (h : Text.after? (g.variableName ++ Environment.separator) name = some path)
    (hpath : path ∈ g.keys) (hv : g.single [path] t = .ok v) :
    g.explodedInto es (name, t) = .ok (Entries.put (.text path) v es) := by
  rw [Group.explodedInto, h]
  dsimp only
  rw [splitText_key hg hpath, hv]
  rfl

/-- an entry of a group gives a single setting a value that does not go too deep -/
structure Group.IsEntry (g : Group) (e : Value × Value) : Prop where
  key : ∃ key ∈ g.keys, e.1 = .text key
  value : e.2.NestedWithin (Limit.depth - 1)

/-- the settings that variables give one by one are those that they are named for -/
theorem exploded_from (hg : g ∈ groups) {vars : Environment} (hnames : (vars.map Prod.fst).Nodup)
    (hsingle : Environment.AreSingle g vars) {es₀ : List (Value × Value)}
    (hd : Entries.Distinct es₀) (hkeys : ∀ e ∈ es₀, g.IsEntry e) :
    ∃ es, vars.foldlM g.explodedInto es₀ = .ok es ∧ Entries.Distinct es ∧ (∀ e ∈ es, g.IsEntry e)
      ∧ ∀ key ∈ g.keys, Entries.find? (.text key) es
        = match vars.lookup (g.variableName ++ Environment.separator ++ key) with
          | none => Entries.find? (.text key) es₀
          | some t => (g.single [key] t).toOption := by
  induction vars generalizing es₀ with
  | nil => exact ⟨es₀, rfl, hd, hkeys, fun _ _ => rfl⟩
  | cons v vars ih =>
    obtain ⟨name, t⟩ := v
    obtain ⟨hname, hrest⟩ := List.nodup_cons.mp hnames
    have hsingle' : Environment.AreSingle g vars :=
      fun name t path hv => hsingle name t path (List.mem_cons_of_mem _ hv)
    rw [List.foldlM_cons]
    cases hafter : Text.after? (g.variableName ++ Environment.separator) name with
    | none =>
      obtain ⟨es, hes, hdes, hkes, hfind⟩ := ih hrest hsingle' hd hkeys
      refine ⟨es, by rw [explodedInto_other es₀ t hafter]; exact hes, hdes, hkes, fun key hkey => ?_⟩
      have hne : g.variableName ++ Environment.separator ++ key ≠ name := by
        rintro rfl
        rw [Text.after?_append] at hafter
        cases hafter
      rw [hfind key hkey, List.lookup_cons, beq_eq_false_iff_ne.mpr hne]
    | some path =>
      obtain ⟨hpath, value, hvalue, hshallow⟩ := hsingle name t path List.mem_cons_self hafter
      have hname' := Text.eq_append_of_after? hafter
      have hkput : ∀ e ∈ Entries.put (.text path) value es₀, g.IsEntry e := by
        intro e he
        rcases Entries.mem_put he with he | ⟨hv, hk | ⟨u, hu⟩⟩
        · exact hkeys e he
        · exact ⟨⟨path, hpath, hk⟩, hv ▸ hshallow⟩
        · exact ⟨(hkeys (e.1, u) hu).key, hv ▸ hshallow⟩
      obtain ⟨es, hes, hdes, hkes, hfind⟩ := ih hrest hsingle' (hd.put (.text path) value) hkput
      refine ⟨es, by rw [explodedInto_key hg es₀ hafter hpath hvalue]; exact hes, hdes, hkes,
        fun key hkey => ?_⟩
      rw [hfind key hkey, List.lookup_cons]
      by_cases hk : key = path
      -- the variable of the setting itself, which is the only one of its name
      · subst hk
        rw [hname', Members.lookup_eq_none_iff.mpr (hname' ▸ hname), beq_self_eq_true]
        dsimp only
        rw [Entries.find?_put_self, hvalue]
        rfl
      · have hne : g.variableName ++ Environment.separator ++ key ≠ name := by
          intro e
          rw [hname'] at e
          exact hk (List.append_cancel_left e)
        rw [beq_eq_false_iff_ne.mpr hne, Entries.find?_put_of_ne fun e => hk (Value.text.inj e).symm]

/-- keys that mean themselves keep their values -/
theorem putAll_renamed (hg : g ∈ groups) {es : List (Value × Value)}
    (hkeys : ∀ e ∈ es, g.IsEntry e) :
    Entries.putAll (fun v _ => (.ok v : Except Fault Value)) es [] = .ok (g.renamed es) := by
  have hfold : ∀ found, Entries.putAll (fun v _ => (.ok v : Except Fault Value)) es found
      = .ok (es.foldl (fun found e => Entries.put (g.keyOf e.1) e.2 found) found) := by
    induction es with
    | nil => exact fun _ => rfl
    | cons e es ih =>
      intro found
      obtain ⟨key, hkey, he⟩ := (hkeys e List.mem_cons_self).key
      have hmeans : g.keyOf e.1 = e.1 := by rw [he, keyOf_key hg hkey]
      rw [List.foldl_cons, hmeans]
      exact ih (fun x hx => hkeys x (List.mem_cons_of_mem _ hx)) _
  exact hfold []

theorem find?_renamed (hg : g ∈ groups) {es : List (Value × Value)} (hd : Entries.Distinct es)
    (hkeys : ∀ e ∈ es, g.IsEntry e) (key : Text) :
    Entries.find? (.text key) (g.renamed es) = Entries.find? (.text key) es := by
  obtain ⟨hnone, hsome⟩ := Entries.find?_putAll hd (putAll_renamed hg hkeys) key
  cases hf : Entries.find? (.text key) es with
  | none => exact hnone hf
  | some v =>
    obtain ⟨w, hw, hfound⟩ := hsome v hf
    cases hw
    exact hfound

/-- the value of a group is a mapping without a key that occurs twice, and does not go too deep -/
structure IsShallowGroup (v : Value) : Prop where
  mapping : ∃ ms, v.opened = .mapping ms ∧ Entries.Distinct ms
  shallow : v.NestedWithin Limit.depth

/-- what variables that are for single settings say about a group -/
theorem group_fromVariables (hg : g ∈ groups) {vars : Environment}
    (hnames : (vars.map Prod.fst).Nodup) (hwhole : vars.lookup g.variableName = none)
    (hsingle : Environment.AreSingle g vars) :
    ∃ o, g.fromVariables vars = .ok o ∧ (∀ v, o = some v → IsShallowGroup v)
      ∧ ∀ key ∈ g.keys, (o.getD (.mapping [])).get? key
        = (vars.lookup (g.variableName ++ Environment.separator ++ key)).bind
          fun t => (g.single [key] t).toOption := by
  obtain ⟨es, hes, hd, hkeys, hfind⟩ := exploded_from hg hnames hsingle .nil nofun
  have hvalue : ∀ key ∈ g.keys, Entries.find? (.text key) es
      = (vars.lookup (g.variableName ++ Environment.separator ++ key)).bind
        fun t => (g.single [key] t).toOption := by
    intro key hkey
    rw [hfind key hkey]
    cases vars.lookup (g.variableName ++ Environment.separator ++ key) with
    | none => rfl
    | some t => rfl
  have hrun : g.fromVariables vars
      = .ok (if es.isEmpty then none else some (.mapping (g.renamed es))) := by
    rw [Group.fromVariables, hwhole]
    dsimp only
    rw [exploded_eq_foldlM, hes]
    rfl
  refine ⟨_, hrun, fun v hv => ?_, fun key hkey => ?_⟩
  · split at hv
    · cases hv
    · cases hv
      refine ⟨⟨_, rfl, Entries.distinct_putAll .nil (putAll_renamed hg hkeys)⟩, ?_⟩
      have hshallow : ∀ e ∈ g.renamed es, e.2.NestedWithin (Limit.depth - 1) := by
        refine Entries.values_putAll (List.forall_mem_nil _) (fun e he old value _ hvalue => ?_)
          (putAll_renamed hg hkeys)
        cases hvalue
        exact (hkeys e he).value
      exact Value.nestedWithin_mapping (Limit.depth - 1) hshallow
  · rw [← hvalue key hkey, ← find?_renamed hg hd hkeys]
    split
    · rename_i hempty
      rw [List.isEmpty_iff.mp hempty]
      rfl
    · rfl

end

/-! ## all groups -/

theorem groupValue_cons_self (name : Text) (v : Value) (es : List (Value × Value)) :
    groupValue name ((.text name, v) :: es) = v := by
  rw [groupValue, Entries.find?_cons_self, Option.getD_some]

theorem groupValue_cons_of_ne {name other : Text} (h : other ≠ name) (v : Value)
    (es : List (Value × Value)) : groupValue name ((.text other, v) :: es) = groupValue name es := by
  rw [groupValue, Entries.find?_cons_of_ne fun e => h (Value.text.inj e), groupValue]

theorem groupValue_of_ne {name : Text} {es : List (Value × Value)} (h : ∀ e ∈ es, e.1 ≠ .text name) :
    groupValue name es = .mapping [] := by
  induction es with
  | nil => rfl
  | cons e es ih =>
    rw [groupValue, Entries.find?_cons_of_ne (h e List.mem_cons_self)]
    exact ih fun x hx => h x (List.mem_cons_of_mem _ hx)

/-- entries say what the variables of some groups say, and nothing else -/
structure SaysOnly (env : Environment) (gs : List Group) (es : List (Value × Value)) : Prop where
  distinct : Entries.Distinct es
  named : ∀ e ∈ es, ∃ g ∈ gs, e.1 = .text g.name
  group : ∀ e ∈ es, IsShallowGroup e.2
  value : ∀ g ∈ gs, ∀ key ∈ g.keys, (groupValue g.name es).get? key = env.setting? ⟨g, key⟩

section
variable {env : Environment} {g : Group} {gs : List Group} {es : List (Value × Value)}
  (h : SaysOnly env gs es) (hname : g.name ∉ gs.map Group.name)
include h hname

theorem SaysOnly.key_ne : ∀ e ∈ es, e.1 ≠ .text g.name := by
  intro e he hkey
  obtain ⟨g', hg', he'⟩ := h.named e he
  rw [he'] at hkey
  exact hname (List.mem_map.mpr ⟨g', hg', Value.text.inj hkey⟩)

theorem SaysOnly.cons_none
    (hvalue : ∀ key ∈ g.keys, (Value.mapping []).get? key = env.setting? ⟨g, key⟩) :
    SaysOnly env (g :: gs) es where
  distinct := h.distinct
  named e he := by
    obtain ⟨g', hg', he'⟩ := h.named e he
    exact ⟨g', List.mem_cons_of_mem _ hg', he'⟩
  group := h.group
  value g' hg' key hkey := by
    rcases List.mem_cons.mp hg' with rfl | hg'
    · rw [groupValue_of_ne (h.key_ne hname)]
      exact hvalue key hkey
    · exact h.value g' hg' key hkey

theorem SaysOnly.cons_some {v : Value} (hv : IsShallowGroup v)
    (hvalue : ∀ key ∈ g.keys, v.get? key = env.setting? ⟨g, key⟩) :
    SaysOnly env (g :: gs) ((.text g.name, v) :: es) where
  distinct := by
    refine List.pairwise_cons.mpr ⟨fun e he => ?_, h.distinct⟩
    rw [Bool.eq_false_iff]
    intro hs
    exact h.key_ne hname e he (Value.text_sameKey_iff.mp hs).symm
  named e he := by
    rcases List.mem_cons.mp he with rfl | he
    · exact ⟨g, List.mem_cons_self, rfl⟩
    · obtain ⟨g', hg', he'⟩ := h.named e he
      exact ⟨g', List.mem_cons_of_mem _ hg', he'⟩
  group e he := by
    rcases List.mem_cons.mp he with rfl | he
    · exact hv
    · exact h.group e he
  value g' hg' key hkey := by
    rcases List.mem_cons.mp hg' with rfl | hg'
    · rw [groupValue_cons_self]
      exact hvalue key hkey
    · have hne : g.name ≠ g'.name := fun e => hname (List.mem_map.mpr ⟨g', hg', e.symm⟩)
      rw [groupValue_cons_of_ne hne]
      exact h.value g' hg' key hkey

end

/-- what the variables of some groups say -/
theorem fromVariables_from {env : Environment} (h : env.IsSingle) {gs : List Group} (hgs : gs ⊆ groups)
    (hnames : (gs.map Group.name).Nodup) :
    ∃ found, (gs.mapM fun g => do
        pure ((← g.fromVariables env.folded).map fun v => (Value.text g.name, v))) = .ok found
      ∧ SaysOnly env gs (found.filterMap id) := by
  induction gs with
  | nil => exact ⟨[], rfl, .nil, nofun, nofun, nofun⟩
  | cons g gs ih =>
    obtain ⟨hg, hsub⟩ := List.cons_subset.mp hgs
    obtain ⟨hname, hrest⟩ := List.nodup_cons.mp hnames
    obtain ⟨found, hfound, hsaid⟩ := ih hsub hrest
    obtain ⟨o, ho, hshallow, hovalue⟩ := group_fromVariables hg env.nodup_folded
      (h.whole g hg) (h.single g hg)
    refine ⟨o.map (fun v => (Value.text g.name, v)) :: found, ?_, ?_⟩
    · rw [List.mapM_cons, hfound, ho]
      rfl
    cases o with
    | none => exact hsaid.cons_none hname hovalue
    | some v => exact hsaid.cons_some hname (hshallow v rfl) hovalue

/-- variables that are for single settings say about each what its own variable says, and nothing else -/
theorem fromVariables_single {env : Environment} (h : env.IsSingle) :
    ∃ es, fromVariables env = .ok es ∧ Grouped es ∧ (∀ e ∈ es, e.2.NestedWithin Limit.depth)
      ∧ ∀ l ∈ Leaf.all, l.value? es = env.setting? l := by
  obtain ⟨found, hfound, hsaid⟩ := fromVariables_from h (List.Subset.refl groups) (by decide)
  refine ⟨found.filterMap id, ?_,
    ⟨hsaid.distinct, hsaid.named, fun e he => (hsaid.group e he).mapping⟩,
    fun e he => (hsaid.group e he).shallow, ?_⟩
  · rw [fromVariables, hfound]
    rfl
  · rw [Leaf.forall_all]
    exact hsaid.value

end Settings
end DatabaseTypes
