import DatabaseTypes.Proofs.Settings.Reported

/-!
# Settings that are mixed

Entries that override others are mixed with them group by group: a group that both have holds the settings of both,
those of the overriding one in front.  What settings have a value afterwards, and where a mapping among these values
comes from, does not hang on what the groups hold.

* `Settings.Mixed`                    what becomes of a group
* `Settings.Gives.overriding`         a single value stays as it is given
* `Settings.Gives.of_overriding`      a mapping comes from what is overridden
* `Settings.ordered_of_fromVariables` variables give groups, and texts as names in them
* `Settings.named_of_ofMerged`        what settings are taken from has no names but those of groups
-/

namespace DatabaseTypes.Settings

open Yaml

/-! ## entries that override others -/

section
variable {entries base es : List (Value × Value)}

/-- no key stands twice, neither among the entries nor in a mapping that one of them is -/
structure Tidy (es : List (Value × Value)) : Prop where
  distinct : Entries.Distinct es
  mapping : ∀ e ∈ es, ∀ ms, e.2.opened = .mapping ms → Entries.Distinct ms

theorem Tidy.overriding (h : Tidy entries) (hbase : Tidy base) (hes : Entries.overriding entries base = .ok es) :
    Tidy es where
  distinct := Entries.distinct_putAll hbase.distinct hes
  mapping := by
    refine Entries.values_putAll (P := fun v => ∀ ms, v.opened = .mapping ms → Entries.Distinct ms) hbase.mapping
      (fun e he old value hold hvalue => ?_) hes
    rw [← depth_pred_succ, Value.overriding] at hvalue
    split at hvalue
    · rename_i ms os hmappings
      obtain ⟨_, o, ho, hos⟩ := Value.mappings?_eq_some_iff.mp hmappings
      obtain ⟨ms', hms', rfl⟩ := Outcome.map_eq_ok_iff.mp hvalue
      rintro _ ⟨⟩
      exact Entries.distinct_putAll (hold o ho os hos) hms'
    · rw [← Except.ok.inj hvalue]
      exact h.mapping e he

/-- what becomes of the value under a name when entries override others: that of the entries counts, if they have
one, and two mappings are mixed -/
inductive Mixed (entries base es : List (Value × Value)) (group : Text) : Prop
  | kept (hentries : Entries.find? (.text group) entries = none)
    (hes : Entries.find? (.text group) es = Entries.find? (.text group) base)
  | replaced {v : Value} (hentries : Entries.find? (.text group) entries = some v)
    (hes : Entries.find? (.text group) es = some v)
    (hself : v.isMapping = false ∨ ∀ o, Entries.find? (.text group) base = some o → o.isMapping = false)
  | mixed {v o w : Value} (hentries : Entries.find? (.text group) entries = some v)
    (hbase : Entries.find? (.text group) base = some o) (hes : Entries.find? (.text group) es = some w)
    (hmapping : v.isMapping = true ∧ w.isMapping = true)
    (hnone : ∀ key, v.get? key = none → w.get? key = o.get? key)
    (hsome : ∀ key x, v.get? key = some x →
      ∃ y, Value.overriding (Limit.depth - 1) x (o.get? key) = .ok y ∧ w.get? key = some y)

theorem mixed_overriding (htidy : Tidy entries) (hes : Entries.overriding entries base = .ok es) (group : Text) :
    Mixed entries base es group := by
  obtain ⟨hnone, hsome⟩ := Entries.find?_putAll htidy.distinct hes group
  cases hf : Entries.find? (.text group) entries with
  | none => exact .kept hf (hnone hf)
  | some v =>
    obtain ⟨w, hw, hfound⟩ := hsome v hf
    by_cases hself : v.isMapping = false ∨ ∀ o, Entries.find? (.text group) base = some o → o.isMapping = false
    · rw [Value.overriding_eq_self hself] at hw
      rw [← Except.ok.inj hw] at hfound
      exact .replaced hf hfound hself
    · rw [not_or, Bool.not_eq_false] at hself
      obtain ⟨hv, hold⟩ := hself
      simp only [not_forall, Bool.not_eq_false] at hold
      obtain ⟨o, ho, hmapping⟩ := hold
      obtain ⟨ms, hms⟩ := Value.isMapping_iff.mp hv
      obtain ⟨os, hos⟩ := Value.isMapping_iff.mp hmapping
      have hmixed := get?_overriding_mapping hms (htidy.mapping _ (Entries.mem_of_find?_text hf) ms hms) hos (by rwa [ho, ← depth_pred_succ] at hw)
      exact .mixed hf ho hfound ⟨hv, (Value.isMapping_overriding hw).trans hv⟩ (fun key => (hmixed key).1)
        fun key => (hmixed key).2

/-- a setting has a value in entries -/
def Gives (es : List (Value × Value)) (group key : Text) (x : Value) : Prop :=
  ∃ v, Entries.find? (.text group) es = some v ∧ v.isMapping = true ∧ v.get? key = some x

/-- a setting whose value is no mapping keeps that value, whatever is overridden -/
theorem Gives.overriding {group key : Text} {x : Value} (h : Gives entries group key x) (htidy : Tidy entries)
    (hplain : x.isMapping = false) (hes : Entries.overriding entries base = .ok es) : Gives es group key x := by
  obtain ⟨v, hv, hmapping, hx⟩ := h
  cases mixed_overriding htidy hes group with
  | kept hentries => exact absurd (hentries.symm.trans hv) nofun
  | replaced hentries hfound =>
    obtain rfl := Option.some.inj (hentries.symm.trans hv)
    exact ⟨_, hfound, hmapping, hx⟩
  | mixed hentries _ hfound hmappings _ hsome =>
    obtain rfl := Option.some.inj (hentries.symm.trans hv)
    obtain ⟨y, hy, hget⟩ := hsome key x hx
    rw [Value.overriding_eq_self (.inl hplain)] at hy
    exact ⟨_, hfound, hmappings.2, hget.trans (congrArg some (Except.ok.inj hy).symm)⟩

/-- entries under texts -/
def Textual (es : List (Value × Value)) : Prop := ∀ e ∈ es, e.1.isText = true

/-- entries under the names of groups -/
def Named (es : List (Value × Value)) : Prop := ∀ e ∈ es, ∃ g ∈ groups, e.1 = .text g.name

/-- the keys of mappings are texts -/
def Spelled (es : List (Value × Value)) : Prop := ∀ e ∈ es, ∀ ms, e.2.opened = .mapping ms → Textual ms

theorem Spelled.overriding (h : Spelled entries) (hbase : Spelled base)
    (hes : Entries.overriding entries base = .ok es) : Spelled es := by
  refine Entries.values_putAll (P := fun v => ∀ ms, v.opened = .mapping ms → Textual ms) hbase
    (fun e he old value hold hvalue => ?_) hes
  rw [← depth_pred_succ, Value.overriding] at hvalue
  split at hvalue
  · rename_i ms os hmappings
    obtain ⟨hms, o, ho, hos⟩ := Value.mappings?_eq_some_iff.mp hmappings
    obtain ⟨ms', hms', rfl⟩ := Outcome.map_eq_ok_iff.mp hvalue
    rintro _ ⟨⟩
    exact Entries.keys_putAll (P := fun k => k.isText = true) (hold o ho os hos) (h e he ms hms) hms'
  · rw [← Except.ok.inj hvalue]
    exact h e he

theorem tidy_of_fileSays {files : Files} {here : Location} {path : Path} (h : fileSays files here path = .ok es) :
    Tidy es where
  distinct := (orderly_fileSays h).1
  mapping e he _ hms := (((orderly_fileSays h).2 e he).mapping hms).1

theorem Grouped.tidy (h : Grouped es) : Tidy es where
  distinct := h.distinct
  mapping e he ms hms := by
    obtain ⟨ms', hms', hd⟩ := h.mapping e he
    rw [hms] at hms'
    cases hms'
    exact hd

end

/-! ## mappings in place of settings -/

section
variable {entries base es : List (Value × Value)} {group key : Text} {w : Value}

theorem isMapping_of_get? {v : Value} (h : v.get? key = some w) : v.isMapping = true := by
  unfold Value.get? at h
  split at h
  · rename_i ms hms
    exact Value.isMapping_iff.mpr ⟨ms, hms⟩
  · cases h

/-- a mapping in place of a setting comes from what is overridden, if what overrides it gives none there -/
theorem Gives.of_overriding (h : Gives es group key w) (hmapping : w.isMapping = true) (htidy : Tidy entries)
    (hplain : ∀ x, Gives entries group key x → x.isMapping = false)
    (hes : Entries.overriding entries base = .ok es) : Gives base group key w := by
  obtain ⟨v, hv, hvmapping, hw⟩ := h
  have hno {v : Value} (hentries : Entries.find? (.text group) entries = some v) : v.get? key ≠ some w := by
    intro hw
    rw [hplain w ⟨v, hentries, isMapping_of_get? hw, hw⟩] at hmapping
    cases hmapping
  cases mixed_overriding htidy hes group with
  | kept _ hkept => exact ⟨v, hkept.symm.trans hv, hvmapping, hw⟩
  | replaced hentries hfound =>
    obtain rfl := Option.some.inj (hfound.symm.trans hv)
    exact absurd hw (hno hentries)
  | @mixed u o _ hentries hbase hfound _ hnone hsome =>
    obtain rfl := Option.some.inj (hfound.symm.trans hv)
    cases hu : u.get? key with
    | none =>
      rw [hnone key hu] at hw
      exact ⟨o, hbase, isMapping_of_get? hw, hw⟩
    | some x =>
      obtain ⟨y, hy, hget⟩ := hsome key x hu
      rw [Value.overriding_eq_self (.inl (hplain x ⟨u, hentries, isMapping_of_get? hu, hu⟩))] at hy
      rw [hw, ← Except.ok.inj hy] at hget
      exact absurd (hu.trans hget.symm) (hno hentries)

/-- what is overridden stays in place where nothing is given -/
theorem Gives.kept (h : Gives base group key w) (htidy : Tidy entries)
    (hmapping : ∀ v, Entries.find? (.text group) entries = some v → v.isMapping = true ∧ v.get? key = none)
    (hes : Entries.overriding entries base = .ok es) : Gives es group key w := by
  obtain ⟨o, ho, homapping, hw⟩ := h
  cases mixed_overriding htidy hes group with
  | kept _ hkept => exact ⟨o, hkept.trans ho, homapping, hw⟩
  | @replaced v hentries hfound hself =>
    rcases hself with hself | hself
    · rw [(hmapping v hentries).1] at hself
      cases hself
    · rw [hself o ho] at homapping
      cases homapping
  | mixed hentries hbase hfound hmappings hnone _ =>
    obtain rfl := Option.some.inj (hbase.symm.trans ho)
    exact ⟨_, hfound, hmappings.2, (hnone key (hmapping _ hentries).2).trans hw⟩

end

/-! ## names of groups -/

theorem Named.overriding {entries base es : List (Value × Value)} (h : Named entries) (hbase : Named base)
    (hes : Entries.overriding entries base = .ok es) : Named es :=
  Entries.keys_putAll (P := fun k => ∃ g ∈ groups, k = .text g.name) hbase h hes

/-- what is overridden has names of groups if what is left has them -/
theorem Named.of_overriding {entries base es : List (Value × Value)} (h : Named es)
    (hes : Entries.overriding entries base = .ok es) : Named base := by
  intro e he
  obtain ⟨e', he', heq⟩ := List.mem_map.mp ((Entries.keys_prefix_putAll hes).subset (List.mem_map_of_mem he))
  rw [← heq]
  exact h e' he'

/-- only entries under the names of groups give settings -/
theorem named_of_ofMerged {homes : Path.Homes} {es : List (Value × Value)} {s : Settings}
    (h : ofMerged homes es = .ok s) : Named es ∧ check homes (.mapping es) = .good s := by
  unfold ofMerged at h
  split at h
  · cases h
  · rename_i htexts
    obtain ⟨s', hs', hreread⟩ := Outcome.bind_eq_ok_iff.mp h
    have hgood : checkAll homes es = .good s' := by
      cases hc : checkAll homes es with
      | good a =>
        rw [hc] at hs'
        cases hs'
        rfl
      | bad issues =>
        rw [hc] at hs'
        cases hs'
      | broken fault =>
        rw [hc] at hs'
        cases hs'
    have hcheck := check_of_checkAll hgood
    obtain rfl : s' = s := Except.ok.inj ((reread_of_check hcheck).symm.trans hreread)
    refine ⟨fun e he => ?_, hcheck⟩
    have hknown : unknownIssues es = [] := by
      rw [checkAll, Verdict.map_eq_good_iff] at hgood
      obtain ⟨p, hp, _⟩ := hgood
      have hp := (Verdict.both_eq_good_iff.mp hp).2
      split at hp
      · assumption
      · cases hp
    obtain ⟨k, v⟩ := e
    cases k with
    | text name =>
      have hname := List.filterMap_eq_nil_iff.mp hknown _ he
      dsimp only at hname
      split at hname
      · rename_i hany
        obtain ⟨g, hg, h⟩ := List.any_eq_true.mp hany
        exact ⟨g, hg, congrArg Value.text (beq_iff_eq.mp h).symm⟩
      · cases hname
    | _ =>
      refine absurd (List.any_eq_true.mpr ⟨_, he, rfl⟩) htexts

/-! ## variables -/

theorem Group.distinct_renamed (g : Group) (es : List (Value × Value)) : Entries.Distinct (g.renamed es) := by
  have hfold (found : List (Value × Value)) (h : Entries.Distinct found) :
      Entries.Distinct (es.foldl (fun found e => Entries.put (g.keyOf e.1) e.2 found) found) := by
    induction es generalizing found with
    | nil => exact h
    | cons e es ih => exact ih _ (h.put _ _)
  exact hfold [] .nil

theorem Textual.alter {es : List (Value × Value)} (h : Textual es) (t : Text) (f : Option Value → Value) :
    Textual (Entries.alter (.text t) f es) := by
  induction es with
  | nil => exact List.forall_mem_singleton.mpr rfl
  | cons e es ih =>
    obtain ⟨he, hes⟩ := List.forall_mem_cons.mp h
    rw [Entries.alter]
    split
    · exact List.forall_mem_cons.mpr ⟨he, hes⟩
    · exact List.forall_mem_cons.mpr ⟨he, ih hes⟩

theorem Textual.putUnder {es : List (Value × Value)} (h : Textual es) (value : Value) (names : List Text) :
    Textual (Entries.putUnder value names es) := by
  cases names with
  | nil => exact h
  | cons name names =>
    cases names with
    | nil => exact h.alter name _
    | cons other names => exact h.alter name _

theorem Group.textual_exploded {g : Group} {vars : Environment} {es : List (Value × Value)}
    (h : g.exploded vars = .ok es) : Textual es := by
  have hfold {vars : Environment} {found es : List (Value × Value)} (hfound : Textual found)
      (h : vars.foldlM g.explodedInto found = .ok es) : Textual es := by
    induction vars generalizing found with
    | nil =>
      cases h
      exact hfound
    | cons v vars ih =>
      obtain ⟨found', hfound', h⟩ := Outcome.bind_eq_ok_iff.mp h
      refine ih ?_ h
      unfold explodedInto at hfound'
      split at hfound'
      · rw [← Except.ok.inj hfound']
        exact hfound
      · obtain ⟨value, _, h⟩ := Outcome.bind_eq_ok_iff.mp hfound'
        rw [← Except.ok.inj h]
        exact hfound.putUnder _ _
  exact hfold (List.forall_mem_nil _) h

theorem Group.textual_renamed {g : Group} {es : List (Value × Value)} (h : Textual es) : Textual (g.renamed es) := by
  have hfold (found : List (Value × Value)) (hfound : Textual found) :
      Textual (es.foldl (fun found e => Entries.put (g.keyOf e.1) e.2 found) found) := by
    induction es generalizing found with
    | nil => exact hfound
    | cons e es ih =>
      obtain ⟨k, v⟩ := e
      obtain ⟨he, hes⟩ := List.forall_mem_cons.mp h
      refine ih hes _ ?_
      cases k with
      | text t => exact hfound.alter _ _
      | _ => cases he
  exact hfold [] nofun

theorem Group.exists_of_decoded {g : Group} {t : Text} {v : Value} (h : g.decoded t = .ok v) :
    ∃ w, v = .ofJson w := by
  unfold decoded at h
  split at h
  · exact ⟨_, (Except.ok.inj h).symm⟩
  · cases h
  · cases h
  · cases h

theorem opened_ofJson (v : Json) : (Value.ofJson v).opened = .ofJson v := by
  cases v <;> rfl

theorem Group.mapping_of_fromVariables {g : Group} {vars : Environment} {v : Value}
    (h : g.fromVariables vars = .ok (some v)) {ms : List (Value × Value)} (hms : v.opened = .mapping ms) :
    Entries.Distinct ms ∧ Textual ms := by
  have hmapping {es : List (Value × Value)} (h : v = .mapping (g.renamed es)) (hes : Textual es) :
      Entries.Distinct ms ∧ Textual ms := by
    rw [h] at hms
    cases hms
    exact ⟨g.distinct_renamed es, textual_renamed hes⟩
  unfold fromVariables at h
  split at h
  · obtain ⟨es, hes, h⟩ := Outcome.bind_eq_ok_iff.mp h
    have h := Except.ok.inj h
    split at h
    · cases h
    · exact hmapping (Option.some.inj h).symm (textual_exploded hes)
  · rename_i t _
    obtain ⟨w, hw, h⟩ := Outcome.bind_eq_ok_iff.mp h
    obtain ⟨u, rfl⟩ := exists_of_decoded hw
    split at h
    · cases h
    · rename_i base hbase
      obtain ⟨es, hes, h⟩ := Outcome.bind_eq_ok_iff.mp h
      obtain ⟨es', hes', h⟩ := Outcome.bind_eq_ok_iff.mp h
      refine hmapping (Option.some.inj (Except.ok.inj h)).symm ?_
      have htexts : Textual base := by
        cases u with
        | object members =>
          cases hbase
          exact isText_ofJsonMembers members
        | _ => cases hbase
      exact Entries.keys_putAll (P := fun k => k.isText = true) htexts (textual_exploded hes)
        (Outcome.mapError_eq_ok_iff.mp hes')
    · rename_i hother
      rw [← Option.some.inj (Except.ok.inj h), opened_ofJson] at hms
      exact absurd hms (hother ms)

/-- entries of settings as variables give them: groups, each at most once, and texts as keys in them -/
structure Ordered (es : List (Value × Value)) : Prop where
  tidy : Tidy es
  spelled : Spelled es
  named : Named es

theorem Group.ordered_mapM {gs : List Group} (hgs : gs ⊆ groups) {vars : Environment}
    {found : List (Option (Value × Value))} (hnames : (gs.map Group.name).Nodup)
    (h : gs.mapM (fun g => do pure ((← g.fromVariables vars).map fun v => (Value.text g.name, v))) = .ok found) :
    Ordered (found.filterMap id) ∧ ∀ e ∈ found.filterMap id, ∃ g ∈ gs, e.1 = .text g.name := by
  induction gs generalizing found with
  | nil =>
    cases h
    exact ⟨⟨⟨.nil, nofun⟩, nofun, nofun⟩, nofun⟩
  | cons g gs ih =>
    obtain ⟨x, xs, hx, hxs, rfl⟩ := Outcome.mapM_cons_eq_ok_iff.mp h
    obtain ⟨hg, hrest⟩ := List.nodup_cons.mp hnames
    obtain ⟨hordered, hfrom⟩ := ih (List.subset_of_cons_subset hgs) hrest hxs
    obtain ⟨v, hv, hx⟩ := Outcome.bind_eq_ok_iff.mp hx
    cases hx
    cases v with
    | none =>
      refine ⟨hordered, fun e he => ?_⟩
      obtain ⟨g', hg', h⟩ := hfrom e he
      exact ⟨g', List.mem_cons_of_mem _ hg', h⟩
    | some v =>
      have hmapping {ms : List (Value × Value)} (hms : v.opened = .mapping ms) := mapping_of_fromVariables hv hms
      refine ⟨⟨⟨List.pairwise_cons.mpr ⟨fun e he => ?_, hordered.tidy.distinct⟩, ?_⟩, ?_, ?_⟩, ?_⟩
      · obtain ⟨g', hg', h⟩ := hfrom e he
        rw [h, Value.sameKey_text, beq_eq_false_iff_ne]
        exact fun h => hg (h ▸ List.mem_map_of_mem hg')
      · exact List.forall_mem_cons.mpr ⟨fun ms hms => (hmapping hms).1, hordered.tidy.mapping⟩
      · exact List.forall_mem_cons.mpr ⟨fun ms hms => (hmapping hms).2, hordered.spelled⟩
      · exact List.forall_mem_cons.mpr ⟨⟨g, hgs List.mem_cons_self, rfl⟩, hordered.named⟩
      · refine List.forall_mem_cons.mpr ⟨⟨g, List.mem_cons_self, rfl⟩, fun e he => ?_⟩
        obtain ⟨g', hg', h⟩ := hfrom e he
        exact ⟨g', List.mem_cons_of_mem _ hg', h⟩

theorem ordered_of_fromVariables {env : Environment} {es : List (Value × Value)} (h : fromVariables env = .ok es) :
    Ordered es := by
  obtain ⟨found, hfound, hes⟩ := Outcome.bind_eq_ok_iff.mp h
  cases hes
  exact (Group.ordered_mapM (List.Subset.refl _) (by decide) hfound).1

end DatabaseTypes.Settings
