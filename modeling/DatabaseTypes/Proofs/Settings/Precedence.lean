import DatabaseTypes.Proofs.Settings.Environment
import DatabaseTypes.Proofs.Settings.Load

/-!
# What counts of settings that are given several times

A setting can be given by the caller, by a variable, by the settings file of the project and by that of the
user.  What is given first in this order counts, setting by setting, and what is given later is never looked
at: settings are loaded exactly if everything that counts is good.

* `Settings.get?_overriding`   a single setting of entries that override others
* `Settings.Counts`            what counts of values that are given
* `Settings.AreGroups`         entries of a settings file that are groups of settings
* `Settings.Sources`           what is given to settings, and its values for a single one
* `Settings.load_counts`       what settings are loaded
-/

namespace DatabaseTypes.Settings

open Yaml

/-! ## entries that override others -/

theorem depth_pred_succ : Limit.depth - 1 + 1 = Limit.depth := rfl

section
variable {entries base es : List (Value × Value)}

/-- what a mapping leaves of a member of a mapping that it overrides -/
theorem get?_overriding_mapping {depth : Nat} {v o w : Value} {ms os : List (Value × Value)}
    (hv : v.opened = .mapping ms) (hd : Entries.Distinct ms) (ho : o.opened = .mapping os)
    (hw : Value.overriding (depth + 1) v (some o) = .ok w) (key : Text) :
    (v.get? key = none → w.get? key = o.get? key)
      ∧ ∀ x, v.get? key = some x →
        ∃ y, Value.overriding depth x (o.get? key) = .ok y ∧ w.get? key = some y := by
  rw [Value.overriding_mapping hv ho] at hw
  obtain ⟨es, hes, rfl⟩ := Outcome.map_eq_ok_iff.mp hw
  rw [Value.get?, hv, Value.get?, Value.opened_mapping, Value.get?, ho]
  exact Entries.find?_putAll hd hes key

/-- what entries leave of a setting of those that they override -/
theorem get?_overriding (h : Grouped entries) (hbase : Grouped base)
    (hes : Entries.overriding entries base = .ok es) (group key : Text) :
    ((groupValue group entries).get? key = none →
        (groupValue group es).get? key = (groupValue group base).get? key)
      ∧ ∀ v, (groupValue group entries).get? key = some v →
        ∃ w, Value.overriding (Limit.depth - 1) v ((groupValue group base).get? key) = .ok w
          ∧ (groupValue group es).get? key = some w := by
  obtain ⟨hnone, hsome⟩ := Entries.find?_putAll h.distinct hes group
  cases hf : Entries.find? (.text group) entries with
  -- what does not have the group leaves it as it is
  | none =>
    have hvalue : groupValue group entries = .mapping [] := by rw [groupValue, hf]; rfl
    have hes : groupValue group es = groupValue group base := by rw [groupValue, hnone hf, groupValue]
    rw [hvalue, hes]
    exact ⟨fun _ => rfl, fun _ hv => (Option.some_ne_none _ hv.symm).elim⟩
  | some v =>
    obtain ⟨w, hw, hfound⟩ := hsome v hf
    have hvalue : groupValue group entries = v := by rw [groupValue, hf]; rfl
    have hes : groupValue group es = w := by rw [groupValue, hfound]; rfl
    obtain ⟨ms, hms, hd⟩ := h.groupValue group
    obtain ⟨os, hos, _⟩ := hbase.groupValue group
    rw [hvalue] at hms ⊢
    rw [hes]
    cases hb : Entries.find? (.text group) base with
    | none =>
      have hnothing : groupValue group base = .mapping [] := by rw [groupValue, hb]; rfl
      rw [hb, Value.overriding_none] at hw
      cases hw
      rw [hnothing]
      exact ⟨id, fun x hx => ⟨x, Value.overriding_none _ x, hx⟩⟩
    | some o =>
      have hold : groupValue group base = o := by rw [groupValue, hb]; rfl
      rw [hold] at hos ⊢
      rw [hb] at hw
      exact get?_overriding_mapping hms hd hos hw key

theorem Grouped.overriding (h : Grouped entries) (hbase : Grouped base)
    (hes : Entries.overriding entries base = .ok es) : Grouped es where
  distinct := Entries.distinct_putAll hbase.distinct hes
  named := Entries.keys_putAll (P := fun k => ∃ g ∈ groups, k = .text g.name) hbase.named h.named hes
  mapping := by
    refine Entries.values_putAll (P := fun v => ∃ ms, v.opened = .mapping ms ∧ Entries.Distinct ms)
      hbase.mapping (fun e he old value hold hvalue => ?_) hes
    obtain ⟨ms, hms, hd⟩ := h.mapping e he
    cases old with
    | none =>
      rw [Value.overriding_none] at hvalue
      cases hvalue
      exact ⟨ms, hms, hd⟩
    | some o =>
      obtain ⟨os, hos, hdos⟩ := hold o rfl
      have hmapping := Value.overriding_mapping hms hos (Limit.depth - 1)
      rw [depth_pred_succ] at hmapping
      rw [hmapping] at hvalue
      obtain ⟨ws, hws, rfl⟩ := Outcome.map_eq_ok_iff.mp hvalue
      exact ⟨ws, rfl, Entries.distinct_putAll hdos hws⟩

end

/-! ## what counts -/

/-- the first of some values that is given -/
def first (values : List (Option Value)) : Option Value := values.findSome? id

/-- what counts of values that override each other: the first of them, but a mapping may hold entries of mappings
after it -/
def Counts (values : List (Option Value)) (v : Option Value) : Prop :=
  v = first values ∨ ∃ w x, first values = some w ∧ w.isMapping = true ∧ v = some x ∧ x.isMapping = true

theorem counts_single (v : Option Value) : Counts [v] v := by
  cases v with
  | none => exact .inl rfl
  | some v => exact .inl rfl

theorem Counts.eq_first {values : List (Option Value)} {v : Option Value} (h : Counts values v)
    (hv : ∀ x, v = some x → x.isMapping = false) : v = first values := by
  rcases h with h | ⟨w, x, _, _, hx, hm⟩
  · exact h
  · rw [hv x hx] at hm
    cases hm

/-- a value that is a mapping counts exactly if the first one is -/
theorem Counts.isMapping_iff {values : List (Option Value)} {v : Option Value} (h : Counts values v) :
    (∃ x, v = some x ∧ x.isMapping = true) ↔ ∃ w, first values = some w ∧ w.isMapping = true := by
  rcases h with rfl | ⟨w, x, hw, hwm, hx, hxm⟩
  · exact Iff.rfl
  · exact ⟨fun _ => ⟨w, hw, hwm⟩, fun _ => ⟨x, hx, hxm⟩⟩

/-- what counts of values in front of others, and of those others, counts of all -/
theorem Counts.overriding {us ls : List (Option Value)} {u l w : Option Value} {depth : Nat}
    (hu : Counts us u) (hl : Counts ls l) (hnone : u = none → w = l)
    (hsome : ∀ v, u = some v → ∃ x, Value.overriding depth v l = .ok x ∧ w = some x) :
    Counts (us ++ ls) w := by
  have hfirst : first (us ++ ls) = (first us).or (first ls) := List.findSome?_append
  cases u with
  | none =>
    have hus : first us = none := (hu.eq_first nofun).symm
    rw [hnone rfl, Counts, hfirst, hus]
    exact hl
  | some v =>
    obtain ⟨x, hx, rfl⟩ := hsome v rfl
    cases hv : v.isMapping with
    | false =>
      rw [Value.overriding_eq_self (.inl hv)] at hx
      cases hx
      have hus : some v = first us := hu.eq_first fun _ h => by cases h; exact hv
      refine .inl ?_
      rw [hfirst, ← hus]
      rfl
    -- a mapping may have taken entries of what it overrides, and it is only known that it is one
    | true =>
      obtain ⟨w, hw, hm⟩ := hu.isMapping_iff.mp ⟨v, rfl, hv⟩
      refine .inr ⟨w, x, ?_, hm, rfl, ?_⟩
      · rw [hfirst, hw]
        rfl
      · rw [Value.isMapping_overriding hx, hv]

/-! ## overriding that ends -/

/-- no mapping holds itself, or goes deeper than settings may override others -/
def Shallow (es : List (Value × Value)) : Prop := ∀ e ∈ es, e.2.NestedWithin Limit.depth

section
variable {entries base es : List (Value × Value)}

theorem Shallow.exists_overriding (h : Shallow entries) (base : List (Value × Value)) :
    ∃ es, Entries.overriding entries base = .ok es :=
  Entries.exists_putAll fun e he old => Value.exists_overriding (h e he) old

theorem Shallow.overriding (h : Shallow entries) (hbase : Shallow base)
    (hes : Entries.overriding entries base = .ok es) : Shallow es :=
  Entries.values_putAll hbase
    (fun e he _ _ hold hvalue => Value.nestedWithin_overriding (h e he) hold hvalue) hes

theorem counts_overriding {l : Leaf} {us ls : List (Option Value)} (h : Grouped entries)
    (hbase : Grouped base) (hes : Entries.overriding entries base = .ok es)
    (hu : Counts us (l.value? entries)) (hl : Counts ls (l.value? base)) :
    Counts (us ++ ls) (l.value? es) := by
  obtain ⟨hnone, hsome⟩ := get?_overriding h hbase hes l.group.name l.key
  exact hu.overriding hl hnone hsome

end

/-! ## all settings together -/

theorem both_good_map_fst {α : Type} (v : Verdict α) : (v.both (.good ())).map Prod.fst = v := by
  cases v <;> rfl

/-- settings of groups alone are what their check gives -/
theorem ofMerged_grouped {homes : Path.Homes} {es : List (Value × Value)} (h : Grouped es) :
    ofMerged homes es = ((check homes (.mapping es)).outcome).mapError reported := by
  have hnames : (es.any fun e => !e.1.isText) = false := by
    rw [List.any_eq_false]
    intro e he
    obtain ⟨g, _, hg⟩ := h.named e he
    rw [hg]
    exact Bool.false_ne_true
  have hknown : unknownIssues es = [] := by
    rw [unknownIssues, List.filterMap_eq_nil_iff]
    intro e he
    obtain ⟨k, v⟩ := e
    obtain ⟨g, hg, rfl⟩ := h.named (k, v) he
    dsimp only
    rw [if_pos (List.any_eq_true.mpr ⟨g, hg, beq_self_eq_true g.name⟩)]
  have hcheck : checkAll homes es = check homes (.mapping es) := by
    rw [checkAll, hknown]
    exact both_good_map_fst _
  rw [ofMerged, hnames, hcheck]
  cases hc : check homes (.mapping es) with
  | good s => exact reread_of_check hc
  | bad issues => rfl
  | broken fault => rfl

/-- what is given to settings: by the caller, by variables, by the settings file of the project, and by that
of the user -/
structure Sources where
  caller : List (Text × Json)
  environment : Environment
  project : List (Value × Value)
  user : List (Value × Value)

/-- the values that are given to a setting, the one that counts most in front -/
def Sources.values (src : Sources) (l : Leaf) : List (Option Value) :=
  [l.value? (Value.ofJsonMembers src.caller), src.environment.setting? l, l.value? src.project,
    l.value? src.user]

/-- entries that are groups of settings -/
def AreGroups (es : List (Value × Value)) : Prop :=
  ∀ e ∈ es, (∃ g ∈ groups, e.1 = .text g.name) ∧ e.2.isMapping = true

/-- nothing but groups of settings is given -/
structure Sources.IsPlain (src : Sources) : Prop where
  caller : Grouped (Value.ofJsonMembers src.caller)
  environment : src.environment.IsSingle
  project : AreGroups src.project
  user : AreGroups src.user

/-- what is given by the caller and by the project does not go too deep -/
structure Sources.IsShallow (src : Sources) : Prop where
  caller : Shallow (Value.ofJsonMembers src.caller)
  project : Shallow src.project

/-- what settings are loaded if some values are given to each of them -/
structure Loads (homes : Path.Homes) (values : Leaf → List (Option Value)) (r : Except Fault Settings) :
    Prop where
  /-- what is checked gives every setting what counts -/
  checked : ∃ es, Grouped es ∧ (∀ l ∈ Leaf.all, Counts (values l) (l.value? es))
    ∧ r = ((check homes (.mapping es)).outcome).mapError reported
  /-- settings are loaded exactly if each is good that comes first -/
  loaded : (∃ s, r = .ok s)
    ↔ ∀ l ∈ Leaf.all, ∃ t, check homes (.mapping (l.alone (first (values l)))) = .good t
  /-- a setting is what it would be if only the first of its values were given -/
  returned : ∀ s, r = .ok s → ∀ l ∈ Leaf.all,
    ∃ t, check homes (.mapping (l.alone (first (values l)))) = .good t ∧ l.of s = l.of t
  /-- a setting to which nothing is given is as it is by default -/
  unset : ∀ s, r = .ok s → ∀ l ∈ Leaf.all, first (values l) = none → l.of s = l.of {}

theorem grouped_of_fileSays {files : Files} {here : Location} {path : Path}
    {es : List (Value × Value)} (h : fileSays files here path = .ok es) (hg : AreGroups es) :
    Grouped es := by
  obtain ⟨hd, ho⟩ := orderly_fileSays h
  refine ⟨hd, fun e he => (hg e he).1, fun e he => ?_⟩
  obtain ⟨ms, hms⟩ := Value.isMapping_iff.mp (hg e he).2
  exact ⟨ms, hms, ((ho e he).mapping hms).1⟩

section
variable {homes : Path.Homes} {l : Leaf} {v : Option Value}

/-- what counts is what comes first, if either of them is good -/
theorem Counts.eq_first_of_good (hl : l ∈ Leaf.all) {values : List (Option Value)}
    (h : Counts values v) (hgood : (∃ t, check homes (.mapping (l.alone v)) = .good t)
      ∨ ∃ t, check homes (.mapping (l.alone (first values))) = .good t) : v = first values := by
  rcases h with h | ⟨w, x, hw, hwm, rfl, hxm⟩
  · exact h
  · rw [hw] at hgood
    rcases hgood with hgood | hgood
    · exact absurd hgood (not_good_of_isMapping hl hxm)
    · exact absurd hgood (not_good_of_isMapping hl hwm)

theorem check_alone_none (hl : l ∈ Leaf.all) {t : Settings}
    (h : check homes (.mapping (l.alone none)) = .good t) : l.of t = l.of {} := by
  have hall : ∀ l ∈ Leaf.all, check homes (.mapping (l.alone none)) = .good {} := by
    rw [Leaf.forall_all]
    simp only [groups, List.forall_mem_cons, List.not_mem_nil, false_implies, implies_true, and_true]
    exact ⟨⟨rfl, rfl⟩, ⟨rfl, rfl⟩, rfl, rfl, rfl⟩
  rw [hall l hl] at h
  cases h
  rfl

end

/-- what is loaded if what is checked gives every setting what counts -/
theorem loads_of_checked {homes : Path.Homes} {values : Leaf → List (Option Value)}
    {es : List (Value × Value)} (h : Grouped es)
    (hcounts : ∀ l ∈ Leaf.all, Counts (values l) (l.value? es)) :
    Loads homes values (((check homes (.mapping es)).outcome).mapError reported) := by
  have hok (s : Settings) : ((check homes (.mapping es)).outcome).mapError reported = .ok s
      ↔ TakenFrom homes (fun group key => (groupValue group es).get? key) s := by
    rw [← check_mapping_eq_good_iff h]
    cases check homes (.mapping es) <;> simp [Verdict.outcome, Except.mapError]
  have hreturned (s : Settings) (hs : ((check homes (.mapping es)).outcome).mapError reported = .ok s)
      (l : Leaf) (hl : l ∈ Leaf.all) :
      ∃ t, check homes (.mapping (l.alone (first (values l)))) = .good t ∧ l.of s = l.of t := by
    obtain ⟨t, ht, hof⟩ := leaf_of_takenFrom ((hok s).mp hs) l hl
    have hfirst := (hcounts l hl).eq_first_of_good hl (.inl ⟨t, ht⟩)
    exact ⟨t, by rw [← hfirst]; exact ht, hof⟩
  refine ⟨⟨es, h, hcounts, rfl⟩, ⟨?_, ?_⟩, hreturned, ?_⟩
  · rintro ⟨s, hs⟩ l hl
    obtain ⟨t, ht, _⟩ := hreturned s hs l hl
    exact ⟨t, ht⟩
  · intro hgood
    have hall : ∃ s, TakenFrom homes (fun group key => (groupValue group es).get? key) s := by
      refine takenFrom_iff.mpr fun l hl => ?_
      have hfirst := (hcounts l hl).eq_first_of_good hl (.inr (hgood l hl))
      show ∃ t, check homes (.mapping (l.alone (l.value? es))) = .good t
      rw [hfirst]
      exact hgood l hl
    obtain ⟨s, hs⟩ := hall
    exact ⟨s, (hok s).mpr hs⟩
  · intro s hs l hl hnone
    obtain ⟨t, ht, hof⟩ := hreturned s hs l hl
    rw [hnone] at ht
    rw [hof, check_alone_none hl ht]

/-- **What is given first counts**, setting by setting: in front of all by the caller, then by variables, by the
settings file of the project, and by that of the user; what comes after it is never looked at. -/
theorem load_counts {root : Path} {s : Session} {src : Sources}
    (henvironment : src.environment = s.host.environment)
    (hproject : fileSays s.files s.host.here ((Path.ofText fileName).under root) = .ok src.project)
    (huser : fileSays s.files s.host.here s.host.globalSettings = .ok src.user) (h : src.IsPlain)
    (hends : src.IsShallow) :
    ∃ r, (load root src.caller).run s = (r, s) ∧ Loads s.host.homes src.values r := by
  have hP := grouped_of_fileSays hproject h.project
  have hU := grouped_of_fileSays huser h.user
  obtain ⟨environment, hfrom, hE, hshallow, hsaid⟩ := fromVariables_single h.environment
  -- the project overrides the user, the caller overrides the variables, and then the latter the former
  obtain ⟨files, hfiles⟩ := hends.project.exists_overriding src.user
  obtain ⟨given, hgiven⟩ := hends.caller.exists_overriding environment
  obtain ⟨all, hall⟩ := (hends.caller.overriding hshallow hgiven).exists_overriding files
  have hG := h.caller.overriding hE hgiven
  have hF := hP.overriding hU hfiles
  have hcounts : ∀ l ∈ Leaf.all, Counts (src.values l) (l.value? all) := by
    intro l hl
    have hcaller := counts_overriding h.caller hE hgiven (counts_single (l.value? _))
      (counts_single (l.value? _))
    have hrest := counts_overriding hP hU hfiles (counts_single (l.value? _)) (counts_single (l.value? _))
    have := counts_overriding hG hF hall hcaller hrest
    rw [hsaid l hl] at this
    exact this
  have hload : loadFrom s.host s.files root src.caller
      = ((check s.host.homes (.mapping all)).outcome).mapError reported := by
    have hmerged : merged (Value.ofJsonMembers src.caller) environment files = .ok all := by
      rw [merged, hgiven]
      exact hall
    rw [henvironment] at hfrom
    simp only [loadFrom, huser, hproject, hfiles, hfrom, hmerged, Except.mapError, bind, Except.bind]
    exact ofMerged_grouped (hG.overriding hF hall)
  exact ⟨_, by rw [run_load, hload], loads_of_checked (hG.overriding hF hall) hcounts⟩

/-- a session with the settings files of a project and of a user -/
def withSettings (project user : Text) : Session :=
  { files := Files.plant [".config", "supatypes", "config.yaml"] (.file user.toBytes)
      (Files.plant [fileName] (.file project.toBytes) {}) }

/-- what the settings files of a session hold, with a project at the root -/
structure FilesSay (s : Session) (project user : List (Value × Value)) : Prop where
  project : fileSays s.files s.host.here ((Path.ofText fileName).under ⟨1, []⟩) = .ok project
  user : fileSays s.files s.host.here s.host.globalSettings = .ok user

theorem exists_filesSay {s : Session} {test : List (Value × Value) → List (Value × Value) → Bool}
    (h : ((fileSays s.files s.host.here ((Path.ofText fileName).under ⟨1, []⟩)).toOption.any fun project =>
      (fileSays s.files s.host.here s.host.globalSettings).toOption.any (test project)) = true) :
    ∃ project user, FilesSay s project user ∧ test project user = true := by
  obtain ⟨project, hproject, hany⟩ := Outcome.exists_ok_of_any h
  obtain ⟨user, huser, htest⟩ := Outcome.exists_ok_of_any hany
  exact ⟨project, user, ⟨hproject, huser⟩, htest⟩

/-- do entries of groups hold an output, and nothing else? -/
def holdsOutput (es : List (Value × Value)) : Bool :=
  (es.all fun e => (groups.any fun g => e.1.sameKey (.text g.name)) && e.2.isMapping)
    && Leaf.all.all fun l => (l.value? es).isSome == (l.key == "output")

section
variable {es fs : List (Value × Value)} {l : Leaf}

theorem areGroups_of_holdsOutput (h : holdsOutput es = true) : AreGroups es := by
  intro e he
  rw [holdsOutput, Bool.and_eq_true] at h
  have hgroup := List.all_eq_true.mp h.1 e he
  rw [Bool.and_eq_true] at hgroup
  obtain ⟨g, hg, hname⟩ := List.any_eq_true.mp hgroup.1
  exact ⟨⟨g, hg, Value.sameKey_text_iff.mp hname⟩, hgroup.2⟩

theorem isSome_of_holdsOutput (h : holdsOutput es = true) (hl : l ∈ Leaf.all) :
    (l.value? es).isSome = (l.key == "output") := by
  rw [holdsOutput, Bool.and_eq_true] at h
  exact beq_iff_eq.mp (List.all_eq_true.mp h.2 l hl)

/-- an output comes first in front of values of the output -/
theorem first_of_holdsOutput {values : List (Option Value)} (h : holdsOutput es = true)
    (hl : l ∈ Leaf.all) (hvalues : ∀ v ∈ values, v.isSome = true → (l.key == "output") = true) :
    first (l.value? es :: values) = l.value? es := by
  have hes := isSome_of_holdsOutput h hl
  cases hv : l.value? es with
  | some v => rfl
  | none =>
    rw [hv] at hes
    rw [first, List.findSome?_cons, id, List.findSome?_eq_none_iff]
    intro v hm
    refine Option.eq_none_iff_forall_ne_some.mpr fun w hw => ?_
    have hkey := hvalues v hm (Option.isSome_iff_exists.mpr ⟨w, hw⟩)
    rw [← hes] at hkey
    cases hkey

end

/-- the output that a caller gives -/
def outputGiven : List (Text × Json) := [("generator", .object [("output", .text "x.ts")])]

theorem grouped_outputGiven : Grouped (Value.ofJsonMembers outputGiven) := by
  have hl : ∃ l ∈ Leaf.all, l.group.name = "generator" ∧ l.key = "output" := by
    refine ⟨⟨⟨"generator", ["documentation", "output"], []⟩, "output"⟩, ?_, rfl, rfl⟩
    exact List.mem_cons_of_mem _ (List.mem_cons_of_mem _ (List.mem_cons_of_mem _ List.mem_cons_self))
  obtain ⟨l, hl, hgroup, hkey⟩ := hl
  have halone : Value.ofJsonMembers outputGiven = l.alone (some (.text "x.ts")) := by
    rw [Leaf.alone, hgroup, hkey]
    rfl
  rw [halone]
  exact grouped_alone l hl _

/-- do entries hold nothing but mappings of values that are no mappings? -/
def isFlat (es : List (Value × Value)) : Bool :=
  es.all fun e => match e.2 with
    | .mapping ms => ms.all fun m => !m.2.isMapping
    | _ => false

theorem shallow_of_isFlat {es : List (Value × Value)} (h : isFlat es = true) : Shallow es := by
  intro e he
  have hall := List.all_eq_true.mp h e he
  split at hall
  · rename_i ms hms
    rw [hms, ← depth_pred_succ]
    refine Value.nestedWithin_mapping _ fun m hm => Value.nestedWithin_of_isMapping ?_ _
    exact (Bool.not_eq_true' _).mp (List.all_eq_true.mp hall m hm)
  · cases hall

/-- a session in which the files give outputs that are no texts, and a variable says what is to be formatted -/
def shadowed : Session :=
  { withSettings "generator:\n  output: 1\n" "generator:\n  output: [2]\n" with
    host := { environment := [("SUPATYPES__FORMATTING__ENABLED", "no")] } }

theorem isSingle_shadowed : Environment.IsSingle shadowed.host.environment where
  whole := by decide +kernel
  single := by
    have hfolded : Environment.folded shadowed.host.environment
        = [(("supatypes__formatting__enabled" : Text), ("no" : Text))] := by decide +kernel
    have hgroups : ∀ g ∈ groups, Text.after? (g.variableName ++ Environment.separator)
        "supatypes__formatting__enabled" = none
          ∨ (Text.after? (g.variableName ++ Environment.separator) "supatypes__formatting__enabled"
              = some "enabled" ∧ ("enabled" : Text) ∈ g.keys
              ∧ (g.listKeys.any fun k => [("enabled" : Text)] == [k]) = false) := by
      decide +kernel
    intro g hg name t path hmem hpath
    rw [hfolded] at hmem
    obtain ⟨rfl, rfl⟩ := Prod.mk.inj (List.mem_singleton.mp hmem)
    rcases hgroups g hg with hnone | ⟨hsome, hkey, hlist⟩
    · rw [hnone] at hpath
      cases hpath
    · rw [hsome] at hpath
      cases hpath
      refine ⟨hkey, .text "no", ?_, Value.nestedWithin_of_isMapping rfl _⟩
      rw [Group.single, hlist]
      rfl

theorem exists_shadowed : ∃ project user, FilesSay shadowed project user
    ∧ (holdsOutput project && isFlat project && holdsOutput user) = true :=
  exists_filesSay (by decide +kernel)

/-- the outputs of the files are no texts, but what the caller gives counts -/
theorem load_counts_shadowed : ∃ project user,
    (Sources.mk outputGiven shadowed.host.environment project user).IsPlain
      ∧ (Sources.mk outputGiven shadowed.host.environment project user).IsShallow
      ∧ ∃ r, (load ⟨1, []⟩ outputGiven).run shadowed = (r, shadowed)
        ∧ Loads shadowed.host.homes (Sources.mk outputGiven shadowed.host.environment project user).values
            r := by
  obtain ⟨project, user, hsaid, hp⟩ := exists_shadowed
  rw [Bool.and_eq_true, Bool.and_eq_true] at hp
  obtain ⟨⟨hp, hflat⟩, hu⟩ := hp
  have hcaller : isFlat (Value.ofJsonMembers outputGiven) = true := by decide +kernel
  have hplain : (Sources.mk outputGiven shadowed.host.environment project user).IsPlain :=
    ⟨grouped_outputGiven, isSingle_shadowed, areGroups_of_holdsOutput hp, areGroups_of_holdsOutput hu⟩
  have hshallow : (Sources.mk outputGiven shadowed.host.environment project user).IsShallow :=
    ⟨shallow_of_isFlat hcaller, shallow_of_isFlat hflat⟩
  have hloads := @load_counts ⟨1, []⟩ shadowed ⟨outputGiven, shadowed.host.environment, project, user⟩ rfl
    hsaid.project hsaid.user hplain hshallow
  exact ⟨project, user, hplain, hshallow, hloads⟩

/-! ## mappings in place of single settings -/

/-- the value that is reported of a setting -/
def reportedValue? : Except Fault Settings → Option Text
  | .error (.problem (.settingInvalid _ value _)) => some value
  | _ => none

/-- did overriding go on without an end? -/
def isEndless : Except Fault Settings → Bool
  | .error (.beyond .endlessOverride) => true
  | _ => false

/-- a mapping in place of the output, in both files -/
def mixed : Session := withSettings "generator:\n  output: \x7bb: 2\x7d\n" "generator:\n  output: \x7ba: 1\x7d\n"

/-- a mapping that holds itself in place of the output, in both files -/
def tangled : Session :=
  withSettings "generator:\n  output: &a\n    x: *a\n" "generator:\n  output: &a\n    x: *a\n"

theorem isSingle_nil : Environment.IsSingle [] := ⟨fun _ _ => rfl, fun _ _ _ _ _ => nofun⟩

theorem good_outputGiven (homes : Path.Homes) :
    ∃ s, check homes (.mapping (Value.ofJsonMembers outputGiven)) = .good s :=
  ⟨_, rfl⟩

theorem exists_mixed : ∃ project user, FilesSay mixed project user
    ∧ (holdsOutput project && holdsOutput user
      && reportedValue? (((check mixed.host.homes (.mapping project)).outcome).mapError reported)
        == some ("\x7b'b': 2\x7d" : Text)) = true :=
  exists_filesSay (by decide +kernel)

theorem exists_tangled : ∃ project user, FilesSay tangled project user
    ∧ (holdsOutput project && holdsOutput user) = true :=
  exists_filesSay (by decide +kernel)

/-- what comes first is not checked alone if it is a mapping: other mappings are mixed with it, and if it holds
itself that has no end, even if it is overridden itself -/
theorem first_not_alone : ¬ (∀ (root : Path) (s : Session) (src : Sources),
      src.environment = s.host.environment →
      fileSays s.files s.host.here ((Path.ofText fileName).under root) = .ok src.project →
      fileSays s.files s.host.here s.host.globalSettings = .ok src.user → src.IsPlain →
      ∃ es, Grouped es ∧ (∀ l ∈ Leaf.all, l.value? es = first (src.values l))
        ∧ (load root src.caller).run s
          = (((check s.host.homes (.mapping es)).outcome).mapError reported, s))
    ∧ ¬ ∀ (root : Path) (s : Session) (src : Sources),
      src.environment = s.host.environment →
      fileSays s.files s.host.here ((Path.ofText fileName).under root) = .ok src.project →
      fileSays s.files s.host.here s.host.globalSettings = .ok src.user → src.IsPlain →
      (∀ l ∈ Leaf.all, ∃ t, check s.host.homes (.mapping (l.alone (first (src.values l)))) = .good t) →
      ∃ settings, (load root src.caller).run s = (.ok settings, s) := by
  constructor
  · intro h
    obtain ⟨project, user, hsaid, hp⟩ := exists_mixed
    rw [Bool.and_eq_true, Bool.and_eq_true, beq_iff_eq] at hp
    obtain ⟨⟨hp, hu⟩, hvalue⟩ := hp
    have hgroups := areGroups_of_holdsOutput hp
    obtain ⟨es, hes, hfirst, hload⟩ := h ⟨1, []⟩ mixed ⟨[], [], project, user⟩ rfl hsaid.project hsaid.user
      ⟨⟨.nil, nofun, nofun⟩, isSingle_nil, hgroups, areGroups_of_holdsOutput hu⟩
    have hsame : ∀ l ∈ Leaf.all, l.value? es = l.value? project := by
      intro l hl
      have hcounts : first (l.value? project :: [l.value? user]) = l.value? project :=
        first_of_holdsOutput hp hl (by simp [isSome_of_holdsOutput hu hl])
      rw [hfirst l hl]
      exact hcounts
    have hcheck : check mixed.host.homes (.mapping es) = check mixed.host.homes (.mapping project) :=
      check_congr hes (grouped_of_fileSays hsaid.project hgroups) hsame
    -- what is reported is the mixture of both mappings
    have hreported : reportedValue? ((load ⟨1, []⟩ []).run mixed).1
        = some ("\x7b'a': 1, 'b': 2\x7d" : Text) := by decide +kernel
    rw [hload, hcheck, hvalue] at hreported
    exact absurd hreported (by decide)
  · intro h
    obtain ⟨project, user, hsaid, hp⟩ := exists_tangled
    rw [Bool.and_eq_true] at hp
    have hgood : ∀ l ∈ Leaf.all, ∃ t, check tangled.host.homes
        (.mapping (l.alone (first ((Sources.mk outputGiven [] project user).values l)))) = .good t := by
      intro l hl
      have hcaller : holdsOutput (Value.ofJsonMembers outputGiven) = true := by decide +kernel
      have hfirst : first ((Sources.mk outputGiven [] project user).values l)
          = l.value? (Value.ofJsonMembers outputGiven) := by
        have hnone : Environment.setting? [] l = none := rfl
        refine first_of_holdsOutput hcaller hl ?_
        simp [hnone, isSome_of_holdsOutput hp.1 hl, isSome_of_holdsOutput hp.2 hl]
      obtain ⟨settings, hs⟩ := good_outputGiven tangled.host.homes
      rw [hfirst]
      exact takenFrom_iff.mp ⟨settings, (check_mapping_eq_good_iff grouped_outputGiven).mp hs⟩ l hl
    obtain ⟨settings, hload⟩ := h ⟨1, []⟩ tangled ⟨outputGiven, [], project, user⟩ rfl hsaid.project
      hsaid.user ⟨grouped_outputGiven, isSingle_nil, areGroups_of_holdsOutput hp.1,
        areGroups_of_holdsOutput hp.2⟩ hgood
    have hendless : isEndless ((load ⟨1, []⟩ outputGiven).run tangled).1 = true := by decide +kernel
    rw [hload] at hendless
    cases hendless

end DatabaseTypes.Settings
