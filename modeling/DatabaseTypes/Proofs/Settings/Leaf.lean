import DatabaseTypes.Proofs.Entries
import DatabaseTypes.Proofs.Settings

/-!
# Settings one by one

Entries that give nothing but groups of settings are checked by what they give to each single setting.  A setting
is what it would be if it were the only one that is given.

* `Settings.Leaf`          a single setting, with its value in entries
* `Settings.Grouped`       entries that give nothing but groups of settings
* `Settings.check_congr`   entries that give the same to every single setting pass the same check
* `Settings.check_leaves_iff`, `Settings.leaf_of_check`   all settings and every one of them
* `Settings.not_good_of_isMapping`   no single setting is a mapping
-/

namespace DatabaseTypes.Settings

open Yaml

/-! ## single settings -/

/-- a single setting -/
structure Leaf where
  group : Group
  key : Text

/-- the value of a group in entries; if it is absent it is empty -/
def groupValue (name : Text) (es : List (Value × Value)) : Value :=
  (Entries.find? (.text name) es).getD (.mapping [])

namespace Leaf

def all : List Leaf := groups.flatMap fun g => g.keys.map (Leaf.mk g)

/-- the value of a setting in entries -/
def value? (l : Leaf) (es : List (Value × Value)) : Option Value :=
  (groupValue l.group.name es).get? l.key

/-- a setting among all settings -/
def of (l : Leaf) (s : Settings) : Option Json := (s.toJson.get? l.group.name).bind (Json.get? l.key)

/-- entries that give a value to one setting at most -/
def alone (l : Leaf) (v : Option Value) : List (Value × Value) :=
  [(.text l.group.name, .mapping (v.toList.map fun v => (.text l.key, v)))]

end Leaf

/-- entries that give nothing but groups of settings -/
structure Grouped (es : List (Value × Value)) : Prop where
  distinct : Entries.Distinct es
  named : ∀ e ∈ es, ∃ g ∈ groups, e.1 = .text g.name
  mapping : ∀ e ∈ es, ∃ ms, e.2.opened = .mapping ms ∧ Entries.Distinct ms

section
variable {homes : Path.Homes} {es es' : List (Value × Value)} {s : Settings}

theorem Grouped.groupValue (h : Grouped es) (name : Text) :
    ∃ ms, (groupValue name es).opened = .mapping ms ∧ Entries.Distinct ms := by
  rw [Settings.groupValue]
  cases hf : Entries.find? (.text name) es with
  | none => exact ⟨[], rfl, .nil⟩
  | some v =>
    obtain ⟨k, hk⟩ := Entries.mem_of_find? hf
    exact h.mapping (k, v) hk

theorem grouped_alone (l : Leaf) (hl : l ∈ Leaf.all) (v : Option Value) : Grouped (l.alone v) where
  distinct := List.pairwise_singleton _ _
  named := by
    intro e he
    obtain ⟨g, hg, hkey⟩ := List.mem_flatMap.mp hl
    obtain ⟨key, _, rfl⟩ := List.mem_map.mp hkey
    rw [List.mem_singleton.mp he]
    exact ⟨g, hg, rfl⟩
  mapping := by
    intro e he
    rw [List.mem_singleton.mp he]
    refine ⟨_, rfl, ?_⟩
    cases v with
    | none => exact .nil
    | some v => exact List.pairwise_singleton _ _

/-! ## the check of a group -/

/-- a group that is absent is checked as an empty one -/
theorem member_eq_groupValue {α : Type} {name : Text} {absent : α} {check : Value → Verdict α}
    (habsent : check (.mapping []) = .good absent) :
    Check.member name absent check es = (check (groupValue name es)).under name := by
  rw [Check.member, groupValue]
  cases Entries.find? (.text name) es with
  | none =>
    rw [Option.getD_none, habsent]
    rfl
  | some v => rfl

theorem member_congr {α : Type} {key : Text} {absent : α} {check : Value → Verdict α}
    {v w : Value} {es es' : List (Value × Value)} (hv : v.opened = .mapping es)
    (hw : w.opened = .mapping es') (h : v.get? key = w.get? key) :
    Check.member key absent check es = Check.member key absent check es' := by
  rw [Value.get?, Value.get?, hv, hw] at h
  rw [Check.member, Check.member]
  dsimp only at h
  rw [h]

theorem log_check_congr {v w : Value} {es es' : List (Value × Value)} (hv : v.opened = .mapping es)
    (hw : w.opened = .mapping es') (hlevel : v.get? "level" = w.get? "level")
    (houtputs : v.get? "outputs" = w.get? "outputs") :
    LogSettings.check homes v = LogSettings.check homes w := by
  rw [LogSettings.check, Check.group, Check.group, hv, hw]
  dsimp only
  rw [member_congr hv hw hlevel, member_congr hv hw houtputs]

theorem generator_check_congr {v w : Value} {es es' : List (Value × Value)}
    (hv : v.opened = .mapping es) (hw : w.opened = .mapping es')
    (hdocumentation : v.get? "documentation" = w.get? "documentation")
    (houtput : v.get? "output" = w.get? "output") :
    GeneratorSettings.check v = GeneratorSettings.check w := by
  rw [GeneratorSettings.check, Check.group, Check.group, hv, hw]
  dsimp only
  rw [member_congr hv hw hdocumentation, member_congr hv hw houtput]

theorem formatter_check_congr {v w : Value} {es es' : List (Value × Value)}
    (hv : v.opened = .mapping es) (hw : w.opened = .mapping es')
    (henabled : v.get? "enabled" = w.get? "enabled")
    (hcommand : v.get? "command" = w.get? "command")
    (htimeout : v.get? "timeout_sec" = w.get? "timeout_sec") :
    FormatterSettings.check v = FormatterSettings.check w := by
  rw [FormatterSettings.check, Check.group, Check.group, hv, hw]
  dsimp only
  rw [member_congr hv hw henabled, member_congr hv hw hcommand, member_congr hv hw htimeout]

/-! ## the check of all settings -/

theorem log_check_empty : LogSettings.check homes (.mapping []) = .good {} := rfl

theorem generator_check_empty : GeneratorSettings.check (.mapping []) = .good {} := rfl

theorem formatter_check_empty : FormatterSettings.check (.mapping []) = .good {} := rfl

theorem check_mapping (es : List (Value × Value)) : check homes (.mapping es)
    = (((LogSettings.check homes (groupValue "logging" es)).under "logging").both
      (((GeneratorSettings.check (groupValue "generator" es)).under "generator").both
        ((FormatterSettings.check (groupValue "formatting" es)).under "formatting"))).map
      fun (logging, generator, formatting) => { logging, generator, formatting } := by
  rw [check, Check.group, Value.opened_mapping]
  dsimp only
  rw [member_eq_groupValue log_check_empty, member_eq_groupValue generator_check_empty,
    member_eq_groupValue formatter_check_empty]

theorem Leaf.forall_all {P : Leaf → Prop} : (∀ l ∈ all, P l) ↔
    ∀ g ∈ groups, ∀ key ∈ g.keys, P ⟨g, key⟩ := by
  unfold all
  constructor
  · intro h g hg key hkey
    exact h _ (List.mem_flatMap.mpr ⟨g, hg, List.mem_map.mpr ⟨key, hkey, rfl⟩⟩)
  · intro h l hl
    obtain ⟨g, hg, hl⟩ := List.mem_flatMap.mp hl
    obtain ⟨key, hkey, rfl⟩ := List.mem_map.mp hl
    exact h g hg key hkey

/-- entries that give the same to every single setting pass the same check -/
theorem check_congr (h : Grouped es) (h' : Grouped es')
    (hleaf : ∀ l ∈ Leaf.all, l.value? es = l.value? es') :
    check homes (.mapping es) = check homes (.mapping es') := by
  rw [Leaf.forall_all] at hleaf
  simp only [groups, List.forall_mem_cons, List.not_mem_nil, false_implies, implies_true,
    and_true, Leaf.value?] at hleaf
  obtain ⟨⟨hlevel, houtputs⟩, ⟨hdocumentation, houtput⟩, henabled, hcommand, htimeout⟩ := hleaf
  obtain ⟨ls, hls, _⟩ := h.groupValue "logging"
  obtain ⟨ls', hls', _⟩ := h'.groupValue "logging"
  obtain ⟨gs, hgs, _⟩ := h.groupValue "generator"
  obtain ⟨gs', hgs', _⟩ := h'.groupValue "generator"
  obtain ⟨fs, hfs, _⟩ := h.groupValue "formatting"
  obtain ⟨fs', hfs', _⟩ := h'.groupValue "formatting"
  rw [check_mapping, check_mapping, log_check_congr hls hls' hlevel houtputs,
    generator_check_congr hgs hgs' hdocumentation houtput,
    formatter_check_congr hfs hfs' henabled hcommand htimeout]

/-! ## settings by their single settings -/

/-- a setting has a value that passes its check, or has none and is as it is by default -/
def Taken {α : Type} (v : Option Value) (absent : α) (check : Value → Verdict α) (a : α) : Prop :=
  v = none ∧ a = absent ∨ ∃ w, v = some w ∧ check w = .good a

/-- settings are taken from values one by one -/
structure TakenFrom (homes : Path.Homes) (value : Text → Text → Option Value) (s : Settings) : Prop where
  level : Taken (value "logging" "level") .warning (Check.word Level.name Level.all) s.logging.level
  outputs : Taken (value "logging" "outputs") [{}] (Check.list (LogOutput.check homes))
    s.logging.outputs
  documentation : Taken (value "generator" "documentation") true Check.bool s.generator.documentation
  output : Taken (value "generator" "output") none (Check.optional Check.text) s.generator.output
  enabled : Taken (value "formatting" "enabled") false Check.bool s.formatting.enabled
  command : Taken (value "formatting" "command") standardFormatter FormatterSettings.checkCommand
    s.formatting.command
  timeout : Taken (value "formatting" "timeout_sec") standardTimeout FormatterSettings.checkTimeout
    s.formatting.timeout

theorem exists_opened_iff {v : Value} {ms : List (Value × Value)} {P : List (Value × Value) → Prop}
    (hv : v.opened = .mapping ms) : (∃ es, v.opened = .mapping es ∧ P es) ↔ P ms := by
  constructor
  · rintro ⟨es, hes, h⟩
    rw [hv] at hes
    cases hes
    exact h
  · intro h
    exact ⟨ms, hv, h⟩

theorem member_eq_good_iff {α : Type} {key : Text} {absent a : α} {check : Value → Verdict α}
    {v : Value} {ms : List (Value × Value)} (hv : v.opened = .mapping ms) :
    Check.member key absent check ms = .good a ↔ Taken (v.get? key) absent check a := by
  rw [Check.member_eq_good_iff, Taken, Value.get?, hv]

theorem check_mapping_eq_good_iff (h : Grouped es) : check homes (.mapping es) = .good s
    ↔ TakenFrom homes (fun group key => (groupValue group es).get? key) s := by
  obtain ⟨ls, hls, _⟩ := h.groupValue "logging"
  obtain ⟨gs, hgs, _⟩ := h.groupValue "generator"
  obtain ⟨fs, hfs, _⟩ := h.groupValue "formatting"
  have hgood : check homes (.mapping es) = .good s
      ↔ LogSettings.check homes (groupValue "logging" es) = .good s.logging
        ∧ GeneratorSettings.check (groupValue "generator" es) = .good s.generator
        ∧ FormatterSettings.check (groupValue "formatting" es) = .good s.formatting := by
    rw [check_eq_good_iff, exists_opened_iff (Value.opened_mapping es),
      member_eq_groupValue log_check_empty, member_eq_groupValue generator_check_empty,
      member_eq_groupValue formatter_check_empty, Verdict.under_eq_good_iff,
      Verdict.under_eq_good_iff, Verdict.under_eq_good_iff]
  rw [hgood, LogSettings.check_eq_good_iff, exists_opened_iff hls, member_eq_good_iff hls,
    member_eq_good_iff hls, GeneratorSettings.check_eq_good_iff, exists_opened_iff hgs,
    member_eq_good_iff hgs, member_eq_good_iff hgs, FormatterSettings.check_eq_good_iff,
    exists_opened_iff hfs, member_eq_good_iff hfs, member_eq_good_iff hfs, member_eq_good_iff hfs]
  constructor
  · rintro ⟨⟨hl, ho⟩, ⟨hd, hg⟩, he, hc, ht⟩
    exact ⟨hl, ho, hd, hg, he, hc, ht⟩
  · rintro ⟨hl, ho, hd, hg, he, hc, ht⟩
    exact ⟨⟨hl, ho⟩, ⟨hd, hg⟩, he, hc, ht⟩

/-! ## one setting alone -/

theorem get?_alone (l : Leaf) (v : Option Value) :
    (groupValue l.group.name (l.alone v)).get? l.key = v := by
  rw [groupValue, Leaf.alone, Entries.find?_cons_self, Option.getD_some, Value.get?,
    Value.opened_mapping]
  cases v with
  | none => rfl
  | some v => exact Entries.find?_cons_self

/-- entries that give a value to one setting give none to another one -/
theorem get?_alone_of_ne {l : Leaf} {group key : Text} (h : (l.group.name, l.key) ≠ (group, key))
    (v : Option Value) : (groupValue group (l.alone v)).get? key = none := by
  rw [groupValue, Leaf.alone]
  by_cases hg : l.group.name = group
  · have hk : l.key ≠ key := fun e => h (by rw [hg, e])
    rw [hg, Entries.find?_cons_self, Option.getD_some, Value.get?, Value.opened_mapping]
    cases v with
    | none => rfl
    | some v => exact Entries.find?_cons_of_ne fun e => hk (Value.text.inj e)
  · rw [Entries.find?_cons_of_ne fun e => hg (Value.text.inj e)]
    rfl

section
variable {α : Type} {absent a : α} {check : Value → Verdict α} {v : Option Value}

theorem taken_alone {l : Leaf} {group key : Text} (hl : (l.group.name, l.key) = (group, key))
    (h : Taken v absent check a) : Taken ((groupValue group (l.alone v)).get? key) absent check a := by
  cases hl
  rw [get?_alone]
  exact h

theorem taken_of_alone {l : Leaf} {group key : Text}
    (h : Taken ((groupValue group (l.alone v)).get? key) absent check a)
    (hl : (l.group.name, l.key) = (group, key)) : Taken v absent check a := by
  cases hl
  rw [get?_alone] at h
  exact h

theorem taken_other {l : Leaf} {group key : Text} (h : (l.group.name, l.key) ≠ (group, key)) :
    Taken ((groupValue group (l.alone v)).get? key) absent check absent :=
  .inl ⟨get?_alone_of_ne h v, rfl⟩

end

/-- a setting is what it would be if it were the only one that is given -/
theorem leaf_of_takenFrom {value : Text → Text → Option Value} (h : TakenFrom homes value s) :
    ∀ l ∈ Leaf.all, ∃ t, check homes (.mapping (l.alone (value l.group.name l.key))) = .good t
      ∧ l.of s = l.of t := by
  have halone (l : Leaf) (hl : l ∈ Leaf.all) (t : Settings) (ht : TakenFrom homes (fun group key =>
      (groupValue group (l.alone (value l.group.name l.key))).get? key) t) (hof : l.of s = l.of t) :
      ∃ t, check homes (.mapping (l.alone (value l.group.name l.key))) = .good t
        ∧ l.of s = l.of t :=
    ⟨t, (check_mapping_eq_good_iff (grouped_alone l hl _)).mpr ht, hof⟩
  -- the other settings are as they are by default, so that the given one alone makes them all
  have hall : ∀ l ∈ Leaf.all, ∃ t, TakenFrom homes (fun group key =>
      (groupValue group (l.alone (value l.group.name l.key))).get? key) t ∧ l.of s = l.of t := by
    rw [Leaf.forall_all]
    simp only [groups, List.forall_mem_cons, List.not_mem_nil, false_implies, implies_true, and_true]
    refine ⟨⟨?level, ?outputs⟩, ⟨?documentation, ?output⟩, ?enabled, ?command, ?timeout⟩
    case level =>
      refine ⟨{ logging := { level := s.logging.level } }, ?_, rfl⟩
      constructor
      case level => exact taken_alone rfl h.level
      all_goals exact taken_other (by decide)
    case outputs =>
      refine ⟨{ logging := { outputs := s.logging.outputs } }, ?_, rfl⟩
      constructor
      case outputs => exact taken_alone rfl h.outputs
      all_goals exact taken_other (by decide)
    case documentation =>
      refine ⟨{ generator := { documentation := s.generator.documentation } }, ?_, rfl⟩
      constructor
      case documentation => exact taken_alone rfl h.documentation
      all_goals exact taken_other (by decide)
    case output =>
      refine ⟨{ generator := { output := s.generator.output } }, ?_, rfl⟩
      constructor
      case output => exact taken_alone rfl h.output
      all_goals exact taken_other (by decide)
    case enabled =>
      refine ⟨{ formatting := { enabled := s.formatting.enabled } }, ?_, rfl⟩
      constructor
      case enabled => exact taken_alone rfl h.enabled
      all_goals exact taken_other (by decide)
    case command =>
      refine ⟨{ formatting := { command := s.formatting.command } }, ?_, rfl⟩
      constructor
      case command => exact taken_alone rfl h.command
      all_goals exact taken_other (by decide)
    case timeout =>
      refine ⟨{ formatting := { timeout := s.formatting.timeout } }, ?_, rfl⟩
      constructor
      case timeout => exact taken_alone rfl h.timeout
      all_goals exact taken_other (by decide)
  intro l hl
  obtain ⟨t, ht, hof⟩ := hall l hl
  exact halone l hl t ht hof

theorem takenFrom_alone {l : Leaf} (hl : l ∈ Leaf.all) {v : Option Value}
    (h : ∃ t, check homes (.mapping (l.alone v)) = .good t) :
    ∃ t, TakenFrom homes (fun group key => (groupValue group (l.alone v)).get? key) t := by
  obtain ⟨t, ht⟩ := h
  exact ⟨t, (check_mapping_eq_good_iff (grouped_alone l hl v)).mp ht⟩

/-- settings are good if every one of them is -/
theorem takenFrom_iff {value : Text → Text → Option Value} : (∃ s, TakenFrom homes value s)
    ↔ ∀ l ∈ Leaf.all, ∃ t, check homes (.mapping (l.alone (value l.group.name l.key))) = .good t := by
  constructor
  · rintro ⟨s, h⟩ l hl
    obtain ⟨t, ht, _⟩ := leaf_of_takenFrom h l hl
    exact ⟨t, ht⟩
  · intro h
    have hall : ∀ l ∈ Leaf.all, ∃ t, TakenFrom homes (fun group key =>
        (groupValue group (l.alone (value l.group.name l.key))).get? key) t :=
      fun l hl => takenFrom_alone hl (h l hl)
    rw [Leaf.forall_all] at hall
    simp only [groups, List.forall_mem_cons, List.not_mem_nil, false_implies, implies_true,
      and_true] at hall
    obtain ⟨⟨⟨l, hl⟩, ⟨o, ho⟩⟩, ⟨⟨d, hd⟩, ⟨g, hg⟩⟩, ⟨e, he⟩, ⟨c, hc⟩, ⟨t, ht⟩⟩ := hall
    exact ⟨{ logging := { level := l.logging.level, outputs := o.logging.outputs }
             generator := { documentation := d.generator.documentation, output := g.generator.output }
             formatting := { enabled := e.formatting.enabled, command := c.formatting.command
                             timeout := t.formatting.timeout } },
      taken_of_alone hl.level rfl, taken_of_alone ho.outputs rfl,
      taken_of_alone hd.documentation rfl, taken_of_alone hg.output rfl,
      taken_of_alone he.enabled rfl, taken_of_alone hc.command rfl,
      taken_of_alone ht.timeout rfl⟩

/-! ## mappings -/

section
variable {α : Type} {v : Value} (hv : v.isMapping = true)
include hv

theorem list_isMapping (check : Value → Verdict α) (a : List α) : Check.list check v ≠ .good a := by
  obtain ⟨es, hes⟩ := Value.isMapping_iff.mp hv
  intro h
  obtain ⟨items, hitems, _⟩ := Check.list_eq_good_iff.mp h
  rw [Check.items?, hes] at hitems
  cases hitems

theorem word_isMapping (name : α → Text) (all : List α) (a : α) : Check.word name all v ≠ .good a := by
  obtain ⟨es, rfl⟩ | ⟨n, body, rfl⟩ := Value.mapping_or_knot hv
  · exact nofun
  · exact nofun

theorem bool_isMapping (b : Bool) : Check.bool v ≠ .good b := by
  obtain ⟨es, rfl⟩ | ⟨n, body, rfl⟩ := Value.mapping_or_knot hv
  · exact nofun
  · exact nofun

theorem text_isMapping (t : Option Text) : Check.optional Check.text v ≠ .good t := by
  obtain ⟨es, rfl⟩ | ⟨n, body, rfl⟩ := Value.mapping_or_knot hv
  · exact nofun
  · exact nofun

theorem timeout_isMapping (x : Binary64) : FormatterSettings.checkTimeout v ≠ .good x := by
  obtain ⟨es, rfl⟩ | ⟨n, body, rfl⟩ := Value.mapping_or_knot hv
  · exact nofun
  · exact nofun

theorem command_isMapping (c : List Text) : FormatterSettings.checkCommand v ≠ .good c :=
  fun h => list_isMapping hv _ _ (Check.keeping_eq_good_iff.mp h).1

theorem not_taken_of_isMapping {absent a : α} {check : Value → Verdict α}
    (hcheck : v.isMapping = true → ∀ a, check v ≠ .good a) : ¬ Taken (some v) absent check a := by
  rintro (⟨h, _⟩ | ⟨w, hw, h⟩)
  · cases h
  · cases hw
    exact hcheck hv a h

end

/-- no single setting is a mapping -/
theorem not_good_of_isMapping {l : Leaf} (hl : l ∈ Leaf.all) {v : Value} (hv : v.isMapping = true) :
    ¬ ∃ t, check homes (.mapping (l.alone (some v))) = .good t := by
  intro h
  have hall : ∀ l ∈ Leaf.all, ∀ t, ¬ TakenFrom homes
      (fun group key => (groupValue group (l.alone (some v))).get? key) t := by
    rw [Leaf.forall_all]
    simp only [groups, List.forall_mem_cons, List.not_mem_nil, false_implies, implies_true, and_true]
    refine ⟨⟨?level, ?outputs⟩, ⟨?documentation, ?output⟩, ?enabled, ?command, ?timeout⟩
    case level =>
      intro t ht
      exact not_taken_of_isMapping hv (word_isMapping · _ _) (taken_of_alone ht.level rfl)
    case outputs =>
      intro t ht
      exact not_taken_of_isMapping hv (list_isMapping · _) (taken_of_alone ht.outputs rfl)
    case documentation =>
      intro t ht
      exact not_taken_of_isMapping hv bool_isMapping (taken_of_alone ht.documentation rfl)
    case output =>
      intro t ht
      exact not_taken_of_isMapping hv text_isMapping (taken_of_alone ht.output rfl)
    case enabled =>
      intro t ht
      exact not_taken_of_isMapping hv bool_isMapping (taken_of_alone ht.enabled rfl)
    case command =>
      intro t ht
      exact not_taken_of_isMapping hv command_isMapping (taken_of_alone ht.command rfl)
    case timeout =>
      intro t ht
      exact not_taken_of_isMapping hv timeout_isMapping (taken_of_alone ht.timeout rfl)
  obtain ⟨t, ht⟩ := takenFrom_alone hl h
  exact hall l hl t ht

end

end DatabaseTypes.Settings
