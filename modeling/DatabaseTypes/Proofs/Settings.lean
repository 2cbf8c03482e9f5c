import DatabaseTypes.Proofs.Path
import DatabaseTypes.Settings.Load
import Mathlib.Data.List.Forall2

/-!
# Settings that are read again

Settings that pass their check keep the rules of their fields, and pass it again, as they are, when they are read
from their own values.

* `Verdict.both_eq_good_iff`, `Check.list_eq_good_iff`, …   what is good is good in all its parts
* `Settings.IsSound`          settings that keep the rules
* `Settings.isSound_of_check`   checked settings do
* `Settings.reread_of_check`    they are read from their own values
-/

namespace DatabaseTypes

open Yaml

/-! ## good verdicts -/

namespace Verdict

variable {α β : Type}

theorem map_eq_good_iff {v : Verdict α} {f : α → β} {b : β} :
    v.map f = .good b ↔ ∃ a, v = .good a ∧ f a = b := by
  cases v with
  | good a =>
    constructor
    · intro h; cases h; exact ⟨a, rfl, rfl⟩
    · rintro ⟨_, ⟨⟩, rfl⟩; rfl
  | bad issues => exact ⟨nofun, fun ⟨_, h, _⟩ => nomatch h⟩
  | broken fault => exact ⟨nofun, fun ⟨_, h, _⟩ => nomatch h⟩

theorem andThen_eq_good_iff {v : Verdict α} {f : α → Verdict β} {b : β} :
    v.andThen f = .good b ↔ ∃ a, v = .good a ∧ f a = .good b := by
  cases v with
  | good a =>
    constructor
    · intro h; exact ⟨a, rfl, h⟩
    · rintro ⟨_, ⟨⟩, h⟩; exact h
  | bad issues => exact ⟨nofun, fun ⟨_, h, _⟩ => nomatch h⟩
  | broken fault => exact ⟨nofun, fun ⟨_, h, _⟩ => nomatch h⟩

theorem both_eq_good_iff {v : Verdict α} {w : Verdict β} {a : α} {b : β} :
    v.both w = .good (a, b) ↔ v = .good a ∧ w = .good b := by
  cases v <;> cases w <;> simp [both]

theorem under_eq_good_iff {v : Verdict α} {part : Text} {a : α} :
    v.under part = .good a ↔ v = .good a := by
  cases v <;> simp [under]

theorem all_eq_good_iff {vs : List (Verdict α)} {as : List α} :
    all vs = .good as ↔ List.Forall₂ (fun v a => v = .good a) vs as := by
  induction vs generalizing as with
  | nil =>
    rw [List.forall₂_nil_left_iff]
    constructor
    · intro h; cases h; rfl
    · rintro rfl; rfl
  | cons v vs ih =>
    rw [all, map_eq_good_iff]
    constructor
    · rintro ⟨⟨a, bs⟩, h, rfl⟩
      obtain ⟨hv, hvs⟩ := both_eq_good_iff.mp h
      exact .cons hv (ih.mp hvs)
    · intro h
      cases h with
      | cons hv hvs => exact ⟨(_, _), both_eq_good_iff.mpr ⟨hv, ih.mpr hvs⟩, rfl⟩

end Verdict

namespace Check

variable {α : Type}

theorem keeping_eq_good_iff {v : Value} {rule : α → Option Text} {verdict : Verdict α} {a : α} :
    keeping v rule verdict = .good a ↔ verdict = .good a ∧ rule a = none := by
  rw [keeping, Verdict.andThen_eq_good_iff]
  constructor
  · rintro ⟨b, hb, h⟩
    cases hr : rule b with
    | none =>
      rw [hr] at h
      cases h
      exact ⟨hb, hr⟩
    | some broken =>
      rw [hr] at h
      cases h
  · rintro ⟨hb, hr⟩
    refine ⟨a, hb, ?_⟩
    rw [hr]

theorem forall₂_mapIdx {f : Nat → Value → Verdict α} {check : Value → Verdict α}
    (hf : ∀ i v a, f i v = .good a ↔ check v = .good a) {items : List Value} {as : List α} :
    List.Forall₂ (fun v a => v = .good a) (items.mapIdx f) as
      ↔ List.Forall₂ (fun v a => check v = .good a) items as := by
  induction items generalizing f as with
  | nil => rw [List.mapIdx_nil, List.forall₂_nil_left_iff, List.forall₂_nil_left_iff]
  | cons v items ih =>
    rw [List.mapIdx_cons]
    cases as with
    | nil => exact ⟨nofun, nofun⟩
    | cons a as =>
      rw [List.forall₂_cons, List.forall₂_cons, hf, ih fun i => hf (i + 1)]

/-- a list is good if every item is -/
theorem list_eq_good_iff {check : Value → Verdict α} {v : Value} {as : List α} :
    list check v = .good as
      ↔ ∃ items, items? v = some items ∧ List.Forall₂ (fun v a => check v = .good a) items as := by
  rw [list]
  cases items? v with
  | none => exact ⟨nofun, fun ⟨_, h, _⟩ => nomatch h⟩
  | some items =>
    dsimp only
    rw [Verdict.all_eq_good_iff, forall₂_mapIdx fun _ _ _ => Verdict.under_eq_good_iff]
    constructor
    · intro h; exact ⟨items, rfl, h⟩
    · rintro ⟨_, ⟨⟩, h⟩; exact h

theorem member_eq_good_iff {key : Text} {absent a : α} {check : Value → Verdict α}
    {es : List (Value × Value)} : member key absent check es = .good a
      ↔ (Entries.find? (.text key) es = none ∧ a = absent)
        ∨ ∃ v, Entries.find? (.text key) es = some v ∧ check v = .good a := by
  rw [member]
  cases Entries.find? (.text key) es with
  | none =>
    constructor
    · intro h; cases h; exact .inl ⟨rfl, rfl⟩
    · rintro (⟨_, rfl⟩ | ⟨_, h, _⟩)
      · rfl
      · cases h
  | some v =>
    dsimp only
    rw [Verdict.under_eq_good_iff]
    constructor
    · intro h; exact .inr ⟨v, rfl, h⟩
    · rintro (⟨h, _⟩ | ⟨_, ⟨⟩, h⟩)
      · cases h
      · exact h

theorem exists_of_mem_forall₂ {check : Value → Verdict α} {items : List Value} {as : List α} {a : α}
    (h : List.Forall₂ (fun v a => check v = .good a) items as) (ha : a ∈ as) :
    ∃ v, check v = .good a := by
  induction h with
  | nil => cases ha
  | cons hv _ ih =>
    rcases List.mem_cons.mp ha with rfl | ha
    · exact ⟨_, hv⟩
    · exact ih ha

theorem group_eq_good_iff {name : Text} {check : List (Value × Value) → Verdict α} {v : Value} {a : α} :
    group name check v = .good a ↔ ∃ es, v.opened = .mapping es ∧ check es = .good a := by
  rw [group]
  constructor
  · intro h
    split at h
    · rename_i es hes
      exact ⟨es, hes, h⟩
    · cases h
  · rintro ⟨es, hes, h⟩
    rw [hes]
    exact h

end Check

/-! ## good groups -/

theorem LogOutput.check_eq_good_iff {homes : Path.Homes} {v : Value} {o : LogOutput} :
    check homes v = .good o ↔ ∃ es, v.opened = .mapping es
      ∧ Check.member "format" .console (Check.word LogFormat.name [.json, .console]) es = .good o.format
      ∧ Check.member "destination" ("stderr" : Text) (checkDestination homes) es = .good o.destination
      ∧ Check.member "level" none (Check.optional (Check.word Level.name Level.all)) es
        = .good o.level := by
  rw [check, Check.group_eq_good_iff]
  refine exists_congr fun es => and_congr_right fun _ => ?_
  rw [Verdict.map_eq_good_iff]
  constructor
  · rintro ⟨⟨format, destination, level⟩, h, rfl⟩
    obtain ⟨hf, hrest⟩ := Verdict.both_eq_good_iff.mp h
    exact ⟨hf, Verdict.both_eq_good_iff.mp hrest⟩
  · rintro ⟨hf, hrest⟩
    exact ⟨(o.format, o.destination, o.level),
      Verdict.both_eq_good_iff.mpr ⟨hf, Verdict.both_eq_good_iff.mpr hrest⟩, rfl⟩

theorem LogSettings.check_eq_good_iff {homes : Path.Homes} {v : Value} {s : LogSettings} :
    check homes v = .good s ↔ ∃ es, v.opened = .mapping es
      ∧ Check.member "level" .warning (Check.word Level.name Level.all) es = .good s.level
      ∧ Check.member "outputs" [{}] (Check.list (LogOutput.check homes)) es = .good s.outputs := by
  rw [check, Check.group_eq_good_iff]
  refine exists_congr fun es => and_congr_right fun _ => ?_
  rw [Verdict.map_eq_good_iff]
  constructor
  · rintro ⟨⟨level, outputs⟩, h, rfl⟩
    exact Verdict.both_eq_good_iff.mp h
  · intro h
    exact ⟨(s.level, s.outputs), Verdict.both_eq_good_iff.mpr h, rfl⟩

theorem GeneratorSettings.check_eq_good_iff {v : Value} {s : GeneratorSettings} :
    check v = .good s ↔ ∃ es, v.opened = .mapping es
      ∧ Check.member "documentation" true Check.bool es = .good s.documentation
      ∧ Check.member "output" none (Check.optional Check.text) es = .good s.output := by
  rw [check, Check.group_eq_good_iff]
  refine exists_congr fun es => and_congr_right fun _ => ?_
  rw [Verdict.map_eq_good_iff]
  constructor
  · rintro ⟨⟨documentation, output⟩, h, rfl⟩
    exact Verdict.both_eq_good_iff.mp h
  · intro h
    exact ⟨(s.documentation, s.output), Verdict.both_eq_good_iff.mpr h, rfl⟩

namespace FormatterSettings

/-- the command of a formatter -/
def checkCommand (v : Value) : Verdict (List Text) := Check.keeping v commandRule (Check.list Check.text v)

/-- the time that a formatter is given -/
def checkTimeout (v : Value) : Verdict Binary64 := Check.keeping v timeoutRule (Check.number v)

theorem check_eq_good_iff {v : Value} {s : FormatterSettings} :
    check v = .good s ↔ ∃ es, v.opened = .mapping es
      ∧ Check.member "enabled" false Check.bool es = .good s.enabled
      ∧ Check.member "command" standardFormatter checkCommand es = .good s.command
      ∧ Check.member "timeout_sec" standardTimeout checkTimeout es = .good s.timeout := by
  rw [check, Check.group_eq_good_iff]
  refine exists_congr fun es => and_congr_right fun _ => ?_
  rw [Verdict.map_eq_good_iff]
  constructor
  · rintro ⟨⟨enabled, command, timeout⟩, h, rfl⟩
    obtain ⟨he, hrest⟩ := Verdict.both_eq_good_iff.mp h
    exact ⟨he, Verdict.both_eq_good_iff.mp hrest⟩
  · rintro ⟨he, hrest⟩
    exact ⟨(s.enabled, s.command, s.timeout),
      Verdict.both_eq_good_iff.mpr ⟨he, Verdict.both_eq_good_iff.mpr hrest⟩, rfl⟩

end FormatterSettings

theorem Settings.check_eq_good_iff {homes : Path.Homes} {v : Value} {s : Settings} :
    check homes v = .good s ↔ ∃ es, v.opened = .mapping es
      ∧ Check.member "logging" {} (LogSettings.check homes) es = .good s.logging
      ∧ Check.member "generator" {} GeneratorSettings.check es = .good s.generator
      ∧ Check.member "formatting" {} FormatterSettings.check es = .good s.formatting := by
  rw [check, Check.group_eq_good_iff]
  refine exists_congr fun es => and_congr_right fun _ => ?_
  rw [Verdict.map_eq_good_iff]
  constructor
  · rintro ⟨⟨logging, generator, formatting⟩, h, rfl⟩
    obtain ⟨hl, hrest⟩ := Verdict.both_eq_good_iff.mp h
    exact ⟨hl, Verdict.both_eq_good_iff.mp hrest⟩
  · rintro ⟨hl, hrest⟩
    exact ⟨(s.logging, s.generator, s.formatting),
      Verdict.both_eq_good_iff.mpr ⟨hl, Verdict.both_eq_good_iff.mpr hrest⟩, rfl⟩

/-! ## sound settings -/

/-- a destination of log messages is one of the standard ones, or an absolute path -/
def LogOutput.IsDestination (t : Text) : Prop :=
  (t = "stderr" ∨ t = "stdout") ∨ ∃ p : Path, p.Normal ∧ p.isAbsolute = true ∧ t = p.text

/-- the time and the command of a formatter keep their rules -/
structure FormatterSettings.IsSound (s : FormatterSettings) : Prop where
  command : commandRule s.command = none
  timeout : timeoutRule s.timeout = none

/-- settings keep the rules of their fields -/
structure Settings.IsSound (s : Settings) : Prop where
  destinations : ∀ o ∈ s.logging.outputs, LogOutput.IsDestination o.destination
  formatting : s.formatting.IsSound

section
variable {homes : Path.Homes} {v : Value}

/-- a member keeps a rule if its default does, and everything that passes the check -/
theorem Check.holds_of_member {α : Type} {key : Text} {absent a : α} {check : Value → Verdict α}
    {es : List (Value × Value)} {P : α → Prop} (h : member key absent check es = .good a)
    (habsent : P absent) (hcheck : ∀ v a, check v = .good a → P a) : P a := by
  rcases member_eq_good_iff.mp h with ⟨_, rfl⟩ | ⟨v, _, hv⟩
  · exact habsent
  · exact hcheck v a hv

theorem LogOutput.isDestination_of_checkDestination {t : Text}
    (h : checkDestination homes v = .good t) : IsDestination t := by
  obtain ⟨u, _, hu⟩ := Verdict.andThen_eq_good_iff.mp h
  split at hu
  · rename_i hstandard
    cases hu
    exact .inl hstandard
  · split at hu
    · cases hu
    · rename_i p hp
      split at hu
      · rename_i habsolute
        cases hu
        exact .inr ⟨p, (Path.normal_ofText u).expanded hp, habsolute, rfl⟩
      · cases hu

theorem LogOutput.isDestination_of_check {o : LogOutput} (h : check homes v = .good o) :
    IsDestination o.destination := by
  obtain ⟨es, _, _, hd, _⟩ := check_eq_good_iff.mp h
  exact Check.holds_of_member hd (.inl (.inl rfl)) fun _ _ => isDestination_of_checkDestination

theorem LogOutput.isDestination_default : ∀ o ∈ [({} : LogOutput)], IsDestination o.destination := by
  intro o ho
  rw [List.mem_singleton.mp ho]
  exact .inl (.inl rfl)

theorem LogSettings.isDestination_of_check {s : LogSettings} (h : check homes v = .good s) :
    ∀ o ∈ s.outputs, LogOutput.IsDestination o.destination := by
  obtain ⟨es, _, _, ho⟩ := check_eq_good_iff.mp h
  refine Check.holds_of_member (P := fun l => ∀ o ∈ l, LogOutput.IsDestination o.destination) ho
    LogOutput.isDestination_default fun w outputs hw o ho => ?_
  obtain ⟨items, _, hitems⟩ := Check.list_eq_good_iff.mp hw
  obtain ⟨item, hitem⟩ := Check.exists_of_mem_forall₂ hitems ho
  exact LogOutput.isDestination_of_check hitem

theorem FormatterSettings.isSound_default : ({} : FormatterSettings).IsSound :=
  ⟨rfl, by decide +kernel⟩

theorem FormatterSettings.isSound_of_check {s : FormatterSettings} (h : check v = .good s) :
    s.IsSound := by
  obtain ⟨es, _, _, hc, ht⟩ := check_eq_good_iff.mp h
  constructor
  · exact Check.holds_of_member (P := fun c => commandRule c = none) hc isSound_default.command
      fun _ _ hw => (Check.keeping_eq_good_iff.mp hw).2
  · exact Check.holds_of_member (P := fun t => timeoutRule t = none) ht isSound_default.timeout
      fun _ _ hw => (Check.keeping_eq_good_iff.mp hw).2

/-- settings that pass their check keep the rules -/
theorem Settings.isSound_of_check {s : Settings} (h : check homes v = .good s) : s.IsSound := by
  obtain ⟨es, _, hl, _, hf⟩ := check_eq_good_iff.mp h
  constructor
  · exact Check.holds_of_member
      (P := fun l : LogSettings => ∀ o ∈ l.outputs, LogOutput.IsDestination o.destination) hl
      LogOutput.isDestination_default fun _ _ => LogSettings.isDestination_of_check
  · exact Check.holds_of_member hf FormatterSettings.isSound_default
      fun _ _ => FormatterSettings.isSound_of_check

/-! ## reading settings again -/

theorem LogOutput.checkDestination_eq (t : Text) : checkDestination homes (.text t)
    = if t = "stderr" ∨ t = "stdout" then .good t
      else match (Path.ofText t).expanded homes with
        | .error fault => .broken fault
        | .ok p => if p.isAbsolute then .good p.text
          else .issue (.broken ("File destination must be absolute path: " ++ t.halvesReplaced)) (.text t) :=
  rfl

theorem LogOutput.checkDestination_text {t : Text} (h : IsDestination t) :
    checkDestination homes (.text t) = .good t := by
  rw [checkDestination_eq]
  rcases h with hstandard | ⟨p, hn, ha, hd⟩
  · rw [if_pos hstandard]
  · split
    · rfl
    · rw [hd, Path.ofText_text hn, Path.expanded_of_isAbsolute ha]
      dsimp only
      rw [if_pos ha]

theorem Level.word_name (l : Level) : Check.word name all (.text l.name) = .good l := by
  cases l <;> rfl

theorem LogFormat.word_name (f : LogFormat) :
    Check.word name [.json, .console] (.text f.name) = .good f := by
  cases f <;> rfl

/-- an output of the log as a value -/
def LogOutput.toJson (o : LogOutput) : Json :=
  .object [("format", .text o.format.name), ("destination", .text o.destination),
    ("level", (o.level.map fun l => Json.text l.name).getD .null)]

theorem LogOutput.check_toJson {o : LogOutput} (h : IsDestination o.destination) :
    check homes (.ofJson o.toJson) = .good o := by
  refine check_eq_good_iff.mpr ⟨_, rfl, ?_, ?_, ?_⟩
  · exact Check.member_eq_good_iff.mpr (.inr ⟨_, rfl, o.format.word_name⟩)
  · exact Check.member_eq_good_iff.mpr (.inr ⟨_, rfl, checkDestination_text h⟩)
  · refine Check.member_eq_good_iff.mpr (.inr ⟨_, rfl, ?_⟩)
    cases o.level with
    | none => rfl
    | some l =>
      show (Check.word Level.name Level.all (.text l.name)).map some = _
      rw [l.word_name]
      rfl

/-- items that are checked as they are given again -/
theorem Check.list_ofJson {α : Type} {check : Value → Verdict α} {toJson : α → Json} {as : List α}
    (h : ∀ a ∈ as, check (.ofJson (toJson a)) = .good a) :
    list check (.ofJson (.list (as.map toJson))) = .good as := by
  have hitems : List.Forall₂ (fun v a => check v = .good a)
      (Value.ofJsonItems (as.map toJson)) as := by
    induction as with
    | nil => exact .nil
    | cons a as ih =>
      exact .cons (h a List.mem_cons_self) (ih fun b hb => h b (List.mem_cons_of_mem _ hb))
  exact list_eq_good_iff.mpr ⟨_, rfl, hitems⟩

/-- sound settings are read from their own values -/
theorem Settings.check_toJson {s : Settings} (h : s.IsSound) :
    check homes (.ofJson s.toJson) = .good s := by
  refine check_eq_good_iff.mpr ⟨_, rfl, ?_, ?_, ?_⟩
  · refine Check.member_eq_good_iff.mpr (.inr ⟨_, rfl, ?_⟩)
    refine LogSettings.check_eq_good_iff.mpr ⟨_, rfl, ?_, ?_⟩
    · exact Check.member_eq_good_iff.mpr (.inr ⟨_, rfl, s.logging.level.word_name⟩)
    · refine Check.member_eq_good_iff.mpr (.inr ⟨_, rfl, ?_⟩)
      exact Check.list_ofJson fun o ho => LogOutput.check_toJson (h.destinations o ho)
  · refine Check.member_eq_good_iff.mpr (.inr ⟨_, rfl, ?_⟩)
    refine GeneratorSettings.check_eq_good_iff.mpr ⟨_, rfl, ?_, ?_⟩
    · exact Check.member_eq_good_iff.mpr (.inr ⟨_, rfl, rfl⟩)
    · refine Check.member_eq_good_iff.mpr (.inr ⟨_, rfl, ?_⟩)
      cases s.generator.output with
      | none => rfl
      | some t => rfl
  · refine Check.member_eq_good_iff.mpr (.inr ⟨_, rfl, ?_⟩)
    refine FormatterSettings.check_eq_good_iff.mpr ⟨_, rfl, ?_, ?_, ?_⟩
    · exact Check.member_eq_good_iff.mpr (.inr ⟨_, rfl, rfl⟩)
    · refine Check.member_eq_good_iff.mpr (.inr ⟨_, rfl, ?_⟩)
      refine Check.keeping_eq_good_iff.mpr ⟨?_, h.formatting.command⟩
      exact Check.list_ofJson fun _ _ => rfl
    · refine Check.member_eq_good_iff.mpr (.inr ⟨_, rfl, ?_⟩)
      exact Check.keeping_eq_good_iff.mpr ⟨rfl, h.formatting.timeout⟩

/-- **Checked settings are read again** from their own values, as they are. -/
theorem Settings.reread_of_check {s : Settings} (h : check homes v = .good s) :
    reread homes s = .ok s := by
  rw [reread, check_toJson (isSound_of_check h)]
  rfl

end

end DatabaseTypes
