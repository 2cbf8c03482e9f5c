import DatabaseTypes.Proofs.Rounding
import DatabaseTypes.Proofs.Settings.Mixed

/-!
# Settings that are loaded again

Settings that have been loaded keep the rules of their fields.  Given by the caller, their values override all that
the files and variables give, and the same settings are loaded.  That can only fail where nothing of them is overridden:
a name in a group that is no setting keeps what variables and files give it, and mixing that may have no end.

* `Settings.sections`      the groups of settings, as a caller gives them
* `Settings.ofMerged_of_gives`   what gives these values gives these settings
* `Settings.exists_overriding_again`   mixing ends again if the caller gave nothing but settings
* `Settings.load_again`    settings are loaded again
-/

namespace DatabaseTypes

/-! ## times -/

/-- the value of a finite number -/
def Binary64.signedValue (negative : Bool) (m : Nat) (e : Int) : ℚ := (if negative then -1 else 1) * (m * 2 ^ e)

/-- finite numbers are compared by their values -/
theorem Binary64.atMost_finite_iff {s t : Bool} {m n : Nat} {e f : Int} :
    (Binary64.finite s m e).atMost (.finite t n f) = true ↔ signedValue s m e ≤ signedValue t n f := by
  have hb : (0 : ℚ) < (scaledByTwo m 1 e).2 := by exact_mod_cast scaledByTwo_pos m one_pos e
  have hd : (0 : ℚ) < (scaledByTwo n 1 f).2 := by exact_mod_cast scaledByTwo_pos n one_pos f
  have hvalue (s : Bool) (m : Nat) (e : Int) :
      signedValue s m e = (if s then -1 else 1) * (scaledByTwo m 1 e).1 / (scaledByTwo m 1 e).2 := by
    rw [signedValue, mul_div_assoc]
    change _ = _ * ratio (scaledByTwo m 1 e)
    rw [ratio_magnitude]
  rw [hvalue, hvalue, div_le_div_iff₀ hb hd, atMost, decide_eq_true_iff, ← Int.cast_le (R := ℚ)]
  push_cast
  rw [mul_assoc, mul_assoc]

theorem FormatterSettings.longestTimeout_eq : longestTimeout = .finite false (600 * 2 ^ 43) (-43) := by
  decide +kernel

/-- a formatter is given a finite time above zero, and at most ten minutes -/
theorem FormatterSettings.exists_of_isTimeout {x : Binary64} (h : isTimeout x = true) :
    ∃ m e, x = .finite false m e ∧ 0 < (m * 2 ^ e : ℚ) ∧ (m * 2 ^ e : ℚ) ≤ 600 := by
  rw [isTimeout, Bool.and_eq_true, Bool.not_eq_true', longestTimeout_eq] at h
  obtain ⟨hzero, hmost⟩ := h
  cases x with
  | notANumber => cases hmost
  | infinite s =>
    cases s with
    | false => cases hmost
    | true => cases hzero
  | finite s m e =>
    rw [Binary64.zero, ← Bool.not_eq_true, Binary64.atMost_finite_iff, not_le] at hzero
    rw [Binary64.atMost_finite_iff] at hmost
    have hlongest : Binary64.signedValue false (600 * 2 ^ 43) (-43) = 600 := by
      norm_num [Binary64.signedValue]
    have hnothing : Binary64.signedValue false 0 Binary64.leastExponent = 0 := by
      rw [Binary64.signedValue, Nat.cast_zero, zero_mul, mul_zero]
    rw [hnothing] at hzero
    rw [hlongest] at hmost
    cases s with
    | true =>
      have hvalue : (0 : ℚ) ≤ m * 2 ^ e := by positivity
      rw [Binary64.signedValue, if_pos rfl] at hzero
      linarith
    | false =>
      rw [Binary64.signedValue, if_neg Bool.false_ne_true, one_mul] at hzero hmost
      exact ⟨m, e, rfl, hzero, hmost⟩

namespace Settings

open Yaml

/-! ## the values of settings -/

/-- the groups of settings as they can be given again -/
def sections (s : Settings) : List (Text × Json) :=
  match s.toJson with
  | .object members => members
  | _ => []

theorem ofJson_toJson (s : Settings) : Value.ofJson s.toJson = .mapping (Value.ofJsonMembers s.sections) := rfl

theorem ofJsonMembers_eq_map (ms : List (Text × Json)) :
    Value.ofJsonMembers ms = ms.map fun m => (.text m.1, .ofJson m.2) := by
  induction ms with
  | nil => rfl
  | cons m ms ih => rw [Value.ofJsonMembers, ih, List.map_cons]

theorem distinct_ofJsonMembers {ms : List (Text × Json)} (h : (ms.map Prod.fst).Nodup) :
    Entries.Distinct (Value.ofJsonMembers ms) := by
  rw [ofJsonMembers_eq_map, Entries.Distinct, List.pairwise_map]
  refine (List.pairwise_map.mp h).imp fun hne => ?_
  rw [Value.sameKey_text]
  exact beq_false_of_ne hne

theorem grouped_sections (s : Settings) : Grouped (Value.ofJsonMembers s.sections) where
  distinct := distinct_ofJsonMembers (show (["logging", "generator", "formatting"] : List Text).Nodup by decide)
  named := by
    refine List.forall_mem_cons.mpr ⟨⟨_, List.mem_cons_self, rfl⟩, List.forall_mem_cons.mpr ⟨?_, ?_⟩⟩
    · exact ⟨_, List.mem_cons_of_mem _ List.mem_cons_self, rfl⟩
    · exact List.forall_mem_singleton.mpr
        ⟨_, List.mem_cons_of_mem _ (List.mem_cons_of_mem _ List.mem_cons_self), rfl⟩
  mapping := by
    refine List.forall_mem_cons.mpr ⟨⟨_, rfl, ?_⟩, List.forall_mem_cons.mpr ⟨⟨_, rfl, ?_⟩,
      List.forall_mem_singleton.mpr ⟨_, rfl, ?_⟩⟩⟩
    · exact distinct_ofJsonMembers (show (["level", "outputs"] : List Text).Nodup by decide)
    · exact distinct_ofJsonMembers (show (["documentation", "output"] : List Text).Nodup by decide)
    · exact distinct_ofJsonMembers (show (["enabled", "command", "timeout_sec"] : List Text).Nodup by decide)

/-- every setting is given -/
theorem gives_sections (s : Settings) : ∀ g ∈ groups, ∀ key ∈ g.keys,
    ∃ x, Gives (Value.ofJsonMembers s.sections) g.name key x := by
  have hgroup {name key : Text} {v w : Json} {members : List (Text × Json)} (hv : v = .object members)
      (hf : Entries.find? (.text name) (Value.ofJsonMembers s.sections) = some (.ofJson v))
      (hw : Entries.find? (.text key) (Value.ofJsonMembers members) = some (.ofJson w)) :
      ∃ x, Gives (Value.ofJsonMembers s.sections) name key x := by
    subst hv
    exact ⟨_, _, hf, rfl, hw⟩
  simp only [groups, List.forall_mem_cons, List.not_mem_nil, false_implies, implies_true, and_true]
  exact ⟨⟨hgroup rfl rfl rfl, hgroup rfl rfl rfl⟩, ⟨hgroup rfl rfl rfl, hgroup rfl rfl rfl⟩, hgroup rfl rfl rfl,
    hgroup rfl rfl rfl, hgroup rfl rfl rfl⟩

/-- the groups of settings are mappings, and nothing in them is one -/
theorem members_sections (s : Settings) : ∀ e ∈ Value.ofJsonMembers s.sections,
    ∃ ms, e.2 = .mapping (Value.ofJsonMembers ms) ∧ ∀ m ∈ ms, (Value.ofJson m.2).isMapping = false := by
  refine List.forall_mem_cons.mpr ⟨⟨_, rfl, ?_⟩, List.forall_mem_cons.mpr ⟨⟨_, rfl, ?_⟩,
    List.forall_mem_singleton.mpr ⟨_, rfl, ?_⟩⟩⟩
  · exact List.forall_mem_cons.mpr ⟨rfl, List.forall_mem_singleton.mpr rfl⟩
  · refine List.forall_mem_cons.mpr ⟨rfl, List.forall_mem_singleton.mpr ?_⟩
    cases s.generator.output <;> rfl
  · exact List.forall_mem_cons.mpr ⟨rfl, List.forall_mem_cons.mpr ⟨rfl, List.forall_mem_singleton.mpr rfl⟩⟩

theorem shallow_sections (s : Settings) : Shallow (Value.ofJsonMembers s.sections) := by
  intro e he
  obtain ⟨ms, hms, hplain⟩ := members_sections s e he
  rw [hms, ofJsonMembers_eq_map]
  refine Value.nestedWithin_mapping (Limit.depth - 1) (List.forall_mem_map.mpr fun m hm => ?_)
  exact Value.nestedWithin_of_isMapping (hplain m hm) _

theorem spelled_sections (s : Settings) : Spelled (Value.ofJsonMembers s.sections) := by
  intro e he es hes
  obtain ⟨ms, hms, _⟩ := members_sections s e he
  rw [hms] at hes
  cases hes
  exact isText_ofJsonMembers ms

theorem plain_sections {s : Settings} {group key : Text} {x : Value}
    (h : Gives (Value.ofJsonMembers s.sections) group key x) : x.isMapping = false := by
  obtain ⟨v, hv, _, hx⟩ := h
  obtain ⟨ms, hms, hplain⟩ := members_sections s _ (Entries.mem_of_find?_text hv)
  rw [show v = .mapping (Value.ofJsonMembers ms) from hms, Value.get?, Value.opened_mapping] at hx
  have hmem := Entries.mem_of_find?_text hx
  rw [ofJsonMembers_eq_map] at hmem
  obtain ⟨m, hm, heq⟩ := List.mem_map.mp hmem
  cases heq
  exact hplain m hm

/-- entries that give sound settings what they are give these settings -/
theorem ofMerged_of_gives {homes : Path.Homes} {s : Settings} (hs : s.IsSound) {es : List (Value × Value)}
    (htidy : Tidy es) (hnamed : Named es)
    (hgives : ∀ group key x, Gives (Value.ofJsonMembers s.sections) group key x → Gives es group key x) :
    ofMerged homes es = .ok s := by
  have hgiven : ∀ g ∈ groups, ∀ key ∈ g.keys, ∃ x, Gives (Value.ofJsonMembers s.sections) g.name key x
      ∧ Gives es g.name key x := by
    intro g hg key hkey
    obtain ⟨x, hx⟩ := gives_sections s g hg key hkey
    exact ⟨x, hx, hgives _ _ _ hx⟩
  have hgrouped : Grouped es := by
    refine ⟨htidy.distinct, hnamed, fun e he => ?_⟩
    obtain ⟨k, v⟩ := e
    obtain ⟨g, hg, rfl⟩ := hnamed (k, v) he
    have hkeys : ∀ g ∈ groups, ∃ key, key ∈ g.keys := by
      simp [groups]
    obtain ⟨key, hkey⟩ := hkeys g hg
    obtain ⟨x, _, w, hw, hmapping, _⟩ := hgiven g hg key hkey
    obtain rfl : v = w := Option.some.inj ((htidy.distinct.find?_of_mem he).symm.trans hw)
    obtain ⟨ms, hms⟩ := Value.isMapping_iff.mp hmapping
    exact ⟨ms, hms, htidy.mapping _ he ms hms⟩
  have hvalue {es : List (Value × Value)} {group key : Text} {x : Value} (h : Gives es group key x) :
      (groupValue group es).get? key = some x := by
    obtain ⟨v, hv, _, hx⟩ := h
    rw [groupValue, hv]
    exact hx
  have hsame : ∀ l ∈ Leaf.all, l.value? es = l.value? (Value.ofJsonMembers s.sections) := by
    refine Leaf.forall_all.mpr fun g hg key hkey => ?_
    obtain ⟨x, hx, hx'⟩ := hgiven g hg key hkey
    exact (hvalue hx').trans (hvalue hx).symm
  rw [ofMerged_grouped hgrouped, check_congr hgrouped (grouped_sections s) hsame, ← ofJson_toJson, check_toJson hs]
  rfl

/-! ## overriding again -/

/-- entries give nothing but settings -/
structure NamesSettings (es : List (Value × Value)) : Prop where
  tidy : Tidy es
  settings : ∀ g ∈ groups, ∀ v, Entries.find? (.text g.name) es = some v →
    v.isMapping = true ∧ ∀ key x, v.get? key = some x → key ∈ g.keys

/-- settings that have been loaded override everything they come from, if the caller gave nothing but settings: what
is a mapping in a group is one that the variables give, and has been put there the first time -/
theorem exists_overriding_again {s : Settings} {given environment files upper all upper' : List (Value × Value)}
    (hgiven : NamesSettings given) (henvironment : Ordered environment)
    (hupper : Entries.overriding given environment = .ok upper) (hall : Entries.overriding upper files = .ok all)
    (hupper' : Entries.overriding (Value.ofJsonMembers s.sections) environment = .ok upper') :
    ∃ all', Entries.overriding upper' files = .ok all' := by
  have hsections : Tidy (Value.ofJsonMembers s.sections) := (grouped_sections s).tidy
  have hnamed' : Named upper' := Named.overriding (grouped_sections s).named henvironment.named hupper'
  have htidy' : Tidy upper' := hsections.overriding henvironment.tidy hupper'
  have hspelled' : Spelled upper' := Spelled.overriding (spelled_sections s) henvironment.spelled hupper'
  -- a mapping in a group is one that has overridden the files before
  have hfirst {g : Group} (hg : g ∈ groups) {key : Text} {w o : Value} (hw : Gives upper' g.name key w)
      (hmapping : w.isMapping = true) (ho : Entries.find? (.text g.name) files = some o) (homapping : o.isMapping = true) :
      ∃ y, Value.overriding (Limit.depth - 1) w (o.get? key) = .ok y := by
    have hother : key ∉ g.keys := by
      intro hkey
      obtain ⟨x, hx⟩ := gives_sections s g hg key hkey
      obtain ⟨v, hv, _, hget⟩ := hx.overriding hsections (plain_sections hx) hupper'
      obtain ⟨v', hv', _, hget'⟩ := hw
      obtain rfl := Option.some.inj (hv.symm.trans hv')
      obtain rfl := Option.some.inj (hget.symm.trans hget')
      rw [plain_sections hx] at hmapping
      cases hmapping
    have hvariables : Gives environment g.name key w :=
      hw.of_overriding hmapping hsections (fun _ => plain_sections) hupper'
    obtain ⟨v, hv, hvmapping, hget⟩ : Gives upper g.name key w := by
      refine hvariables.kept hgiven.tidy (fun v hv => ?_) hupper
      obtain ⟨hv, hkeys⟩ := hgiven.settings g hg v hv
      exact ⟨hv, Option.eq_none_iff_forall_ne_some.mpr fun x hx => hother (hkeys key x hx)⟩
    cases mixed_overriding (hgiven.tidy.overriding henvironment.tidy hupper) hall g.name with
    | kept hnone => exact absurd (hnone.symm.trans hv) nofun
    | replaced hsome _ hself =>
      obtain rfl := Option.some.inj (hsome.symm.trans hv)
      rcases hself with hself | hself
      · rw [hvmapping] at hself
        cases hself
      · rw [hself o ho] at homapping
        cases homapping
    | mixed hsome hbase _ _ _ hmembers =>
      obtain rfl := Option.some.inj (hsome.symm.trans hv)
      obtain rfl := Option.some.inj (hbase.symm.trans ho)
      obtain ⟨y, hy, _⟩ := hmembers key w hget
      exact ⟨y, hy⟩
  refine Entries.exists_putAll_of_find? htidy'.distinct (fun e he => ?_) fun t v hv => ?_
  · obtain ⟨g, _, hg⟩ := hnamed' e he
    rw [hg]
    rfl
  · have hmem := Entries.mem_of_find?_text hv
    obtain ⟨g, hg, hname⟩ := hnamed' _ hmem
    cases hname
    by_cases hself : v.isMapping = false ∨ ∀ o, Entries.find? (.text g.name) files = some o → o.isMapping = false
    · exact ⟨v, Value.overriding_eq_self hself _⟩
    simp only [not_or, not_forall, Bool.not_eq_false] at hself
    obtain ⟨hvmapping, o, ho, homapping⟩ := hself
    obtain ⟨ms, hms⟩ := Value.isMapping_iff.mp hvmapping
    obtain ⟨os, hos⟩ := Value.isMapping_iff.mp homapping
    obtain ⟨es, hes⟩ : ∃ es, Entries.putAll (Value.overriding (Limit.depth - 1)) ms os = .ok es := by
      refine Entries.exists_putAll_of_find? (htidy'.mapping _ hmem ms hms) (hspelled' _ hmem ms hms) fun key w hw => ?_
      by_cases hmapping : w.isMapping = true
      · have hget := @hfirst g hg key _ _ ⟨v, hv, hvmapping, by rwa [Value.get?, hms]⟩ hmapping ho homapping
        rwa [Value.get?, hos] at hget
      · exact ⟨w, Value.overriding_eq_self (.inl (Bool.eq_false_iff.mpr hmapping)) _⟩
    rw [ho, ← depth_pred_succ, Value.overriding_mapping hms hos, hes]
    exact ⟨_, rfl⟩

/-! ## loading again -/

/-- what is true of settings that are loaded for a project, where `given` is given by the caller -/
structure Settled (s : Session) (root : Path) (given : List (Text × Json)) (c : Settings) : Prop where
  command : c.formatting.command ≠ []
  timeout : ∃ m e, c.formatting.timeout = .finite false m e ∧ 0 < (m * 2 ^ e : ℚ) ∧ (m * 2 ^ e : ℚ) ≤ 600
  destination : ∀ o ∈ c.logging.outputs,
    o.destination = "stderr" ∨ o.destination = "stdout" ∨ (Path.ofText o.destination).isAbsolute = true
  /-- the settings are loaded again if the caller gives their values -/
  again : (load root c.sections).run s = (.ok c, s)
    ∨ (load root c.sections).run s = (.error (.beyond .endlessOverride), s)
      ∧ ¬ NamesSettings (Value.ofJsonMembers given)
      ∧ ∃ environment, fromVariables s.host.environment = .ok environment ∧ ¬ Shallow environment

theorem settled_of_check {homes : Path.Homes} {v : Value} {c : Settings} (h : check homes v = .good c) :
    c.formatting.command ≠ []
      ∧ (∃ m e, c.formatting.timeout = .finite false m e ∧ 0 < (m * 2 ^ e : ℚ) ∧ (m * 2 ^ e : ℚ) ≤ 600)
      ∧ ∀ o ∈ c.logging.outputs,
        o.destination = "stderr" ∨ o.destination = "stdout" ∨ (Path.ofText o.destination).isAbsolute = true := by
  have hs := isSound_of_check h
  refine ⟨fun hempty => ?_, FormatterSettings.exists_of_isTimeout ?_, fun o ho => ?_⟩
  · have hrule := hs.formatting.command
    rw [hempty] at hrule
    cases hrule
  · have hrule := hs.formatting.timeout
    unfold FormatterSettings.timeoutRule at hrule
    split at hrule
    · assumption
    · cases hrule
  · rcases hs.destinations o ho with (h | h) | ⟨p, hp, habsolute, h⟩
    · exact .inl h
    · exact .inr (.inl h)
    · refine .inr (.inr ?_)
      rw [h, Path.ofText_text hp]
      exact habsolute

/-- **Settings that are loaded keep their rules, are read again from their own values, and are loaded again if the
caller gives these**, unless the variables give mappings nested too deep to override the files, and the caller first
gave something else under the name of a group than its settings. -/
theorem load_again (root : Path) (given : List (Text × Json)) (s : Session) :
    (∀ es c, checkAll s.host.homes es = .good c → reread s.host.homes c = .ok c)
      ∧ ∀ c, ((load root given).run s).1 = .ok c → Settled s root given c := by
  refine ⟨fun es c hc => reread_of_check (check_of_checkAll hc), fun c hc => ?_⟩
  rw [run_load, loadFrom_eq] at hc
  obtain ⟨all, hcombined, hmerged⟩ := Outcome.bind_eq_ok_iff.mp hc
  obtain ⟨hnamed, hcheck⟩ := named_of_ofMerged hmerged
  obtain ⟨users, husers, h⟩ := Outcome.bind_eq_ok_iff.mp hcombined
  obtain ⟨projects, hprojects, h⟩ := Outcome.bind_eq_ok_iff.mp h
  obtain ⟨files, hfiles, h⟩ := Outcome.bind_eq_ok_iff.mp h
  obtain ⟨environment, henvironment, h⟩ := Outcome.bind_eq_ok_iff.mp h
  obtain ⟨upper, hupper, hall⟩ := Outcome.bind_eq_ok_iff.mp (Outcome.mapError_eq_ok_iff.mp h)
  obtain ⟨hcommand, htimeout, hdestination⟩ := settled_of_check hcheck
  refine ⟨hcommand, htimeout, hdestination, ?_⟩
  have hordered := ordered_of_fromVariables henvironment
  have hsections : Tidy (Value.ofJsonMembers c.sections) := (grouped_sections c).tidy
  obtain ⟨upper', hupper'⟩ := (shallow_sections c).exists_overriding environment
  have hagain : (load root c.sections).run s
      = ((Entries.overriding upper' files).mapError Fault.beyond >>= ofMerged s.host.homes, s) := by
    have hmerged : merged (Value.ofJsonMembers c.sections) environment files = Entries.overriding upper' files := by
      rw [merged, hupper']
      rfl
    rw [run_load, loadFrom_eq, ← hmerged]
    simp only [combined, husers, hprojects, hfiles, henvironment, bind, Except.bind]
  rw [hagain]
  cases hall' : Entries.overriding upper' files with
  | ok all' =>
    left
    have htidy' := hsections.overriding hordered.tidy hupper'
    have hfiles' : Tidy files := (tidy_of_fileSays hprojects).overriding (tidy_of_fileSays husers)
      (Outcome.mapError_eq_ok_iff.mp hfiles)
    have hnamed' : Named all' := Named.overriding
      (Named.overriding (grouped_sections c).named hordered.named hupper') (hnamed.of_overriding hall) hall'
    refine congrArg (·, s) (ofMerged_of_gives (isSound_of_check hcheck) (htidy'.overriding hfiles' hall') hnamed'
      fun group key x hx => ?_)
    exact (hx.overriding hsections (plain_sections hx) hupper').overriding htidy' (plain_sections hx) hall'
  | error l =>
    right
    obtain ⟨rfl, hdeep⟩ := endless_of_overriding hall'
    refine ⟨rfl, fun hnames => ?_, environment, henvironment, fun hs => ?_⟩
    · obtain ⟨all', h⟩ := exists_overriding_again hnames hordered hupper hall hupper'
      rw [hall'] at h
      cases h
    · exact hdeep ((shallow_sections c).overriding hs hupper')

/-- the output of the files is overridden by the caller, and by the settings that are loaded -/
theorem load_again_shadowed :
    (checkAll shadowed.host.homes [] = .good {} ∧ reread shadowed.host.homes {} = .ok {})
      ∧ ∃ c, ((load ⟨1, []⟩ outputGiven).run shadowed).1 = .ok c ∧ c.generator.output = some "x.ts"
        ∧ Settled shadowed ⟨1, []⟩ outputGiven c := by
  obtain ⟨hreread, hload⟩ := load_again ⟨1, []⟩ outputGiven shadowed
  have hgood : checkAll shadowed.host.homes [] = .good {} := rfl
  obtain ⟨c, hc, houtput⟩ : ∃ c, ((load ⟨1, []⟩ outputGiven).run shadowed).1 = .ok c
      ∧ decide (c.generator.output = some "x.ts") = true := Outcome.exists_ok_of_any (by decide +kernel)
  exact ⟨⟨hgood, hreread [] {} hgood⟩, c, hc, of_decide_eq_true houtput, hload c hc⟩

/-- a session in which the settings file has a mapping that holds itself under a name that is no setting, and a variable
says under this name what is nested deep -/
def entangled : Session :=
  { withSettings "generator:\n  x: &a\n    x: *a\n" "" with
    host := { environment := [("SUPATYPES__GENERATOR" ++ (List.replicate 1000 ("__X" : Text)).flatten, "1")] } }

/-- something other than a setting that the caller gives -/
def otherGiven : List (Text × Json) := [("generator", .object [("x", .null)])]

/-- what the caller gave besides settings is not given again with the settings that were loaded; it may have kept a
variable from being mixed with a settings file without an end -/
theorem not_load_again : ¬ ∀ (root : Path) (given : List (Text × Json)) (s : Session) (c : Settings),
    ((load root given).run s).1 = .ok c → (load root c.sections).run s = (.ok c, s) := by
  intro h
  obtain ⟨c, hc, hdefault⟩ : ∃ c, ((load ⟨1, []⟩ otherGiven).run entangled).1 = .ok c ∧ decide (c = {}) = true :=
    Outcome.exists_ok_of_any (by decide +kernel)
  obtain rfl := of_decide_eq_true hdefault
  have hendless : isEndless ((load ⟨1, []⟩ ({} : Settings).sections).run entangled).1 = true := by decide +kernel
  rw [h ⟨1, []⟩ otherGiven entangled {} hc] at hendless
  cases hendless

end Settings
end DatabaseTypes
