import DatabaseTypes.Proofs.Entries
import DatabaseTypes.Proofs.Settings
import DatabaseTypes.Proofs.Settings.Load

/-!
# Settings that differ in their output

If what the caller gives is the same twice but for the text of one setting, so is everything that is made of it,
up to the settings that are loaded.

* `Entries.Alike`             entries are the same but for the values under a name
* `Value.Alike`               values are the same but for the text at a place
* `Value.Alike.overriding`    overriding keeps values alike
* `Settings.Alike`            settings are the same but for the output
* `Settings.related_loadFrom`   loading keeps settings alike
-/

namespace DatabaseTypes

open Outcome Yaml

namespace Yaml

/-! ## values that are the same but for one text -/

/-- entries are the same but for the values under a name, which are related -/
def Entries.Alike (R : Value → Value → Prop) (name : Text) (es es' : List (Value × Value)) : Prop :=
  List.Forall₂ (fun e e' => e.1 = e'.1 ∧ (e.2 = e'.2 ∨ e.1 = .text name ∧ R e.2 e'.2)) es es'

/-- values are the same but for the text at a place, a way through mappings -/
def Value.Alike (t t' : Text) : List Text → Value → Value → Prop
  | [], v, v' => v = v' ∨ v = .text t ∧ v' = .text t'
  | name :: names, v, v' => v = v'
    ∨ ∃ ms ms', v = .mapping ms ∧ v' = .mapping ms' ∧ Entries.Alike (Alike t t' names) name ms ms'

/-- both are absent, or they are related -/
def Entries.BothOr (R : Value → Value → Prop) : Option Value → Option Value → Prop
  | some v, some v' => R v v'
  | none, none => True
  | _, _ => False

theorem Value.Alike.refl (t t' : Text) (place : List Text) (v : Value) : Alike t t' place v v := by
  cases place <;> exact .inl rfl

namespace Entries

variable {R : Value → Value → Prop} {name : Text} {es es' base base' : List (Value × Value)}

theorem Alike.refl (R : Value → Value → Prop) (name : Text) (es : List (Value × Value)) :
    Alike R name es es := List.forall₂_same.mpr fun _ _ => ⟨rfl, .inl rfl⟩

theorem Alike.keys (h : Alike R name es es') : es.map Prod.fst = es'.map Prod.fst := by
  induction h with
  | nil => rfl
  | cons he _ ih => rw [List.map_cons, List.map_cons, he.1, ih]

theorem Alike.find?_of_ne (h : Alike R name es es') {k : Value} (hk : k ≠ .text name) :
    find? k es = find? k es' := by
  induction h with
  | nil => rfl
  | @cons e e' es es' he _ ih =>
    obtain ⟨l, v⟩ := e
    obtain ⟨l', v'⟩ := e'
    obtain ⟨rfl, hv⟩ : l = l' ∧ _ := he
    rw [find?, find?, ih]
    split
    · rename_i hs
      rcases hv with rfl | ⟨rfl, _⟩
      · rfl
      · exact absurd (Value.text_sameKey_iff.mp hs).symm hk
    · rfl

theorem Alike.find?_self (h : Alike R name es es') (hR : ∀ v, R v v) :
    BothOr R (find? (.text name) es) (find? (.text name) es') := by
  induction h with
  | nil => trivial
  | @cons e e' es es' he _ ih =>
    obtain ⟨l, v⟩ := e
    obtain ⟨l', v'⟩ := e'
    obtain ⟨rfl, hv⟩ : l = l' ∧ _ := he
    rw [find?, find?]
    split
    · rcases hv with rfl | ⟨_, hv⟩
      · exact hR v
      · exact hv
    · exact ih

theorem Alike.put (h : Alike R name es es') {k v v' : Value} (hv : v = v' ∨ k = .text name ∧ R v v') :
    Alike R name (put k v es) (put k v' es') := by
  induction h with
  | nil => exact .cons ⟨rfl, hv⟩ .nil
  | @cons e e' es es' he hes ih =>
    obtain ⟨l, w⟩ := e
    obtain ⟨l', w'⟩ := e'
    obtain ⟨rfl, hw⟩ : l = l' ∧ _ := he
    rw [Entries.put, Entries.put, alter, alter]
    split
    · rename_i hs
      refine .cons ⟨rfl, hv.imp_right (And.imp_left fun hk => ?_)⟩ hes
      rw [hk] at hs
      exact Value.sameKey_text_iff.mp hs
    · exact .cons ⟨rfl, hw⟩ ih

theorem Alike.putAll {ε : Type} {f : Value → Option Value → Except ε Value} (hR : ∀ v, R v v)
    (hf : ∀ v v' old old', R v v' → BothOr R old old' → Related R (f v old) (f v' old'))
    (h : Alike R name es es') (hbase : Alike R name base base') :
    Related (Alike R name) (putAll f es base) (putAll f es' base') := by
  induction h generalizing base base' with
  | nil => exact hbase
  | @cons e e' es es' he _ ih =>
    obtain ⟨k, v⟩ := e
    obtain ⟨k', v'⟩ := e'
    obtain ⟨rfl, hv⟩ : k = k' ∧ _ := he
    rw [Entries.putAll, Entries.putAll]
    by_cases hk : k = .text name
    · subst hk
      have hvalue : R v v' := by
        rcases hv with rfl | ⟨_, hv⟩
        · exact hR v
        · exact hv
      have hnew := hf v v' _ _ hvalue (hbase.find?_self hR)
      obtain ⟨w, w', e, e', hw⟩ | ⟨failure, e, e'⟩ := hnew.ok_or_error
      · rw [e, e']
        exact ih (hbase.put (.inr ⟨rfl, hw⟩))
      · rw [e, e']
        exact rfl
    · have hvalue : v = v' := hv.resolve_right fun h => hk h.1
      rw [← hvalue, ← hbase.find?_of_ne hk]
      split
      · exact rfl
      · exact ih (hbase.put (.inl rfl))

end Entries

namespace Value

variable {t t' : Text} {v v' : Value} {old old' : Option Value}

/-- values that are the same but for a text below a name are mappings, or the same -/
theorem Alike.mappings {name : Text} {names : List Text} (h : Alike t t' (name :: names) v v') :
    (∃ ms ms', v.opened = .mapping ms ∧ v'.opened = .mapping ms'
        ∧ Entries.Alike (Alike t t' names) name ms ms')
      ∨ v.isMapping = false ∧ v' = v := by
  rcases h with rfl | ⟨ms, ms', rfl, rfl, hms⟩
  · cases hv : v.isMapping with
    | false => exact .inr ⟨rfl, rfl⟩
    | true =>
      obtain ⟨ms, hms⟩ := isMapping_iff.mp hv
      exact .inl ⟨ms, ms, hms, hms, .refl _ _ _⟩
  · exact .inl ⟨ms, ms', rfl, rfl, hms⟩

/-- what overrides is the same but for a text, and so is what is left -/
theorem Alike.overriding (place : List Text) (depth : Nat) (h : Alike t t' place v v')
    (hold : Entries.BothOr (Alike t t' place) old old') :
    Related (Alike t t' place) (overriding depth v old) (overriding depth v' old') := by
  induction place generalizing depth v v' old old' with
  -- a text is not a mapping, and takes the place of whatever it overrides
  | nil =>
    rcases h with rfl | ⟨rfl, rfl⟩
    · have hsame : Value.overriding depth v old = Value.overriding depth v old' := by
        match old, old', hold with
        | none, none, _ => rfl
        | some o, some _, .inl rfl => rfl
        | some _, some _, .inr ⟨rfl, rfl⟩ =>
          rw [overriding_eq_self (.inr fun o ho => by cases ho; rfl),
            overriding_eq_self (.inr fun o ho => by cases ho; rfl)]
      rw [hsame]
      exact Related.refl (Alike.refl t t' []) _
    · rw [overriding_eq_self (.inl rfl), overriding_eq_self (.inl rfl)]
      exact .inr ⟨rfl, rfl⟩
  | cons name names ih =>
    rcases h.mappings with ⟨ms, ms', hms, hms', hentries⟩ | ⟨hv, rfl⟩
    · match old, old', hold with
      | none, none, _ =>
        rw [overriding_none, overriding_none]
        exact h
      | some o, some o', hold =>
        rcases hold.mappings with ⟨os, os', hos, hos', hbase⟩ | ⟨ho, rfl⟩
        · cases depth with
          | zero =>
            have hm : mappings? v (some o) = some (ms, os) :=
              mappings?_eq_some_iff.mpr ⟨hms, o, rfl, hos⟩
            have hm' : mappings? v' (some o') = some (ms', os') :=
              mappings?_eq_some_iff.mpr ⟨hms', o', rfl, hos'⟩
            rw [Value.overriding, Value.overriding, hm, hm']
            exact rfl
          | succ depth =>
            rw [overriding_mapping hms hos, overriding_mapping hms' hos']
            have hall := hentries.putAll (Alike.refl t t' names)
              (fun v v' old old' hv hold => ih depth hv hold) hbase
            exact hall.map fun es es' hes => .inr ⟨es, es', rfl, rfl, hes⟩
        · have hnone : ∀ x, some o' = some x → x.isMapping = false := by
            rintro x ⟨⟩
            exact ho
          rw [overriding_eq_self (.inr hnone), overriding_eq_self (.inr hnone)]
          exact h
    · rw [overriding_eq_self (.inl hv), overriding_eq_self (.inl hv)]
      exact Alike.refl t t' _ _

end Value

/-- entries override others, and are the same but for a text -/
theorem Entries.Alike.overriding {t t' name : Text} {names : List Text}
    {es es' base base' : List (Value × Value)} (h : Alike (Value.Alike t t' names) name es es')
    (hbase : Alike (Value.Alike t t' names) name base base') :
    Related (Alike (Value.Alike t t' names) name) (Entries.overriding es base)
      (Entries.overriding es' base') :=
  h.putAll (Value.Alike.refl t t' names) (fun _ _ _ _ hv hold => hv.overriding names _ hold) hbase

end Yaml

/-! ## verdicts -/

namespace Verdict

variable {α β : Type} {P : α → α → Prop} {Q : β → β → Prop} {x x' : Verdict α} {y y' : Verdict β}

/-- verdicts are the same, or both good about settings that are related -/
def Alike (P : α → α → Prop) (x x' : Verdict α) : Prop :=
  x = x' ∨ ∃ a a', x = .good a ∧ x' = .good a' ∧ P a a'

theorem Alike.map {f : α → β} (h : Alike P x x') (hf : ∀ a a', P a a' → Q (f a) (f a')) :
    Alike Q (x.map f) (x'.map f) := by
  rcases h with rfl | ⟨a, a', rfl, rfl, h⟩
  · exact .inl rfl
  · exact .inr ⟨f a, f a', rfl, rfl, hf a a' h⟩

theorem Alike.both (hP : ∀ a, P a a) (hQ : ∀ b, Q b b) (hx : Alike P x x') (hy : Alike Q y y') :
    Alike (fun p p' => P p.1 p'.1 ∧ Q p.2 p'.2) (x.both y) (x'.both y') := by
  rcases hx with rfl | ⟨a, a', rfl, rfl, ha⟩
  · rcases hy with rfl | ⟨b, b', rfl, rfl, hb⟩
    · exact .inl rfl
    · cases x with
      | good a => exact .inr ⟨_, _, rfl, rfl, hP a, hb⟩
      | bad issues => exact .inl rfl
      | broken fault => exact .inl rfl
  · rcases hy with rfl | ⟨b, b', rfl, rfl, hb⟩
    · cases y with
      | good b => exact .inr ⟨_, _, rfl, rfl, ha, hQ b⟩
      | bad issues => exact .inl rfl
      | broken fault => exact .inl rfl
    · exact .inr ⟨_, _, rfl, rfl, ha, hb⟩

/-- a setting whose value is related -/
theorem alike_member {R : Value → Value → Prop} {key : Text} {ms ms' : List (Value × Value)}
    {check : Value → Verdict α} (absent : α) (h : Entries.Alike R key ms ms') (hR : ∀ v, R v v)
    (hcheck : ∀ v v', R v v' → Alike P (check v) (check v')) :
    Alike P (Check.member key absent check ms) (Check.member key absent check ms') := by
  unfold Check.member
  match Entries.find? (.text key) ms, Entries.find? (.text key) ms', h.find?_self hR with
  | none, none, _ => exact .inl rfl
  | some v, some v', hv =>
    dsimp only
    rcases hcheck v v' hv with e | ⟨a, a', hgood, hgood', ha⟩
    · rw [e]
      exact .inl rfl
    · rw [hgood, hgood']
      exact .inr ⟨a, a', rfl, rfl, ha⟩

/-- a setting whose value is the same -/
theorem alike_member_of_ne {R : Value → Value → Prop} {name key : Text} {ms ms' : List (Value × Value)}
    {check : Value → Verdict α} (absent : α) (h : Entries.Alike R name ms ms') (hkey : key ≠ name) :
    Alike P (Check.member key absent check ms) (Check.member key absent check ms') := by
  unfold Check.member
  rw [h.find?_of_ne fun e => hkey (Value.text.inj e)]
  exact .inl rfl

end Verdict

namespace Settings

variable {t t' : Text}

/-- settings are the same but for the output, which is one of two texts -/
structure Alike (t t' : Text) (s s' : Settings) : Prop where
  logging : s'.logging = s.logging
  documentation : s'.generator.documentation = s.generator.documentation
  formatting : s'.formatting = s.formatting
  output : s.generator.output = s'.generator.output
    ∨ s.generator.output = some t ∧ s'.generator.output = some t'

theorem Alike.refl (t t' : Text) (s : Settings) : Alike t t' s s := ⟨rfl, rfl, rfl, .inl rfl⟩

/-- entries are the same but for the output -/
def EntriesAlike (t t' : Text) (es es' : List (Value × Value)) : Prop :=
  Entries.Alike (Value.Alike t t' ["output"]) "generator" es es'

theorem alike_check_generator {v v' : Value} (h : Value.Alike t t' ["output"] v v') :
    Verdict.Alike (fun g g' : GeneratorSettings => Alike t t' { generator := g } { generator := g' })
      (GeneratorSettings.check v) (GeneratorSettings.check v') := by
  rcases h with rfl | ⟨ms, ms', rfl, rfl, hms⟩
  · exact .inl rfl
  have htext : ∀ v v' : Value, Value.Alike t t' [] v v' →
      Verdict.Alike (fun o o' => o = o' ∨ o = some t ∧ o' = some t')
        (Check.optional Check.text v) (Check.optional Check.text v') := by
    rintro v v' (rfl | ⟨rfl, rfl⟩)
    · exact .inl rfl
    · exact .inr ⟨_, _, rfl, rfl, .inr ⟨rfl, rfl⟩⟩
  have hdocs : Verdict.Alike Eq (Check.member "documentation" true Check.bool ms)
      (Check.member "documentation" true Check.bool ms') :=
    Verdict.alike_member_of_ne true hms (by decide)
  have houtput := Verdict.alike_member none hms (Value.Alike.refl t t' []) htext
  exact (hdocs.both (fun _ => rfl) (fun _ => .inl rfl) houtput).map fun p p' hp =>
    ⟨rfl, hp.1.symm, rfl, hp.2⟩

/-- entries that are the same but for the output are checked alike -/
theorem alike_check (homes : Path.Homes) {es es' : List (Value × Value)} (h : EntriesAlike t t' es es') :
    Verdict.Alike (Alike t t') (check homes (.mapping es)) (check homes (.mapping es')) := by
  have hlogging : Verdict.Alike Eq (Check.member "logging" {} (LogSettings.check homes) es)
      (Check.member "logging" {} (LogSettings.check homes) es') :=
    Verdict.alike_member_of_ne _ h (by decide)
  have hgenerator := Verdict.alike_member {} h (Value.Alike.refl t t' ["output"])
    fun v v' hv => alike_check_generator hv
  have hformatting : Verdict.Alike Eq (Check.member "formatting" {} FormatterSettings.check es)
      (Check.member "formatting" {} FormatterSettings.check es') :=
    Verdict.alike_member_of_ne _ h (by decide)
  have hrest := hgenerator.both (fun _ => .refl t t' _) (fun _ => rfl) hformatting
  refine (hlogging.both (fun _ => rfl) (fun _ => ⟨.refl t t' _, rfl⟩) hrest).map ?_
  rintro ⟨logging, generator, formatting⟩ ⟨_, generator', _⟩ ⟨rfl, hg, rfl⟩
  exact ⟨rfl, hg.documentation, rfl, hg.output⟩

theorem unknownIssues_alike {es es' : List (Value × Value)} (h : EntriesAlike t t' es es') :
    unknownIssues es = unknownIssues es' := by
  induction h with
  | nil => rfl
  | @cons e e' es es' he _ ih =>
    obtain ⟨k, v⟩ := e
    obtain ⟨k', v'⟩ := e'
    obtain ⟨rfl, hv⟩ : k = k' ∧ _ := he
    have hrest : unknownIssues es = unknownIssues es' := ih
    rcases hv with rfl | ⟨rfl, _⟩
    · have hcons : ∀ e es, unknownIssues (e :: es) = unknownIssues [e] ++ unknownIssues es :=
        fun e _ => List.filterMap_append (l := [e])
      rw [hcons, hcons _ es', hrest]
    -- the generator is known, whatever its value is
    · exact hrest

/-- entries that are the same but for the output are the same to all checks -/
theorem alike_checkAll (homes : Path.Homes) {es es' : List (Value × Value)} (h : EntriesAlike t t' es es') :
    Verdict.Alike (Alike t t') (checkAll homes es) (checkAll homes es') := by
  rw [checkAll, checkAll, unknownIssues_alike h]
  refine ((alike_check homes h).both (.refl t t') (Q := Eq) (fun _ => rfl) (.inl rfl)).map ?_
  exact fun p p' hp => hp.1

theorem check_of_checkAll {homes : Path.Homes} {es : List (Value × Value)} {s : Settings}
    (h : checkAll homes es = .good s) : check homes (.mapping es) = .good s := by
  rw [checkAll, Verdict.map_eq_good_iff] at h
  obtain ⟨p, hp, rfl⟩ := h
  exact (Verdict.both_eq_good_iff.mp hp).1

theorem related_ofMerged (homes : Path.Homes) {es es' : List (Value × Value)} (h : EntriesAlike t t' es es') :
    Related (Alike t t') (ofMerged homes es) (ofMerged homes es') := by
  have hnames : (es.any fun e => !e.1.isText) = es'.any fun e => !e.1.isText := by
    have hany : ∀ es : List (Value × Value),
        (es.any fun e => !e.1.isText) = (es.map Prod.fst).any fun k => !k.isText :=
      fun es => by rw [List.any_map]; rfl
    rw [hany, hany, h.keys]
  rw [ofMerged, ofMerged, hnames]
  split
  · exact rfl
  rcases alike_checkAll homes h with e | ⟨s, s', hs, hs', halike⟩
  · rw [e]
    exact .refl (.refl t t') _
  · rw [hs, hs']
    show Related (Alike t t') (reread homes s) (reread homes s')
    rw [reread_of_check (check_of_checkAll hs), reread_of_check (check_of_checkAll hs')]
    exact halike

/-- what is given by the caller is the same but for the output, and so are the settings -/
theorem related_loadFrom (host : Host) (files : Files) (root : Path) {given given' : List (Text × Json)}
    (h : EntriesAlike t t' (Value.ofJsonMembers given) (Value.ofJsonMembers given')) :
    Related (Alike t t') (loadFrom host files root given) (loadFrom host files root given') := by
  unfold loadFrom
  refine Related.bind_same fun users => Related.bind_same fun projects => ?_
  refine Related.bind_same fun files => Related.bind_same fun environment => ?_
  refine Related.bind (R := EntriesAlike t t') (Related.mapError ?_ _) fun es es' hes =>
    related_ofMerged host.homes hes
  exact (h.overriding (.refl _ _ _)).bind fun es es' hes => hes.overriding (.refl _ _ _)

end Settings
end DatabaseTypes
