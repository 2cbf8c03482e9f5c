import DatabaseTypes.Proofs.Entries
import DatabaseTypes.Proofs.Json.Place

/-!
# Objects that override others

What is left of two objects is told place by place: what the overriding object has there is left, two objects are one
with the keys of both, and where it has nothing the other one shows, unless something else than an object hides it.

* `Json.overriding`           what a JSON value leaves of an old one
* `Value.overriding_ofJson`   and is what the same settings leave
* `Json.Overridden`           what is left at a place, by what is there on both sides
* `Json.overridden_at`        what is left at every place
* `Json.Meet`                 objects stand at a place on both sides
* `Json.Meet.length_lt`, `Json.endless_of_overriding`   how far away they may do so
* `Json.IsLeft`               what is left of two objects
* `Entries.overriding_ofJsonMembers`   objects override others, unless both go too deep at one place
-/

namespace DatabaseTypes

/-! ## members -/

namespace Members

variable {α ε : Type}

/-- the members with others put among them, where `f` makes the new value of a member of what is to be put and what is
there -/
def putAll (f : α → Option α → Except ε α) :
    List (Text × α) → List (Text × α) → Except ε (List (Text × α))
  | [], base => .ok base
  | m :: ms, base => match f m.2 (base.lookup m.1) with
    | .error e => .error e
    | .ok value => putAll f ms (put m.1 value base)

section
variable {f : α → Option α → Except ε α} {ms base left : List (Text × α)}

/-- the value under a key comes from the members that are put, or is the one that was there -/
theorem lookup_putAll (hd : (ms.map Prod.fst).Nodup) (h : putAll f ms base = .ok left) (key : Text) :
    (ms.lookup key = none → left.lookup key = base.lookup key)
      ∧ ∀ v, ms.lookup key = some v → ∃ w, f v (base.lookup key) = .ok w ∧ left.lookup key = some w := by
  induction ms generalizing base with
  | nil =>
    cases h
    exact ⟨fun _ => rfl, nofun⟩
  | cons m ms ih =>
    obtain ⟨hm, hms⟩ := List.nodup_cons.mp hd
    rw [putAll] at h
    split at h
    · cases h
    · rename_i value hvalue
      obtain ⟨hnone, hsome⟩ := ih hms h
      by_cases hkey : m.1 = key
      · subst hkey
        rw [List.lookup_cons_self]
        refine ⟨nofun, fun v hv => ?_⟩
        cases hv
        rw [hnone (lookup_eq_none_iff.mpr hm), lookup_put_self]
        exact ⟨value, hvalue, rfl⟩
      · rw [lookup_cons_of_ne hkey]
        rw [lookup_put_of_ne (Ne.symm hkey)] at hnone hsome
        exact ⟨hnone, hsome⟩

theorem mem_keys_putAll (h : putAll f ms base = .ok left) (key : Text) :
    key ∈ left.map Prod.fst ↔ key ∈ base.map Prod.fst ∨ key ∈ ms.map Prod.fst := by
  induction ms generalizing base with
  | nil =>
    cases h
    exact (or_iff_left List.not_mem_nil).symm
  | cons m ms ih =>
    rw [putAll] at h
    split at h
    · cases h
    · rw [ih h, mem_keys_put, List.map_cons, List.mem_cons, or_assoc, or_left_comm]

theorem nodup_putAll (hd : (base.map Prod.fst).Nodup) (h : putAll f ms base = .ok left) :
    (left.map Prod.fst).Nodup := by
  induction ms generalizing base with
  | nil =>
    cases h
    exact hd
  | cons m ms ih =>
    rw [putAll] at h
    split at h
    · cases h
    · exact ih (nodup_put hd _ _) h

/-- what fails is the putting of some member -/
theorem exists_of_putAll_eq_error {e : ε} (hd : (ms.map Prod.fst).Nodup) (h : putAll f ms base = .error e) :
    ∃ key v, ms.lookup key = some v ∧ f v (base.lookup key) = .error e := by
  induction ms generalizing base with
  | nil => cases h
  | cons m ms ih =>
    obtain ⟨hm, hms⟩ := List.nodup_cons.mp hd
    rw [putAll] at h
    split at h
    · rename_i hvalue
      cases h
      exact ⟨m.1, m.2, List.lookup_cons_self, hvalue⟩
    · obtain ⟨key, v, hv, he⟩ := ih hms h
      -- what was put before is under another key
      have hne : m.1 ≠ key := by
        rintro rfl
        rw [lookup_eq_none_iff.mpr hm] at hv
        cases hv
      rw [lookup_put_of_ne hne.symm] at he
      exact ⟨key, v, (lookup_cons_of_ne hne).trans hv, he⟩

/-- members are put as they are where there are none of their keys -/
theorem putAll_append (hd : ((base ++ ms).map Prod.fst).Nodup) (hf : ∀ v, f v none = .ok v) :
    putAll f ms base = .ok (base ++ ms) := by
  induction ms generalizing base with
  | nil => rw [putAll, List.append_nil]
  | cons m ms ih =>
    have hm : m.1 ∉ base.map Prod.fst := by
      rw [List.map_append, List.map_cons] at hd
      exact fun hmem => (List.nodup_append.mp hd).2.2 _ hmem _ List.mem_cons_self rfl
    rw [putAll, lookup_eq_none_iff.mpr hm, hf]
    dsimp only
    rw [put_of_not_mem hm, ih (by rwa [List.append_assoc]), List.append_assoc]
    rfl

/-- members that are there already are left as they are -/
theorem putAll_self (hms : ∀ m ∈ ms, base.lookup m.1 = some m.2)
    (hf : ∀ m ∈ ms, ∀ w, f m.2 (some m.2) = .ok w → w = m.2) (h : putAll f ms base = .ok left) : left = base := by
  induction ms with
  | nil =>
    cases h
    rfl
  | cons m ms ih =>
    have hm := hms m List.mem_cons_self
    rw [putAll, hm] at h
    split at h
    · cases h
    · rename_i value hvalue
      rw [hf m List.mem_cons_self value hvalue, put_of_lookup hm] at h
      exact ih (fun x hx => hms x (List.mem_cons_of_mem _ hx)) (fun x hx => hf x (List.mem_cons_of_mem _ hx)) h

end
end Members

/-! ## overriding -/

namespace Json

/-- what a value leaves of an old one that it overrides: an object overrides an object member by member, anything else
replaces it; `depth` bounds how deep this goes -/
def overriding : Nat → Json → Option Json → Except Limit Json
  | 0, .object _, some (.object _) => .error .endlessOverride
  | depth + 1, .object ms, some (.object base) => (Members.putAll (overriding depth) ms base).map .object
  | _, v, _ => .ok v

theorem overriding_none (depth : Nat) (v : Json) : overriding depth v none = .ok v := by
  cases depth <;> cases v <;> rfl

end Json

namespace Yaml

theorem Entries.find?_ofJsonMembers (key : Text) (ms : List (Text × Json)) :
    find? (.text key) (Value.ofJsonMembers ms) = (ms.lookup key).map .ofJson := by
  induction ms with
  | nil => rfl
  | cons m ms ih =>
    rw [Value.ofJsonMembers]
    by_cases hm : m.1 = key
    · subst hm
      rw [find?_cons_self, List.lookup_cons_self, Option.map_some]
    · rw [find?_cons_of_ne fun h => hm (Value.text.inj h), Members.lookup_cons_of_ne hm, ih]

theorem Entries.put_ofJsonMembers (key : Text) (v : Json) (ms : List (Text × Json)) :
    put (.text key) (.ofJson v) (Value.ofJsonMembers ms) = Value.ofJsonMembers (Members.put key v ms) := by
  induction ms with
  | nil => rfl
  | cons m ms ih =>
    rw [put] at ih ⊢
    rw [Value.ofJsonMembers, alter, Members.put, Value.sameKey_text]
    by_cases hm : m.1 = key
    · rw [if_pos (beq_iff_eq.mpr hm), if_pos hm, hm]
      rfl
    · rw [if_neg fun h => hm (beq_iff_eq.mp h), if_neg hm, ih]
      rfl

theorem Entries.putAll_ofJsonMembers {ε : Type} {f : Value → Option Value → Except ε Value}
    {g : Json → Option Json → Except ε Json} (hfg : ∀ v old, f (.ofJson v) (old.map .ofJson) = (g v old).map .ofJson)
    (ms base : List (Text × Json)) : putAll f (Value.ofJsonMembers ms) (Value.ofJsonMembers base)
      = (Members.putAll g ms base).map Value.ofJsonMembers := by
  induction ms generalizing base with
  | nil => rfl
  | cons m ms ih =>
    rw [Value.ofJsonMembers, putAll, find?_ofJsonMembers, hfg, Members.putAll]
    cases g m.2 (base.lookup m.1) with
    | error e => rfl
    | ok value => exact (congrArg _ (put_ofJsonMembers m.1 value base)).trans (ih _)

/-- JSON values override others as they do among the values of settings files -/
theorem Value.overriding_ofJson (depth : Nat) (v : Json) (old : Option Json) :
    overriding depth (.ofJson v) (old.map .ofJson) = (Json.overriding depth v old).map .ofJson := by
  induction depth generalizing v old with
  | zero =>
    cases v with
    | object ms => rcases old with - | (_ | _ | _ | _ | _ | _ | _) <;> rfl
    | _ => rfl
  | succ depth ih =>
    cases v with
    | object ms =>
      cases old with
      | none => rfl
      | some w =>
        cases w with
        | object base =>
          rw [Option.map_some, overriding_mapping rfl rfl, Entries.putAll_ofJsonMembers ih, Json.overriding]
          cases Members.putAll (Json.overriding depth) ms base <;> rfl
        | _ => rfl
    | _ => rfl

end Yaml

namespace Json

/-! ## what is left at a place -/

/-- what is left at a place, by what is to be put there and what was there, and whether the place is hidden -/
inductive Overridden (hidden : Prop) : (new old left : Option Json) → Prop
  /-- what is no object replaces whatever was there -/
  | leaf {v : Json} (h : v.isObject = false) (old : Option Json) : Overridden hidden (some v) old (some v)
  /-- everything replaces what is no object -/
  | whole (v : Json) {old : Option Json} (h : ∀ w, old = some w → w.isObject = false) :
    Overridden hidden (some v) old (some v)
  /-- two objects leave one with the keys of both -/
  | both {ms base left : List (Text × Json)} (hd : (left.map Prod.fst).Nodup)
    (h : ∀ key, key ∈ left.map Prod.fst ↔ key ∈ base.map Prod.fst ∨ key ∈ ms.map Prod.fst) :
    Overridden hidden (some (.object ms)) (some (.object base)) (some (.object left))
  /-- what was there is gone where the place is hidden now -/
  | hidden (h : hidden) (old : Option Json) : Overridden hidden none old none
  /-- and is left where it is not -/
  | kept (h : ¬ hidden) (old : Option Json) : Overridden hidden none old old

section
variable {hidden : Prop} {new old left : Option Json}

theorem Overridden.of_none (hidden : Prop) (new : Option Json) : Overridden hidden new none new := by
  cases new with
  | some v => exact .whole v nofun
  | none =>
    by_cases h : hidden
    · exact .hidden h none
    · exact .kept h none

theorem Overridden.nodup {ms : List (Text × Json)} (h : Overridden hidden new old (some (.object ms)))
    (hnew : ∀ os, new = some (.object os) → (os.map Prod.fst).Nodup)
    (hold : ∀ os, old = some (.object os) → (os.map Prod.fst).Nodup) : (ms.map Prod.fst).Nodup := by
  cases h with
  | leaf h _ => cases h
  | whole _ _ => exact hnew ms rfl
  | both hd _ => exact hd
  | kept _ _ => exact hold ms rfl

end

section
variable {depth : Nat} {v left : Json} {old : Option Json}

/-- what stays as it is is left at every place -/
theorem overridden_self (h : v.isObject = false ∨ ∀ w, old = some w → w.isObject = false) (place : List Text) :
    Overridden (v.Hides place) (v.at? place) (old.bind (at? place)) (v.at? place) := by
  cases place with
  | nil =>
    rcases h with h | h
    · exact .leaf h _
    · refine .whole v fun w hw => ?_
      obtain ⟨x, hx, e⟩ := Option.bind_eq_some_iff.mp hw
      cases e
      exact h w hx
  | cons key place =>
    rcases h with h | h
    · rw [at?_cons_of_none (get?_of_not_object h key)]
      exact .hidden (hides_of_not_object h) _
    · have hnone : old.bind (at? (key :: place)) = none := by
        rw [Option.bind_eq_none_iff]
        exact fun w hw => at?_cons_of_none (get?_of_not_object (h w hw) key)
      rw [hnone]
      exact .of_none _ _

/-- a value stays as it is, or both are objects and one is put into the other -/
theorem overriding_cases (h : overriding depth v old = .ok left) :
    (left = v ∧ (v.isObject = false ∨ ∀ w, old = some w → w.isObject = false))
      ∨ ∃ d ms base members, depth = d + 1 ∧ v = .object ms ∧ old = some (.object base)
        ∧ Members.putAll (overriding d) ms base = .ok members ∧ left = .object members := by
  unfold overriding at h
  split at h
  · cases h
  · obtain ⟨members, hmembers, rfl⟩ := Outcome.map_eq_ok_iff.mp h
    exact .inr ⟨_, _, _, members, rfl, rfl, rfl, hmembers, rfl⟩
  · rename_i hzero hsucc
    cases h
    refine .inl ⟨rfl, ?_⟩
    -- an object does not override an object this way
    by_contra hnot
    simp only [not_or, Bool.not_eq_false, not_forall] at hnot
    obtain ⟨hv, w, rfl, hw⟩ := hnot
    cases v with
    | object ms =>
      cases w with
      | object base =>
        cases depth with
        | zero => exact hzero ms base rfl rfl rfl
        | succ d => exact hsucc d ms base rfl rfl rfl
      | _ => cases hw
    | _ => cases hv

/-- **What is left at every place**, by what is there on both sides. -/
theorem overridden_at (hv : v.UniqueKeys) (hold : ∀ w, old = some w → w.UniqueKeys)
    (h : overriding depth v old = .ok left) (place : List Text) :
    Overridden (v.Hides place) (v.at? place) (old.bind (at? place)) (left.at? place) := by
  induction place generalizing depth v old left with
  | nil =>
    obtain ⟨rfl, hself⟩ | ⟨d, ms, base, members, rfl, rfl, rfl, hmembers, rfl⟩ := overriding_cases h
    · exact overridden_self hself []
    · exact .both (Members.nodup_putAll (hold _ rfl).nodup hmembers) (Members.mem_keys_putAll hmembers)
  | cons key place ih =>
    obtain ⟨rfl, hself⟩ | ⟨d, ms, base, members, rfl, rfl, rfl, hmembers, rfl⟩ := overriding_cases h
    · exact overridden_self hself _
    · obtain ⟨hnone, hsome⟩ := Members.lookup_putAll hv.nodup hmembers key
      rw [hides_cons_iff rfl]
      show Overridden _ ((ms.lookup key).bind _) ((base.lookup key).bind _) ((members.lookup key).bind _)
      cases hfound : ms.lookup key with
      | none =>
        rw [hnone hfound]
        refine .kept (fun ⟨w, hw, _⟩ => ?_) _
        exact Option.some_ne_none w (hw.symm.trans hfound)
      | some x =>
        obtain ⟨y, hy, hleft⟩ := hsome x hfound
        have hhides : (∃ w, (Json.object ms).get? key = some w ∧ w.Hides place) ↔ x.Hides place := by
          constructor
          · rintro ⟨w, hw, hhides⟩
            rwa [← Option.some.inj (hw.symm.trans hfound)]
          · exact fun hhides => ⟨x, hfound, hhides⟩
        rw [hleft, hhides]
        exact ih (hv.of_get? hfound) (fun w hw => (hold _ rfl).of_get? hw) hy

/-- no object is left with a key twice -/
theorem uniqueKeys_overriding (hv : v.UniqueKeys) (hold : ∀ w, old = some w → w.UniqueKeys)
    (h : overriding depth v old = .ok left) : left.UniqueKeys := by
  intro place ms hms
  have hplace := overridden_at hv hold h place
  rw [hms] at hplace
  refine hplace.nodup (hv place) fun os hos => ?_
  obtain ⟨w, hw, hos⟩ := Option.bind_eq_some_iff.mp hos
  exact hold w hw place os hos

/-- what overrides itself is left as it is -/
theorem overriding_same (hv : v.UniqueKeys) (h : overriding depth v (some v) = .ok left) : left = v := by
  induction depth generalizing v left with
  | zero =>
    obtain ⟨hself, _⟩ | ⟨d, _, _, _, hdepth, _⟩ := overriding_cases h
    · exact hself
    · cases hdepth
  | succ depth ih =>
    obtain ⟨hself, _⟩ | ⟨d, ms, base, members, hdepth, rfl, hbase, hmembers, rfl⟩ := overriding_cases h
    · exact hself
    · cases hdepth
      cases hbase
      refine congrArg Json.object (Members.putAll_self (fun m hm => ?_) (fun m hm w hw => ?_) hmembers)
      · exact Members.lookup_of_mem hv.nodup hm
      · exact ih (hv.of_get? (Members.lookup_of_mem hv.nodup hm)) hw

/-! ## depth -/

/-- objects stand at a place on both sides -/
def Meet (v : Json) (old : Option Json) (place : List Text) : Prop :=
  (∃ ms, v.at? place = some (.object ms)) ∧ ∃ base, old.bind (at? place) = some (.object base)

theorem meet_cons_iff {key : Text} {place : List Text} :
    Meet v old (key :: place) ↔ ∃ x, v.get? key = some x ∧ Meet x (old.bind (get? key)) place := by
  have hold : old.bind (at? (key :: place)) = (old.bind (get? key)).bind (at? place) :=
    (Option.bind_assoc old (get? key) (at? place)).symm
  rw [Meet, hold]
  constructor
  · rintro ⟨⟨ms, hms⟩, hbase⟩
    obtain ⟨x, hx, hms⟩ := Option.bind_eq_some_iff.mp hms
    exact ⟨x, hx, ⟨ms, hms⟩, hbase⟩
  · rintro ⟨x, hx, ⟨ms, hms⟩, hbase⟩
    exact ⟨⟨ms, (at?_cons hx).trans hms⟩, hbase⟩

/-- objects do not meet where one side is no object -/
theorem Meet.not_self {place : List Text} (hmeet : Meet v old place) :
    ¬ (v.isObject = false ∨ ∀ w, old = some w → w.isObject = false) := by
  obtain ⟨⟨ms, hms⟩, base, hbase⟩ := hmeet
  obtain ⟨w, hw, hbase⟩ := Option.bind_eq_some_iff.mp hbase
  have hobject {x : Json} {os : List (Text × Json)} (hx : x.at? place = some (.object os)) : x.isObject ≠ false := by
    intro hplain
    cases place with
    | nil =>
      cases hx
      cases hplain
    | cons key place =>
      rw [at?_cons_of_none (get?_of_not_object hplain key)] at hx
      cases hx
  rintro (hplain | hplain)
  · exact hobject hms hplain
  · exact hobject hbase (hplain w hw)

/-- what overrides meets what it overrides at places nearer than the depth -/
theorem Meet.length_lt {place : List Text} (hmeet : Meet v old place) (hv : v.UniqueKeys)
    (h : overriding depth v old = .ok left) : place.length < depth := by
  induction place generalizing depth v old left with
  | nil =>
    obtain ⟨_, hself⟩ | ⟨d, _, _, _, rfl, _⟩ := overriding_cases h
    · exact absurd hself hmeet.not_self
    · exact Nat.succ_pos d
  | cons key place ih =>
    obtain ⟨_, hself⟩ | ⟨d, os, bs, members, rfl, rfl, rfl, hmembers, _⟩ := overriding_cases h
    · exact absurd hself hmeet.not_self
    · obtain ⟨x, hx, hmeet⟩ := meet_cons_iff.mp hmeet
      obtain ⟨y, hy, _⟩ := (Members.lookup_putAll hv.nodup hmembers key).2 x hx
      exact Nat.succ_lt_succ (ih hmeet (hv.of_get? hx) hy)

/-- overriding fails where objects meet as far away as the depth -/
theorem endless_of_overriding {l : Limit} (hv : v.UniqueKeys) (h : overriding depth v old = .error l) :
    l = .endlessOverride ∧ ∃ place, place.length = depth ∧ Meet v old place := by
  induction depth generalizing v old with
  | zero =>
    unfold overriding at h
    split at h
    · cases h
      exact ⟨rfl, [], rfl, ⟨_, rfl⟩, _, rfl⟩
    · rename_i hdepth
      cases hdepth
    · cases h
  | succ depth ih =>
    unfold overriding at h
    split at h
    · rename_i hdepth
      cases hdepth
    · rename_i d ms base hdepth
      cases hdepth
      cases hputs : Members.putAll (overriding depth) ms base with
      | ok members =>
        rw [hputs] at h
        cases h
      | error e =>
        rw [hputs] at h
        cases h
        obtain ⟨key, x, hx, he⟩ := Members.exists_of_putAll_eq_error hv.nodup hputs
        obtain ⟨rfl, place, hlength, hmeet⟩ := ih (hv.of_get? hx) he
        exact ⟨rfl, key :: place, congrArg Nat.succ hlength, meet_cons_iff.mpr ⟨x, hx, hmeet⟩⟩
    · cases h

end

/-! ## objects -/

/-- what is left of two objects, the first of which overrides the second one -/
structure IsLeft (ms base left : List (Text × Json)) : Prop where
  unique : (Json.object left).UniqueKeys
  places : ∀ place, Overridden ((Json.object ms).Hides place) ((Json.object ms).at? place)
    ((Json.object base).at? place) ((Json.object left).at? place)
  of_nil : ms = [] → left = base
  of_nil_base : base = [] → left = ms
  of_same : ms = base → left = base

end Json

namespace Yaml

/-- objects override others as they do among the entries of settings files -/
theorem Entries.overriding_eq_map (ms base : List (Text × Json)) :
    Entries.overriding (Value.ofJsonMembers ms) (Value.ofJsonMembers base)
      = (Members.putAll (Json.overriding Limit.depth) ms base).map Value.ofJsonMembers :=
  Entries.putAll_ofJsonMembers (Value.overriding_ofJson Limit.depth) ms base

/-- objects on both sides, and an object on one side alone -/
def someGiven : List (Text × Json) := [("a", .object [("x", .int 1)]), ("b", .object [("y", .null)])]

/-- what is there before -/
def someKnown : List (Text × Json) := [("a", .object [("x", .int 2), ("z", .int 3)]), ("b", .int 4)]

theorem uniqueKeys_someGiven : (Json.object someGiven).UniqueKeys := by
  refine Json.uniqueKeys_object (by decide) (List.forall_mem_cons.mpr ⟨?_, List.forall_mem_singleton.mpr ?_⟩)
  · exact Json.uniqueKeys_object (by decide) (List.forall_mem_singleton.mpr (Json.uniqueKeys_of_not_object rfl))
  · exact Json.uniqueKeys_object (by decide) (List.forall_mem_singleton.mpr (Json.uniqueKeys_of_not_object rfl))

theorem uniqueKeys_someKnown : (Json.object someKnown).UniqueKeys := by
  refine Json.uniqueKeys_object (by decide) (List.forall_mem_cons.mpr ⟨?_, List.forall_mem_singleton.mpr ?_⟩)
  · exact Json.uniqueKeys_object (by decide) (List.forall_mem_cons.mpr ⟨Json.uniqueKeys_of_not_object rfl,
      List.forall_mem_singleton.mpr (Json.uniqueKeys_of_not_object rfl)⟩)
  · exact Json.uniqueKeys_of_not_object rfl

/-- objects can stand at places as far away as one likes -/
theorem exists_nested (n : Nat) : ∃ (ms : List (Text × Json)) (place : List Text),
    (Json.object ms).UniqueKeys ∧ place.length = n ∧ (Json.object ms).at? place = some (.object []) := by
  induction n with
  | zero => exact ⟨[], [], Json.uniqueKeys_object .nil nofun, rfl, rfl⟩
  | succ n ih =>
    obtain ⟨ms, place, hunique, hlength, hplace⟩ := ih
    have hx : (Json.object [("x", .object ms)]).get? "x" = some (.object ms) := by
      rw [Json.get?, List.lookup_cons_self]
    refine ⟨[("x", .object ms)], "x" :: place, ?_, congrArg Nat.succ hlength, (Json.at?_cons hx).trans hplace⟩
    exact Json.uniqueKeys_object (List.pairwise_singleton _ _) (List.forall_mem_singleton.mpr hunique)

end Yaml
end DatabaseTypes
