import DatabaseTypes.Proofs.Entries
import DatabaseTypes.Yaml.Document

/-!
# Keys of settings files

No mapping that is read from a settings file has one key twice, wherever it stands: a key that comes again
replaces the value of the first, and writing out a collection that holds itself changes no key.

* `Value.Orderly`            no mapping in the value has one key twice
* `Value.Orderly.opened`     the same one level further in a value that holds itself
* `Making.Makes`             a step of making values whose results have a property
* `orderly_ofBytes`          what is read from a file
-/

namespace DatabaseTypes.Yaml

/-! ## values without a key that comes twice -/

namespace Value

mutual

/-- no mapping in the value has one key twice -/
def Orderly : Value → Prop
  | .list items => OrderlyItems items
  | .pair first second => Orderly first ∧ Orderly second
  | .mapping entries => Entries.Distinct entries ∧ OrderlyEntries entries
  | .knot _ body => Orderly body
  | _ => True

def OrderlyItems : List Value → Prop
  | [] => True
  | v :: vs => Orderly v ∧ OrderlyItems vs

def OrderlyEntries : List (Value × Value) → Prop
  | [] => True
  | (_, v) :: es => Orderly v ∧ OrderlyEntries es

end

theorem orderlyItems_iff {items : List Value} : OrderlyItems items ↔ ∀ v ∈ items, v.Orderly := by
  induction items with
  | nil => exact ⟨fun _ => nofun, fun _ => trivial⟩
  | cons v items ih => rw [OrderlyItems, ih, List.forall_mem_cons]

theorem orderlyEntries_iff {es : List (Value × Value)} : OrderlyEntries es ↔ ∀ e ∈ es, e.2.Orderly := by
  induction es with
  | nil => exact ⟨fun _ => nofun, fun _ => trivial⟩
  | cons e es ih => rw [OrderlyEntries, ih, List.forall_mem_cons]

/-! ## values that hold themselves -/

theorem keys_tiedEntries (number : Nat) (whole : Value) (es : List (Value × Value)) :
    (tiedEntries number whole es).map Prod.fst = es.map Prod.fst := by
  induction es with
  | nil => rfl
  | cons e es ih => rw [tiedEntries, List.map_cons, ih, List.map_cons]

theorem distinct_of_keys {α β : Type} {es : List (Value × α)} {es' : List (Value × β)}
    (h : es'.map Prod.fst = es.map Prod.fst) (hd : Entries.Distinct es) : Entries.Distinct es' := by
  have hkeys : (es.map Prod.fst).Pairwise fun k l => k.sameKey l = false := List.pairwise_map.mpr hd
  rw [← h] at hkeys
  exact List.pairwise_map.mp hkeys

mutual

theorem Orderly.tied {number : Nat} {whole : Value} (hw : whole.Orderly) :
    (v : Value) → v.Orderly → (Value.tied number whole v).Orderly
  | .list items, h => OrderlyItems.tied hw items h
  | .pair first second, h => ⟨Orderly.tied hw first h.1, Orderly.tied hw second h.2⟩
  | .mapping entries, h =>
    ⟨distinct_of_keys (keys_tiedEntries number whole entries) h.1, OrderlyEntries.tied hw entries h.2⟩
  | .knot n body, h => by
    rw [Value.tied]
    split
    · exact h
    · exact Orderly.tied hw body h
  | .again n, h => by
    rw [Value.tied]
    split
    · exact hw
    · exact h
  | .null, _ | .bool _, _ | .int _, _ | .float _, _ | .text _, _ | .bytes _, _ | .date _, _
  | .moment _, _ | .set _, _ | .noNumber _, _ => trivial

theorem OrderlyItems.tied {number : Nat} {whole : Value} (hw : whole.Orderly) :
    (items : List Value) → OrderlyItems items → OrderlyItems (tiedItems number whole items)
  | [], _ => trivial
  | v :: vs, h => ⟨Orderly.tied hw v h.1, OrderlyItems.tied hw vs h.2⟩

theorem OrderlyEntries.tied {number : Nat} {whole : Value} (hw : whole.Orderly) :
    (es : List (Value × Value)) → OrderlyEntries es → OrderlyEntries (tiedEntries number whole es)
  | [], _ => trivial
  | (_, v) :: es, h => ⟨Orderly.tied hw v h.1, OrderlyEntries.tied hw es h.2⟩

end

theorem Orderly.opened {v : Value} (h : v.Orderly) : v.opened.Orderly := by
  cases v with
  | knot number body =>
    have hbody : body.Orderly := h
    exact Orderly.tied h body hbody
  | _ => exact h

/-- the mapping that a value is -/
theorem Orderly.mapping {v : Value} (h : v.Orderly) {es : List (Value × Value)}
    (hes : v.opened = .mapping es) : Entries.Distinct es ∧ ∀ e ∈ es, e.2.Orderly := by
  have := h.opened
  rw [hes] at this
  exact ⟨this.1, orderlyEntries_iff.mp this.2⟩

end Value

/-! ## parts and fillings -/

/-- a part is orderly if it is a value that is -/
def Part.Orderly : Part → Prop
  | .value v => v.Orderly
  | .collection _ => True

/-- a filling is orderly if it holds orderly parts, and no key twice -/
def Filling.Orderly : Filling → Prop
  | .list items => ∀ p ∈ items, p.Orderly
  | .pairs items => ∀ p ∈ items, p.1.Orderly ∧ p.2.Orderly
  | .set _ => True
  | .mapping entries => Entries.Distinct entries ∧ ∀ e ∈ entries, e.2.Orderly

/-- what is made and what is filled is orderly -/
structure Workshop.Orderly (w : Workshop) : Prop where
  made : ∀ p, some p ∈ w.made → p.Orderly
  filled : ∀ f, some f ∈ w.filled → f.Orderly

theorem Workshop.Orderly.of_eq {w w' : Workshop} (h : w.Orderly) (hm : w'.made = w.made)
    (hf : w'.filled = w.filled) : w'.Orderly :=
  ⟨fun p hp => h.made p (hm ▸ hp), fun f hp => h.filled f (hf ▸ hp)⟩

/-! ## steps of making values -/

namespace Making

variable {α β : Type} {P Q : α → Prop} {R : β → Prop}

/-- a step that keeps everything orderly, and has results with a property if it has any -/
def Makes (m : Making α) (P : α → Prop) : Prop :=
  ∀ w a w', w.Orderly → m.run w = .ok (a, w') → P a ∧ w'.Orderly

theorem makes_pure {a : α} (h : P a) : Makes (pure a) P := by
  rintro w _ _ hw ⟨⟩
  exact ⟨h, hw⟩

theorem makes_throw (f : Failure) : Makes (throw f) P := by
  intro w a w' _ h
  cases h

theorem Makes.bind {m : Making α} {f : α → Making β} (hm : Makes m P) (hf : ∀ a, P a → Makes (f a) R) :
    Makes (m >>= f) R := by
  intro w b w' hw h
  obtain ⟨⟨a, w₁⟩, ha, hb⟩ := Outcome.bind_eq_ok_iff.mp h
  obtain ⟨hPa, hw₁⟩ := hm w a w₁ hw ha
  exact hf a hPa w₁ b w' hw₁ hb

theorem Makes.mono {m : Making α} (hm : Makes m P) (h : ∀ a, P a → Q a) : Makes m Q := by
  intro w a w' hw ha
  obtain ⟨hPa, hw'⟩ := hm w a w' hw ha
  exact ⟨h a hPa, hw'⟩

theorem makes_get : Makes get Workshop.Orderly := by
  rintro w _ _ hw ⟨⟩
  exact ⟨hw, hw⟩

theorem makes_modify {f : Workshop → Workshop} (h : ∀ w, w.Orderly → (f w).Orderly) :
    Makes (modify f) fun _ => True := by
  rintro w _ _ hw ⟨⟩
  exact ⟨trivial, h w hw⟩

theorem makes_set {w : Workshop} (h : w.Orderly) : Makes (set w) fun _ => True := by
  rintro _ _ _ _ ⟨⟩
  exact ⟨trivial, h⟩

theorem makes_orFault {r : Except Fault α} : Makes (orFault r) fun _ => True := by
  cases r with
  | error f => exact makes_throw _
  | ok a => exact makes_pure trivial

theorem makes_mapM {f : β → Making α} {xs : List β} (hf : ∀ x ∈ xs, Makes (f x) P) :
    Makes (xs.mapM f) fun ys => ∀ y ∈ ys, P y := by
  induction xs with
  | nil => exact makes_pure nofun
  | cons x xs ih =>
    rw [List.mapM_cons]
    refine (hf x List.mem_cons_self).bind fun y hy => ?_
    refine (ih fun z hz => hf z (List.mem_cons_of_mem _ hz)).bind fun ys hys => ?_
    exact makes_pure (List.forall_mem_cons.mpr ⟨hy, hys⟩)

theorem makes_foldlM {f : α → β → Making α} {xs : List β} {a : α} (ha : P a)
    (hf : ∀ a x, P a → Makes (f a x) P) : Makes (xs.foldlM f a) P := by
  induction xs generalizing a with
  | nil => exact makes_pure ha
  | cons x xs ih =>
    rw [List.foldlM_cons]
    exact (hf a x ha).bind fun b hb => ih hb

theorem makes_forIn {f : β → PUnit → Making (ForInStep PUnit)} {xs : List β}
    (hf : ∀ x, Makes (f x ⟨⟩) fun _ => True) : Makes (forIn xs ⟨⟩ f) fun _ => True := by
  induction xs with
  | nil => exact makes_pure trivial
  | cons x xs ih =>
    rw [List.forIn_cons]
    refine (hf x).bind fun r _ => ?_
    cases r with
    | done u => exact makes_pure trivial
    | yield u => exact ih

theorem makes_node (n : Nat) : Makes (node n) fun _ => True :=
  makes_get.bind fun _ _ => makes_pure trivial

theorem makes_entries (n : Nat) : Makes (entries n) fun _ => True :=
  makes_get.bind fun _ _ => makes_pure trivial

/-! ## texts -/

theorem makes_plainText (fuel n : Nat) : Makes (plainText fuel n) fun _ => True := by
  induction fuel generalizing n with
  | zero => exact makes_throw _
  | succ fuel ih =>
    refine (makes_node n).bind fun node _ => ?_
    split
    · exact makes_pure trivial
    · exact makes_throw _
    · refine makes_get.bind fun w _ => ?_
      dsimp only
      split
      · exact ih _
      · exact makes_throw _

/-- a text stands for a value that is no collection -/
theorem makes_simple (n : Nat) (tag : Tag) : Makes (simple n tag) Value.Orderly := by
  refine makes_get.bind fun w _ => (makes_plainText _ n).bind fun t _ => ?_
  split
  · exact makes_pure trivial
  · unfold boolOf
    dsimp only
    split
    · exact makes_pure trivial
    · split
      · exact makes_pure trivial
      · exact makes_throw _
  · exact makes_orFault.bind fun i _ => makes_pure trivial
  · refine makes_orFault.bind fun x _ => ?_
    split
    · refine makes_pure ?_
      split <;> trivial
    · exact makes_pure trivial
  · split
    · exact makes_pure trivial
    · exact makes_throw _
  · refine (makes_node n).bind fun node _ => ?_
    split
    · refine makes_orFault.bind fun x _ => ?_
      split
      · exact makes_pure trivial
      · exact makes_pure trivial
    · exact makes_throw _
  · exact makes_pure trivial

/-! ## parts -/

theorem makes_newPart (n : Nat) : Makes (newPart n) Part.Orderly := by
  refine (makes_node n).bind fun node _ => ?_
  have hwaits : Makes (do
      modify fun s => { s with waiting := n :: s.waiting }
      pure (Part.collection n)) Part.Orderly :=
    Makes.bind (P := fun _ => True) (makes_modify fun w hw => hw.of_eq rfl rfl)
      fun _ _ => makes_pure trivial
  split
  all_goals first
    | exact hwaits
    | exact makes_throw _
    | exact (makes_simple n _).bind fun v hv => makes_pure hv

theorem makes_part (n : Nat) : Makes (part n) Part.Orderly := by
  refine makes_get.bind fun w hw => ?_
  split
  · rename_i p hp
    exact makes_pure (hw.made p (Array.mem_of_getElem? (Option.join_eq_some_iff.mp hp)))
  · refine (makes_newPart n).bind fun p hp => ?_
    refine Makes.bind (P := fun _ => True) (makes_modify fun w hw => ⟨fun q hq => ?_, hw.filled⟩)
      fun _ _ => makes_pure hp
    rcases Array.mem_or_eq_of_mem_setIfInBounds hq with hq | hq
    · exact hw.made q hq
    · cases hq
      exact hp

/-! ## merging -/

theorem makes_takeMerge? (n : Nat) : Makes (takeMerge? n) fun _ => True := by
  refine makes_get.bind fun w hw => ?_
  dsimp only
  split
  · exact makes_pure trivial
  · exact Makes.bind (P := fun _ => True) (makes_set (hw.of_eq rfl rfl)) fun _ _ => makes_pure trivial

theorem makes_settlePlainKeys (n : Nat) : Makes (settlePlainKeys n) fun _ => True := by
  refine (makes_entries n).bind fun es _ => ?_
  refine (makes_forIn fun e => ?_).bind fun _ _ => makes_pure trivial
  refine (makes_node e.1).bind fun node _ => ?_
  split
  · exact Makes.bind (P := fun _ => True) (makes_modify fun w hw => hw.of_eq rfl rfl)
      fun _ _ => makes_pure trivial
  · exact makes_pure trivial

theorem makes_mergedFrom {flatten : Nat → Making Unit} (hf : ∀ m, Makes (flatten m) fun _ => True)
    (n : Nat) : Makes (mergedFrom flatten n) fun _ => True := by
  refine (makes_node n).bind fun node _ => ?_
  split
  · exact makes_throw _
  · exact (hf n).bind fun _ _ => makes_entries n
  · refine Makes.bind (P := fun _ => True) ((makes_mapM (P := fun _ => True) fun item _ => ?_).mono
      fun _ _ => trivial) fun all _ => makes_pure trivial
    refine (makes_node item).bind fun node _ => ?_
    split
    · exact (hf item).bind fun _ _ => makes_entries item
    · exact makes_throw _

theorem makes_putInFront (n : Nat) (merged : List (Nat × Nat)) :
    Makes (putInFront n merged) fun _ => True := by
  unfold putInFront
  split
  · exact makes_modify fun w hw => hw.of_eq rfl rfl
  · exact makes_pure trivial

theorem makes_merges (count n : Nat) : Makes (merges count n) fun _ => True := by
  induction count generalizing n with
  | zero => exact makes_pure trivial
  | succ count ih =>
    refine (makes_takeMerge? n).bind fun source _ => ?_
    split
    · exact (makes_settlePlainKeys n).bind fun _ _ => makes_pure trivial
    · refine (makes_mergedFrom (fun m => ?_) _).bind fun first _ => (ih n).bind fun _ _ => makes_pure trivial
      exact (ih m).bind fun es _ => makes_putInFront m es

/-! ## collections -/

theorem makes_key (n : Nat) : Makes (key n) fun _ => True := by
  refine (makes_part n).bind fun p _ => ?_
  split
  · exact makes_pure trivial
  · exact makes_throw _

theorem makes_mappingOf (n : Nat) : Makes (mappingOf n) fun es =>
    Entries.Distinct es ∧ ∀ e ∈ es, e.2.Orderly := by
  refine (makes_node n).bind fun node _ => ?_
  split
  · refine makes_get.bind fun w _ => (makes_merges _ n).bind fun merged _ => ?_
    refine (makes_putInFront n merged).bind fun _ _ => (makes_entries n).bind fun es _ => ?_
    -- a key that is there already is put in its place, and so none comes twice
    refine makes_foldlM ⟨.nil, nofun⟩ fun found e hfound => ?_
    refine (makes_key e.1).bind fun k _ => (makes_part e.2).bind fun p hp => makes_pure ?_
    refine ⟨hfound.1.put k p, fun x hx => ?_⟩
    rcases Entries.mem_put hx with hx | ⟨hv, _⟩
    · exact hfound.2 x hx
    · rw [hv]
      exact hp
  · exact makes_throw _

theorem makes_pairOf (n : Nat) : Makes (pairOf n) fun p => p.1.Orderly ∧ p.2.Orderly := by
  refine (makes_node n).bind fun node _ => ?_
  split
  · exact (makes_part _).bind fun first hfirst => (makes_part _).bind fun second hsecond =>
      makes_pure ⟨hfirst, hsecond⟩
  · exact makes_throw _

theorem makes_itemsOf (n : Nat) : Makes (itemsOf n) fun _ => True := by
  refine (makes_node n).bind fun node _ => ?_
  split
  · exact makes_pure trivial
  · exact makes_throw _

theorem makes_fill (n : Nat) : Makes (fill n) Filling.Orderly := by
  refine (makes_node n).bind fun node _ => ?_
  split
  · exact (makes_mappingOf n).bind fun es hes => makes_pure hes
  · exact (makes_mappingOf n).bind fun es _ => makes_pure trivial
  · exact (makes_itemsOf n).bind fun items _ =>
      (makes_mapM fun m _ => makes_pairOf m).bind fun ps hps => makes_pure hps
  · exact (makes_itemsOf n).bind fun items _ =>
      (makes_mapM fun m _ => makes_pairOf m).bind fun ps hps => makes_pure hps
  · exact (makes_itemsOf n).bind fun items _ =>
      (makes_mapM fun m _ => makes_part m).bind fun ps hps => makes_pure hps

theorem makes_fillAll (fuel : Nat) : Makes (fillAll fuel) fun _ => True := by
  induction fuel with
  | zero => exact makes_pure trivial
  | succ fuel ih =>
    refine makes_get.bind fun w _ => ?_
    dsimp only
    split
    · refine Makes.bind (P := fun _ => True) (makes_modify fun w hw => hw.of_eq rfl rfl) fun _ _ => ?_
      refine (makes_forIn fun n => ?_).bind fun _ _ => ih
      refine (makes_fill n).bind fun filling hfilling => ?_
      refine Makes.bind (P := fun _ => True) (makes_modify fun w hw => ⟨hw.made, fun f hf => ?_⟩)
        fun _ _ => makes_pure trivial
      -- it is an old filling, or the one that was made now
      rcases Array.mem_or_eq_of_mem_setIfInBounds hf with hf | hf
      · exact hw.filled f hf
      · cases hf
        exact hfilling
    · exact makes_pure trivial

end Making

/-- what a document is made into is orderly -/
theorem Document.orderly_filled {d : Document} {p : Part} {fillings : Array (Option Filling)}
    (h : d.filled = .ok (p, fillings)) : p.Orderly ∧ ∀ f, some f ∈ fillings → f.Orderly := by
  obtain ⟨⟨q, w⟩, hrun, hpure⟩ := Outcome.bind_eq_ok_iff.mp h
  cases hpure
  have hmaking : Making.Makes (do
      let p ← Making.part d.root
      Making.fillAll (d.nodes.size + 1)
      pure p) Part.Orderly :=
    (Making.makes_part d.root).bind fun p hp =>
      (Making.makes_fillAll _).bind fun _ _ => Making.makes_pure hp
  have hempty {α : Type} {a : α} {size : Nat} : some a ∉ Array.replicate size (none : Option α) := by
    intro ha
    cases Array.eq_of_mem_replicate ha
  obtain ⟨hp, hw⟩ := hmaking _ _ _ ⟨fun p hp => absurd hp hempty, fun f hf => absurd hf hempty⟩ hrun
  exact ⟨hp, hw.filled⟩

/-! ## putting collections together -/

namespace Assembly

variable {α β : Type} {P Q : α → Prop} {R : β → Prop}

/-- what is known of collections is orderly -/
def OrderlyKnown (known : Array (Option Value)) : Prop := ∀ v, some v ∈ known → v.Orderly

/-- a step that keeps what is known orderly, and has results with a property -/
def Puts (m : Known α) (P : α → Prop) : Prop :=
  ∀ known, OrderlyKnown known → P (m.run known).1 ∧ OrderlyKnown (m.run known).2

theorem puts_pure {a : α} (h : P a) : Puts (pure a) P := fun _ hk => ⟨h, hk⟩

theorem Puts.bind {m : Known α} {f : α → Known β} (hm : Puts m P) (hf : ∀ a, P a → Puts (f a) R) :
    Puts (m >>= f) R := by
  intro known hk
  obtain ⟨ha, hk'⟩ := hm known hk
  exact hf _ ha _ hk'

theorem puts_get : Puts get OrderlyKnown := fun _ hk => ⟨hk, hk⟩

theorem puts_modify {f : Array (Option Value) → Array (Option Value)}
    (h : ∀ known, OrderlyKnown known → OrderlyKnown (f known)) : Puts (modify f) fun _ => True :=
  fun known hk => ⟨trivial, h known hk⟩

theorem puts_mapM {f : β → Known α} {xs : List β} (hf : ∀ x ∈ xs, Puts (f x) P) :
    Puts (xs.mapM f) fun ys => ∀ y ∈ ys, P y := by
  induction xs with
  | nil => exact puts_pure nofun
  | cons x xs ih =>
    rw [List.mapM_cons]
    refine (hf x List.mem_cons_self).bind fun y hy => ?_
    refine (ih fun z hz => hf z (List.mem_cons_of_mem _ hz)).bind fun ys hys => ?_
    exact puts_pure (List.forall_mem_cons.mpr ⟨hy, hys⟩)

theorem orderly_closed {body : Value} (h : body.Orderly) (number : Nat) (inside : List Nat) :
    (closed number body inside).value.Orderly := by
  unfold closed
  split
  · exact h
  · exact h

theorem orderly_plain {v : Value} (h : v.Orderly) : (plain v).Orderly := by
  cases v <;> exact h

section
variable {collection : Nat → Known Assembled}
  (hc : ∀ n, Puts (collection n) fun a => a.value.Orderly)
include hc

theorem puts_part {p : Part} (hp : p.Orderly) : Puts (part collection p) fun a => a.value.Orderly := by
  cases p with
  | value v => exact puts_pure (orderly_plain hp)
  | collection n => exact hc n

theorem puts_pair {p : Part × Part} (hp : p.1.Orderly ∧ p.2.Orderly) (number : Nat) :
    Puts (pair collection number p) fun a => a.value.Orderly := by
  refine (puts_part hc hp.1).bind fun first hfirst => (puts_part hc hp.2).bind fun second hsecond => ?_
  have hpair : (Value.pair first.value second.value).Orderly := ⟨hfirst, hsecond⟩
  exact puts_pure (orderly_closed hpair _ _)

/-- the entries of a mapping keep their keys -/
theorem puts_entries {entries : List (Value × Part)} (h : ∀ e ∈ entries, e.2.Orderly) :
    Puts (entries.mapM fun e => do pure (e.1, ← part collection e.2)) fun vs =>
      vs.map Prod.fst = entries.map Prod.fst ∧ ∀ v ∈ vs, v.2.value.Orderly := by
  induction entries with
  | nil => exact puts_pure ⟨rfl, nofun⟩
  | cons e entries ih =>
    rw [List.mapM_cons]
    refine Puts.bind (P := fun v => v.1 = e.1 ∧ v.2.value.Orderly) ?_ fun v hv => ?_
    · exact (puts_part hc (h e List.mem_cons_self)).bind fun a ha => puts_pure ⟨rfl, ha⟩
    · refine (ih fun x hx => h x (List.mem_cons_of_mem _ hx)).bind fun vs hvs => puts_pure ?_
      exact ⟨by rw [List.map_cons, hv.1, hvs.1, List.map_cons], List.forall_mem_cons.mpr ⟨hv.2, hvs.2⟩⟩

theorem puts_body {filling : Filling} (hf : filling.Orderly) (count number : Nat) :
    Puts (body collection count number filling) fun a => a.value.Orderly := by
  have hlist {vs : List Assembled} (hvs : ∀ a ∈ vs, a.value.Orderly) :
      (Value.list (vs.map Assembled.value)).Orderly := by
    refine Value.orderlyItems_iff.mpr fun v hv => ?_
    obtain ⟨a, ha, rfl⟩ := List.mem_map.mp hv
    exact hvs a ha
  cases filling with
  | list items =>
    exact (puts_mapM fun p hp => puts_part hc (hf p hp)).bind fun vs hvs => puts_pure (hlist hvs)
  | pairs items =>
    refine Puts.bind (P := fun vs => ∀ a ∈ vs, a.value.Orderly) (puts_mapM fun p hp => ?_)
      fun vs hvs => puts_pure (hlist hvs)
    exact puts_pair hc (hf p.1 (List.fst_mem_of_mem_zipIdx hp)) _
  | set items => exact puts_pure trivial
  | mapping entries =>
    refine (puts_entries hc hf.2).bind fun vs hvs => puts_pure ?_
    refine ⟨Value.distinct_of_keys ?_ hf.1, Value.orderlyEntries_iff.mpr ?_⟩
    · rw [List.map_map, ← hvs.1]
      rfl
    · intro e he
      obtain ⟨v, hv, rfl⟩ := List.mem_map.mp he
      exact hvs.2 v hv

end

theorem puts_collection {fillings : Array (Option Filling)} (h : ∀ f, some f ∈ fillings → f.Orderly)
    (depth : Nat) (around : List Nat) (number : Nat) :
    Puts (collection fillings depth around number) fun a => a.value.Orderly := by
  induction depth generalizing around number with
  | zero => exact puts_pure trivial
  | succ depth ih =>
    refine puts_get.bind fun known hk => ?_
    split
    · rename_i v hv
      exact puts_pure (hk v (Array.mem_of_getElem? (Option.join_eq_some_iff.mp hv)))
    · split
      · exact puts_pure trivial
      · have hfilling : ((fillings[number]?).join.getD (.list [])).Orderly := by
          cases hf : (fillings[number]?).join with
          | none => exact nofun
          | some f => exact h f (Array.mem_of_getElem? (Option.join_eq_some_iff.mp hf))
        refine (puts_body (fun n => ih _ n) hfilling _ _).bind fun b hb => ?_
        dsimp only
        split
        · refine (puts_modify fun known hk v hv => ?_).bind fun _ _ => puts_pure (orderly_closed hb _ _)
          rcases Array.mem_or_eq_of_mem_setIfInBounds hv with hv | hv
          · exact hk v hv
          · cases hv
            exact hb
        · exact puts_pure (orderly_closed hb _ _)

end Assembly

theorem Document.orderly_value {d : Document} {v : Value} (h : d.value = .ok v) : v.Orderly := by
  obtain ⟨⟨p, fillings⟩, hfilled, hvalue⟩ := Outcome.bind_eq_ok_iff.mp h
  cases hvalue
  obtain ⟨hp, hfillings⟩ := orderly_filled hfilled
  have hempty : Assembly.OrderlyKnown (Array.replicate fillings.size none) := by
    intro v hv
    cases Array.eq_of_mem_replicate hv
  exact (Assembly.puts_part (Assembly.puts_collection hfillings _ _) hp _ hempty).1

/-- **No mapping of a settings file has one key twice.** -/
theorem orderly_ofBytes {bs : Bytes} {v : Value} (h : ofBytes bs = .ok v) : v.Orderly := by
  obtain ⟨d, _, hd⟩ := Outcome.bind_eq_ok_iff.mp h
  split at hd
  · cases hd
    trivial
  · exact Document.orderly_value hd

end DatabaseTypes.Yaml
