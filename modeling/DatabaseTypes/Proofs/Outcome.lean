import Mathlib.Data.List.Forall2

/-!
# Steps that may fail

A step that may fail gives a fault or a value.  When a sequence of steps ends well, every step of
it did.

* `Outcome.bind_eq_ok_iff`   one step after another
* `Outcome.mapM_eq_ok_iff`   the same step for every item of a list
* `Outcome.mapM_perm`        the items in another order
* `Outcome.mapM_forall₂`     other items with related results
* `Outcome.bind_eq_error_iff`, `Outcome.exists_of_mapM_eq_error`   where a fault comes from
* `Outcome.Fails`            a property of every fault of a step
* `Outcome.Gives`            a property of every value that a step gives
* `Outcome.Hinges`           a step that fails in one way only, and when it does
* `Outcome.Related`          the same fault, or values that are related
-/

namespace DatabaseTypes.Outcome

variable {ε α β γ : Type}

theorem bind_eq_ok_iff {x : Except ε α} {f : α → Except ε β} {b : β} :
    (x >>= f) = .ok b ↔ ∃ a, x = .ok a ∧ f a = .ok b := by
  cases x with
  | error e =>
    constructor
    · intro h; cases h
    · rintro ⟨a, ha, _⟩; cases ha
  | ok a =>
    constructor
    · intro h; exact ⟨a, rfl, h⟩
    · rintro ⟨a', ha, h⟩
      cases ha
      exact h

/-- a value that passes a test is there -/
theorem exists_ok_of_any {x : Except ε α} {p : α → Bool} (h : x.toOption.any p = true) :
    ∃ a, x = .ok a ∧ p a = true := by
  cases x with
  | ok a => exact ⟨a, rfl, h⟩
  | error e => cases h

theorem map_eq_ok_iff {x : Except ε α} {f : α → β} {b : β} :
    x.map f = .ok b ↔ ∃ a, x = .ok a ∧ f a = b := by
  cases x with
  | error e => simp [Except.map]
  | ok a => simp [Except.map]

theorem mapError_eq_ok_iff {ε' : Type} {x : Except ε α} {f : ε → ε'} {a : α} :
    x.mapError f = .ok a ↔ x = .ok a := by
  cases x with
  | error e => exact ⟨nofun, nofun⟩
  | ok b => exact ⟨fun h => by cases h; rfl, fun h => by cases h; rfl⟩

theorem mapM_nil (f : α → Except ε β) : [].mapM f = .ok [] := rfl

theorem mapM_cons_eq_ok_iff {f : α → Except ε β} {x : α} {xs : List α} {ys : List β} :
    (x :: xs).mapM f = .ok ys ↔ ∃ y zs, f x = .ok y ∧ xs.mapM f = .ok zs ∧ ys = y :: zs := by
  rw [List.mapM_cons, bind_eq_ok_iff]
  constructor
  · rintro ⟨y, hy, h⟩
    obtain ⟨zs, hzs, h⟩ := bind_eq_ok_iff.mp h
    cases h
    exact ⟨y, zs, hy, hzs, rfl⟩
  · rintro ⟨y, zs, hy, hzs, rfl⟩
    exact ⟨y, hy, bind_eq_ok_iff.mpr ⟨zs, hzs, rfl⟩⟩

/-- a step is done for every item of a list if and only if it gives each item its result -/
theorem mapM_eq_ok_iff {f : α → Except ε β} {xs : List α} {ys : List β} :
    xs.mapM f = .ok ys ↔ List.Forall₂ (fun x y => f x = .ok y) xs ys := by
  induction xs generalizing ys with
  | nil =>
    rw [mapM_nil, List.forall₂_nil_left_iff]
    constructor
    · intro h; cases h; rfl
    · rintro rfl; rfl
  | cons x xs ih =>
    rw [mapM_cons_eq_ok_iff]
    constructor
    · rintro ⟨y, zs, hy, hzs, rfl⟩
      exact .cons hy (ih.mp hzs)
    · intro h
      cases h with
      | cons hy hzs => exact ⟨_, _, hy, ih.mpr hzs, rfl⟩

/-- every result belongs to an item -/
theorem exists_of_mem_mapM {f : α → Except ε β} {xs : List α} {ys : List β}
    (h : xs.mapM f = .ok ys) {y : β} (hy : y ∈ ys) : ∃ x ∈ xs, f x = .ok y := by
  induction xs generalizing ys with
  | nil => cases h; cases hy
  | cons x xs ih =>
    obtain ⟨y', zs, hy', hzs, rfl⟩ := mapM_cons_eq_ok_iff.mp h
    rcases List.mem_cons.mp hy with rfl | hy
    · exact ⟨x, List.mem_cons_self, hy'⟩
    · obtain ⟨x', hx', e⟩ := ih hzs hy
      exact ⟨x', List.mem_cons_of_mem _ hx', e⟩

/-- every item has a result -/
theorem exists_mem_of_mapM {f : α → Except ε β} {xs : List α} {ys : List β}
    (h : xs.mapM f = .ok ys) {x : α} (hx : x ∈ xs) : ∃ y ∈ ys, f x = .ok y := by
  induction xs generalizing ys with
  | nil => cases hx
  | cons x' xs ih =>
    obtain ⟨y, zs, hy, hzs, rfl⟩ := mapM_cons_eq_ok_iff.mp h
    rcases List.mem_cons.mp hx with rfl | hx
    · exact ⟨y, List.mem_cons_self, hy⟩
    · obtain ⟨y', hy', e⟩ := ih hzs hx
      exact ⟨y', List.mem_cons_of_mem _ hy', e⟩

/-- items with the results of a step are the items, each with its own result -/
theorem mapM_paired {f : α → Except ε β} {xs : List α} {pairs : List (β × α)}
    (h : xs.mapM (fun x => do pure (← f x, x)) = .ok pairs) :
    pairs.map (·.2) = xs ∧ ∀ p ∈ pairs, f p.2 = .ok p.1 := by
  have hf := mapM_eq_ok_iff.mp h
  clear h
  induction hf with
  | nil => exact ⟨rfl, fun p hp => absurd hp List.not_mem_nil⟩
  | cons hx _ ih =>
    obtain ⟨y, hy, hx⟩ := bind_eq_ok_iff.mp hx
    cases hx
    refine ⟨by rw [List.map_cons, ih.1], fun p hp => ?_⟩
    rcases List.mem_cons.mp hp with rfl | hp
    · exact hy
    · exact ih.2 p hp

/-- a step followed by a function, for every item of a list -/
theorem mapM_map (f : α → Except ε β) (g : β → γ) (xs : List α) :
    xs.mapM (fun x => (f x).map g) = (xs.mapM f).map (List.map g) := by
  induction xs with
  | nil => rfl
  | cons x xs ih =>
    rw [List.mapM_cons, List.mapM_cons, ih]
    cases f x with
    | error e => rfl
    | ok y =>
      cases xs.mapM f with
      | error e => rfl
      | ok ys => rfl

/-- the items in another order give the same results in another order -/
theorem mapM_perm {f : α → Except ε β} {xs xs' : List α} {ys : List β} (hp : xs.Perm xs')
    (h : xs.mapM f = .ok ys) : ∃ ys', xs'.mapM f = .ok ys' ∧ ys.Perm ys' := by
  induction hp generalizing ys with
  | nil => exact ⟨ys, h, List.Perm.refl _⟩
  | cons x _ ih =>
    obtain ⟨y, zs, hy, hzs, rfl⟩ := mapM_cons_eq_ok_iff.mp h
    obtain ⟨zs', hzs', hp'⟩ := ih hzs
    exact ⟨y :: zs', mapM_cons_eq_ok_iff.mpr ⟨y, zs', hy, hzs', rfl⟩, hp'.cons y⟩
  | swap x x' xs =>
    obtain ⟨y', zs, hy', hzs, rfl⟩ := mapM_cons_eq_ok_iff.mp h
    obtain ⟨y, ws, hy, hws, rfl⟩ := mapM_cons_eq_ok_iff.mp hzs
    refine ⟨y :: y' :: ws, ?_, List.Perm.swap y y' ws⟩
    exact mapM_cons_eq_ok_iff.mpr ⟨y, _, hy, mapM_cons_eq_ok_iff.mpr ⟨y', ws, hy', hws, rfl⟩, rfl⟩
  | trans _ _ ih₁ ih₂ =>
    obtain ⟨ys₁, h₁, p₁⟩ := ih₁ h
    obtain ⟨ys₂, h₂, p₂⟩ := ih₂ h₁
    exact ⟨ys₂, h₂, p₁.trans p₂⟩

/-- related items give related results -/
theorem mapM_forall₂ {α' β' : Type} {R : α → α' → Prop} {S : β → β' → Prop} {f : α → Except ε β}
    {g : α' → Except ε β'} {xs : List α} {xs' : List α'} (h : List.Forall₂ R xs xs')
    (hf : ∀ x x' y, R x x' → f x = .ok y → ∃ y', g x' = .ok y' ∧ S y y') {ys : List β}
    (hy : xs.mapM f = .ok ys) : ∃ ys', xs'.mapM g = .ok ys' ∧ List.Forall₂ S ys ys' := by
  induction h generalizing ys with
  | nil => cases hy; exact ⟨[], rfl, .nil⟩
  | cons hx _ ih =>
    obtain ⟨y, zs, hfy, hzs, rfl⟩ := mapM_cons_eq_ok_iff.mp hy
    obtain ⟨y', hy', hs⟩ := hf _ _ y hx hfy
    obtain ⟨zs', hzs', hss⟩ := ih hzs
    exact ⟨y' :: zs', mapM_cons_eq_ok_iff.mpr ⟨y', zs', hy', hzs', rfl⟩, .cons hs hss⟩

/-! ## faults -/

theorem bind_eq_error_iff {x : Except ε α} {f : α → Except ε β} {e : ε} :
    (x >>= f) = .error e ↔ x = .error e ∨ ∃ a, x = .ok a ∧ f a = .error e := by
  cases x with
  | error e' =>
    constructor
    · intro h; cases h; exact .inl rfl
    · rintro (h | ⟨_, h, _⟩)
      · cases h; rfl
      · cases h
  | ok a =>
    constructor
    · intro h; exact .inr ⟨a, rfl, h⟩
    · rintro (h | ⟨_, ha, h⟩)
      · cases h
      · cases ha; exact h

/-- a step fails for a list if it does for an item -/
theorem exists_of_mapM_eq_error {f : α → Except ε β} {xs : List α} {e : ε} (h : xs.mapM f = .error e) :
    ∃ x ∈ xs, f x = .error e := by
  induction xs with
  | nil => cases h
  | cons x xs ih =>
    rw [List.mapM_cons] at h
    rcases bind_eq_error_iff.mp h with hx | ⟨_, _, h⟩
    · exact ⟨x, List.mem_cons_self, hx⟩
    · rcases bind_eq_error_iff.mp h with hxs | ⟨_, _, h⟩
      · obtain ⟨y, hy, hfy⟩ := ih hxs
        exact ⟨y, List.mem_cons_of_mem _ hy, hfy⟩
      · cases h

theorem exists_of_foldlM_eq_error {f : β → α → Except ε β} {xs : List α} {b : β} {e : ε}
    (h : xs.foldlM f b = .error e) : ∃ x ∈ xs, ∃ c, f c x = .error e := by
  induction xs generalizing b with
  | nil => cases h
  | cons x xs ih =>
    rw [List.foldlM_cons] at h
    rcases bind_eq_error_iff.mp h with hx | ⟨c, _, h⟩
    · exact ⟨x, List.mem_cons_self, b, hx⟩
    · obtain ⟨y, hy, hfy⟩ := ih h
      exact ⟨y, List.mem_cons_of_mem _ hy, hfy⟩

/-- every fault of a step has a property -/
def Fails (P : ε → Prop) (x : Except ε α) : Prop := ∀ e, x = .error e → P e

namespace Fails

variable {P Q : ε → Prop}

theorem ok (a : α) : Fails P (.ok a : Except ε α) := nofun

theorem error {e : ε} (h : P e) : Fails P (.error e : Except ε α) := by
  rintro _ ⟨⟩
  exact h

theorem mono {x : Except ε α} (hx : Fails P x) (h : ∀ e, P e → Q e) : Fails Q x :=
  fun e he => h e (hx e he)

theorem bind {x : Except ε α} {f : α → Except ε β} (hx : Fails P x) (hf : ∀ a, Fails P (f a)) :
    Fails P (x >>= f) := by
  intro e h
  rcases bind_eq_error_iff.mp h with h | ⟨a, _, h⟩
  · exact hx e h
  · exact hf a e h

theorem map {x : Except ε α} (hx : Fails P x) (f : α → β) : Fails P (x.map f) := by
  cases x with
  | error e => exact .error (hx e rfl)
  | ok a => exact .ok _

theorem mapM {f : α → Except ε β} (hf : ∀ x, Fails P (f x)) (xs : List α) : Fails P (xs.mapM f) := by
  intro e h
  obtain ⟨x, _, hx⟩ := exists_of_mapM_eq_error h
  exact hf x e hx

theorem foldlM {f : β → α → Except ε β} (hf : ∀ b x, Fails P (f b x)) (xs : List α) (b : β) :
    Fails P (xs.foldlM f b) := by
  intro e h
  obtain ⟨x, _, c, hx⟩ := exists_of_foldlM_eq_error h
  exact hf c x e hx

end Fails

/-! ## what every value has -/

/-- every value that a step gives has a property -/
def Gives (x : Except ε α) (P : α → Prop) : Prop := ∀ a, x = .ok a → P a

namespace Gives

variable {P : α → Prop} {Q : β → Prop}

theorem ok {a : α} (h : P a) : Gives (.ok a : Except ε α) P := by
  intro b hb
  cases hb
  exact h

theorem error {e : ε} : Gives (.error e : Except ε α) P := fun _ ha => by cases ha

theorem bind {x : Except ε α} {f : α → Except ε β} (hx : Gives x P) (hf : ∀ a, P a → Gives (f a) Q) :
    Gives (x >>= f) Q := by
  intro b hb
  obtain ⟨a, ha, hb⟩ := bind_eq_ok_iff.mp hb
  exact hf a (hx a ha) b hb

theorem map {x : Except ε α} {f : α → β} (hx : Gives x P) (hf : ∀ a, P a → Q (f a)) :
    Gives (x.map f) Q := by
  intro b hb
  obtain ⟨a, ha, rfl⟩ := map_eq_ok_iff.mp hb
  exact hf a (hx a ha)

theorem mapM {f : α → Except ε β} {xs : List α} (h : ∀ x ∈ xs, Gives (f x) Q) :
    Gives (xs.mapM f) fun ys => ∀ y ∈ ys, Q y := by
  intro ys hys y hy
  obtain ⟨x, hx, hf⟩ := exists_of_mem_mapM hys hy
  exact h x hx y hf

/-- nothing is known about the value -/
theorem trivial (x : Except ε α) : Gives x fun _ => True := fun _ _ => True.intro

end Gives

/-! ## steps that fail in one way only -/

/-- whether a step ends well hinges on a condition: if it holds the step gives a value with a property,
and otherwise the fault `e` -/
inductive Hinges (e : ε) (P : α → Prop) : Bool → Except ε α → Prop where
  | ok {a : α} (h : P a) : Hinges e P true (.ok a)
  | error : Hinges e P false (.error e)

namespace Hinges

variable {e : ε} {P : α → Prop} {Q : β → Prop} {g g' : Bool}

/-- the first of two conditions that does not hold decides, and the fault is the same -/
theorem bind {x : Except ε α} {f : α → Except ε β} (hx : Hinges e P g x)
    (hf : ∀ a, P a → Hinges e Q g' (f a)) : Hinges e Q (g && g') (x >>= f) := by
  cases hx with
  | ok h => exact hf _ h
  | error => exact .error

/-- a step that ends well changes nothing -/
theorem bind_ok {x : Except ε α} {f : α → Except ε β} {a : α} (hx : x = .ok a)
    (hf : Hinges e Q g (f a)) : Hinges e Q g (x >>= f) := by
  rw [hx]
  exact hf

theorem map {x : Except ε α} {f : α → β} (hx : Hinges e P g x) (hf : ∀ a, P a → Q (f a)) :
    Hinges e Q g (x.map f) := by
  cases hx with
  | ok h => exact .ok (hf _ h)
  | error => exact .error

/-- a step for every item of a list hinges on the conditions of all items -/
theorem mapM {f : α → Except ε β} {good : α → Bool} {xs : List α}
    (h : ∀ x ∈ xs, Hinges e Q (good x) (f x)) :
    Hinges e (fun ys => ∀ y ∈ ys, Q y) (xs.all good) (xs.mapM f) := by
  induction xs with
  | nil => exact .ok fun y hy => absurd hy List.not_mem_nil
  | cons x xs ih =>
    have htail := ih fun y hy => h y (List.mem_cons_of_mem _ hy)
    rw [List.all_cons, List.mapM_cons]
    refine (h x List.mem_cons_self).bind fun y hy => ?_
    rw [← Bool.and_true (xs.all good)]
    refine htail.bind fun ys hys => .ok fun z hz => ?_
    rcases List.mem_cons.mp hz with rfl | hz
    · exact hy
    · exact hys z hz

/-- what a step hinges on tells how it ends -/
theorem outcome {x : Except ε α} (h : Hinges e P g x) :
    (g = true → ∃ a, x = .ok a ∧ P a) ∧ (g = false → x = .error e) := by
  cases h with
  | ok h => exact ⟨fun _ => ⟨_, rfl, h⟩, nofun⟩
  | error => exact ⟨nofun, fun _ => rfl⟩

end Hinges

/-- a step that ends well for every item -/
theorem exists_mapM_ok {f : α → Except ε β} {xs : List α} (h : ∀ x ∈ xs, ∃ y, f x = .ok y) :
    ∃ ys, xs.mapM f = .ok ys := by
  induction xs with
  | nil => exact ⟨[], rfl⟩
  | cons x xs ih =>
    obtain ⟨y, hy⟩ := h x List.mem_cons_self
    obtain ⟨ys, hys⟩ := ih fun z hz => h z (List.mem_cons_of_mem _ hz)
    exact ⟨y :: ys, mapM_cons_eq_ok_iff.mpr ⟨y, ys, hy, hys, rfl⟩⟩

/-! ## outcomes that are related -/

section
variable {ε' α' β' : Type} {R : α → α' → Prop} {S : β → β' → Prop}

/-- two outcomes are the same fault, or values that are related -/
def Related (R : α → α' → Prop) : Except ε α → Except ε α' → Prop
  | .ok a, .ok b => R a b
  | .error e, .error f => e = f
  | _, _ => False

theorem Related.refl {R : α → α → Prop} (h : ∀ a, R a a) (x : Except ε α) : Related R x x := by
  cases x with
  | error e => exact rfl
  | ok a => exact h a

theorem Related.ok_or_error {x : Except ε α} {y : Except ε α'} (h : Related R x y) :
    (∃ a b, x = .ok a ∧ y = .ok b ∧ R a b) ∨ ∃ e, x = .error e ∧ y = .error e := by
  match x, y, h with
  | .ok a, .ok b, h => exact .inl ⟨a, b, rfl, rfl, h⟩
  | .error e, .error _, rfl => exact .inr ⟨e, rfl, rfl⟩

theorem Related.mono {S : α → α' → Prop} {x : Except ε α} {y : Except ε α'} (h : Related R x y)
    (hRS : ∀ a b, R a b → S a b) : Related S x y := by
  match x, y, h with
  | .ok a, .ok b, h => exact hRS a b h
  | .error e, .error _, rfl => exact rfl

theorem Related.bind {x : Except ε α} {y : Except ε α'} {f : α → Except ε β} {g : α' → Except ε β'}
    (h : Related R x y) (hf : ∀ a b, R a b → Related S (f a) (g b)) :
    Related S (x >>= f) (y >>= g) := by
  match x, y, h with
  | .ok a, .ok b, h => exact hf a b h
  | .error e, .error _, rfl => exact rfl

theorem Related.bind_same {x : Except ε α} {f : α → Except ε β} {g : α → Except ε β'}
    (h : ∀ a, Related S (f a) (g a)) : Related S (x >>= f) (x >>= g) := by
  refine Related.bind (Related.refl (R := Eq) (fun _ => rfl) x) ?_
  rintro a _ rfl
  exact h a

theorem Related.map {x : Except ε α} {y : Except ε α'} {f : α → β} {g : α' → β'}
    (h : Related R x y) (hf : ∀ a b, R a b → S (f a) (g b)) : Related S (x.map f) (y.map g) := by
  match x, y, h with
  | .ok a, .ok b, h => exact hf a b h
  | .error e, .error _, rfl => exact rfl

theorem Related.mapError {x : Except ε α} {y : Except ε α'} (h : Related R x y) (f : ε → ε') :
    Related R (x.mapError f) (y.mapError f) := by
  match x, y, h with
  | .ok a, .ok b, h => exact h
  | .error e, .error _, rfl => exact rfl

end

end DatabaseTypes.Outcome
