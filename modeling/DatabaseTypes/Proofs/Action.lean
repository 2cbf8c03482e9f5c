import DatabaseTypes.Run

/-!
# Steps

What a step of the program leads to from a session.  A step that is put together leads to what its parts
lead to.

* `Action.Leads`         from a session a step leads to values, or to faults, that have a property
* `Action.leads_iff`     the same by the result of the step and the session after it
* `Action.leads_bind`    one step after another
* `Action.run_bind`, `Action.run_bind_eq_ok_iff`   the same for the result and the session
-/

namespace DatabaseTypes.Action

variable {α β : Type} {s : Session} {done done' : α → Session → Prop}
  {failed failed' : Fault → Session → Prop}

/-- what a step leads to from a session: a value and a session, or a fault and a session -/
def Leads (a : Action α) (s : Session) (done : α → Session → Prop)
    (failed : Fault → Session → Prop) : Prop :=
  match a.run s with
  | (.ok x, s') => done x s'
  | (.error f, s') => failed f s'

theorem Leads.mono {a : Action α} (h : a.Leads s done failed)
    (hd : ∀ x s', done x s' → done' x s') (hf : ∀ f s', failed f s' → failed' f s') :
    a.Leads s done' failed' := by
  unfold Leads at h ⊢
  split at h
  · exact hd _ _ h
  · exact hf _ _ h

/-- what a step leads to is told by its result and the session after it -/
theorem leads_iff {a : Action α} : a.Leads s done failed
    ↔ (∀ x, (a.run s).1 = .ok x → done x (a.run s).2)
      ∧ ∀ f, (a.run s).1 = .error f → failed f (a.run s).2 := by
  unfold Leads
  rcases a.run s with ⟨f | x, s'⟩
  · exact ⟨fun h => ⟨nofun, fun g hg => by cases hg; exact h⟩, fun h => h.2 f rfl⟩
  · exact ⟨fun h => ⟨fun y hy => by cases hy; exact h, nofun⟩, fun h => h.1 x rfl⟩

theorem leads_pure {x : α} : (pure x : Action α).Leads s done failed ↔ done x s := Iff.rfl

theorem run_bind (a : Action α) (f : α → Action β) (s : Session) :
    (a >>= f).run s = match a.run s with
      | (.ok x, s') => (f x).run s'
      | (.error e, s') => (.error e, s') := by
  show (ExceptT.bindCont (m := StateM Session) f <| (a.run s).1) (a.run s).2 = _
  rcases a.run s with ⟨e | x, s'⟩
  · rfl
  · rfl

/-- one step after another ends well if both do -/
theorem run_bind_eq_ok_iff {a : Action α} {f : α → Action β} {y : β} {s' : Session} :
    (a >>= f).run s = (.ok y, s')
      ↔ ∃ x s₁, a.run s = (.ok x, s₁) ∧ (f x).run s₁ = (.ok y, s') := by
  rw [run_bind]
  rcases a.run s with ⟨e | x, s₁⟩
  · constructor
    · intro h; cases h
    · rintro ⟨x, s₁, h, _⟩; cases h
  · constructor
    · intro h; exact ⟨x, s₁, rfl, h⟩
    · rintro ⟨x', s₁', h, h'⟩
      cases h
      exact h'

theorem run_outcome (a : Action α) (s : Session) :
    a.outcome.run s = (.ok (a.run s).1, (a.run s).2) := rfl

theorem run_lift (x : Except Fault α) (s : Session) : (lift x).run s = (x, s) := by
  cases x <;> rfl

theorem run_liftProblem (x : Except Problem α) (s : Session) :
    (liftProblem x).run s = (x.mapError .problem, s) := by
  cases x <;> rfl

/-- steps that leave the session as it is, one after another -/
theorem run_bind_unchanged {a : Action α} {f : α → Action β} {x : Except Fault α}
    {y : α → Except Fault β} (ha : a.run s = (x, s)) (hf : ∀ v, (f v).run s = (y v, s)) :
    (a >>= f).run s = (x >>= y, s) := by
  rw [run_bind, ha]
  cases x with
  | error e => rfl
  | ok v => exact hf v

theorem run_lift_eq_ok_iff {x : Except Fault α} {a : α} {s' : Session} :
    (lift x).run s = (.ok a, s') ↔ x = .ok a ∧ s' = s := by
  cases x with
  | error f =>
    constructor
    · intro h; cases h
    · rintro ⟨h, _⟩; cases h
  | ok b =>
    constructor
    · intro h; cases h; exact ⟨rfl, rfl⟩
    · rintro ⟨h, rfl⟩; cases h; rfl

theorem run_host (s : Session) : host.run s = (.ok s.host, s) := rfl

theorem run_log (level : Level) (event : Text) (fields : List (Text × Json)) (logger : Option Text)
    (s : Session) : (log level event fields logger).run s
      = (.ok (), s.record { level, event, fields, logger }) := rfl

theorem leads_bind {a : Action α} {f : α → Action β} {done : β → Session → Prop} :
    (a >>= f).Leads s done failed
      ↔ a.Leads s (fun x s' => (f x).Leads s' done failed) failed := by
  unfold Leads
  rw [run_bind]
  rcases a.run s with ⟨e | x, s'⟩
  · exact Iff.rfl
  · exact Iff.rfl

theorem leads_get {done : Session → Session → Prop} :
    (get : Action Session).Leads s done failed ↔ done s s := Iff.rfl

theorem leads_session {done : Session → Session → Prop} :
    session.Leads s done failed ↔ done s s := Iff.rfl

theorem leads_host {done : Host → Session → Prop} :
    host.Leads s done failed ↔ done s.host s := Iff.rfl

theorem leads_fail {f : Fault} : (fail f : Action α).Leads s done failed ↔ failed f s := Iff.rfl

theorem leads_modify {g : Session → Session} {done : Unit → Session → Prop} :
    (modify g : Action Unit).Leads s done failed ↔ done () (g s) := Iff.rfl

theorem leads_log {level : Level} {event : Text} {fields : List (Text × Json)}
    {logger : Option Text} {done : Unit → Session → Prop} :
    (log level event fields logger).Leads s done failed
      ↔ done () (s.record { level, event, fields, logger }) := Iff.rfl

theorem leads_lift {x : Except Fault α} (hd : ∀ a, x = .ok a → done a s)
    (hf : ∀ f, x = .error f → failed f s) : (lift x).Leads s done failed := by
  cases x with
  | error f => exact hf f rfl
  | ok a => exact hd a rfl

/-! ## steps within a run -/

/-- a refusal by the system is reported as a problem, anything else is as it is -/
theorem run_reporting (a : Action α) (problem : SystemFault → Problem) (s : Session) :
    (a.reporting problem).run s = ((match (a.run s).1 with
      | .error (.system f) => .error (.problem (problem f))
      | r => r), (a.run s).2) := by
  show a.reporting problem s = _
  unfold Action.reporting
  rcases a.run s with ⟨f | x, s'⟩
  · cases f <;> rfl
  · rfl

/-- a refusal that is reported as a problem leads to the same session -/
theorem Leads.reporting {a : Action α} {kept : Session → Prop} (h : a.Leads s done fun _ => kept)
    (problem : SystemFault → Problem) : (a.reporting problem).Leads s done fun _ => kept := by
  unfold Leads at h ⊢
  rw [run_reporting]
  rcases e : a.run s with ⟨f | x, s'⟩
  · rw [e] at h
    cases f <;> exact h
  · rw [e] at h
    exact h

/-- a step that ends well does so whether or not its refusals are reported -/
theorem run_of_reporting {a : Action α} {problem : SystemFault → Problem} {x : α} {s' : Session}
    (h : (a.reporting problem).run s = (.ok x, s')) : a.run s = (.ok x, s') := by
  rw [run_reporting] at h
  rcases e : a.run s with ⟨f | y, s₁⟩
  · rw [e] at h
    cases f <;> cases h
  · rw [e] at h
    exact h

theorem run_thenAlways (a : Action α) (after : Session → Session) (s : Session) :
    (a.thenAlways after).run s = ((a.run s).1, after (a.run s).2) := rfl

theorem run_thenAlways_eq_ok_iff {a : Action α} {after : Session → Session} {x : α} {s' : Session} :
    (a.thenAlways after).run s = (.ok x, s') ↔ ∃ s₁, a.run s = (.ok x, s₁) ∧ s' = after s₁ := by
  rw [run_thenAlways, Prod.mk.injEq]
  constructor
  · rintro ⟨h, rfl⟩
    exact ⟨_, Prod.ext h rfl, rfl⟩
  · rintro ⟨s₁, h, rfl⟩
    rw [h]
    exact ⟨rfl, rfl⟩

theorem Leads.thenAlways {a : Action α} {after : Session → Session}
    (h : a.Leads s (fun x s' => done x (after s')) fun f s' => failed f (after s')) :
    (a.thenAlways after).Leads s done failed := by
  obtain ⟨hd, hf⟩ := leads_iff.mp h
  exact leads_iff.mpr ⟨hd, hf⟩

theorem run_changeFiles (change : Files → Except Fault Files) (s : Session) :
    (changeFiles change).run s = match change s.files with
      | .ok files => (.ok (), { s with files })
      | .error f => (.error f, s) := by
  have hbind : (changeFiles change).run s = (lift (change s.files) >>= fun files =>
      set { s with files }).run s := rfl
  rw [hbind, run_bind, run_lift]
  cases change s.files <;> rfl

theorem run_changeFiles_eq_ok {change : Files → Except Fault Files} {x : Unit} {s' : Session}
    (h : (changeFiles change).run s = (.ok x, s')) :
    ∃ files, change s.files = .ok files ∧ s' = { s with files } := by
  rw [run_changeFiles] at h
  split at h
  · rename_i files hc
    cases h
    exact ⟨files, hc, rfl⟩
  · cases h

theorem leads_changeFiles {change : Files → Except Fault Files} {done : Unit → Session → Prop}
    (hd : ∀ files, change s.files = .ok files → done () { s with files })
    (hf : ∀ f, change s.files = .error f → failed f s) :
    (changeFiles change).Leads s done failed := by
  unfold changeFiles
  rw [leads_bind, leads_get, leads_bind]
  exact leads_lift hd hf

end DatabaseTypes.Action
