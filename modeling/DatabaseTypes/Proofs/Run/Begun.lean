import DatabaseTypes.Proofs.Blind
import DatabaseTypes.Proofs.Path
import DatabaseTypes.Proofs.Run
import DatabaseTypes.Proofs.Settings.Alike

/-!
# Runs that begin alike

A run begins with its settings: the log is opened, and the model is taken from its document.  Runs whose settings
are the same but for the text of the output begin alike if both texts mean one path, and then they end alike.

* `Run.Call.place`     where the output of a run goes
* `Run.Call.Same`      runs that do the same
* `Run.begun`          how a run begins
* `Run.begun_alike`    runs that begin alike
* `Run.action_alike`   and end alike
-/

namespace DatabaseTypes.Run

open Outcome

/-- a text and the text of its path mean the same output -/
theorem resolved_text {output : Text} (h : output ≠ []) (host : Host) (base : Option Path) :
    resolved host (some (Path.ofText output).text) base = resolved host (some output) base := by
  have hnormal := Path.normal_ofText output
  have hfilter : ∀ t : Text, t ≠ [] → (some t).filter (fun t => !t.isEmpty) = some t := by
    intro t ht
    cases t with
    | nil => exact absurd rfl ht
    | cons c t => rfl
  rw [resolved, resolved, hfilter _ (Path.text_ne_nil hnormal), hfilter _ h]
  dsimp only
  rw [Path.ofText_text hnormal]

namespace Call

/-- where the output of a run goes -/
def place (c : Call) (host : Host) : Except Fault Path := resolved host c.output c.base

/-- two runs do the same, with the same place for the output -/
structure Same (c c' : Call) : Prop where
  place : ∀ host, c.place host = c'.place host
  action : c.action = c'.action

theorem same_of_alike {s s' : Settings} {output : Text} (h : output ≠ [])
    (hs : Settings.Alike (Path.ofText output).text output s s') (datamodel : Json) (base : Option Path) :
    Same { datamodel, settings := s, base } { datamodel, settings := s', base } := by
  have hplace : ∀ host, resolved host s.generator.output base = resolved host s'.generator.output base := by
    intro host
    rcases hs.output with e | ⟨e, e'⟩
    · rw [e]
    · rw [e, e', resolved_text h]
  refine ⟨hplace, ?_⟩
  have hdestination : destination s.generator.output base = destination s'.generator.output base := by
    unfold destination
    exact bind_congr fun host => by rw [hplace host]
  have hassemble : assemble s = assemble s' := by
    funext schema
    rw [assemble, assemble, hs.documentation]
  have hto : ∀ path, generateTo path datamodel s = generateTo path datamodel s' := by
    intro path
    rw [generateTo, generateTo, hassemble, hs.formatting]
  show generate datamodel s base = generate datamodel s' base
  rw [generate, generate, hdestination]
  exact bind_congr fun path => by rw [hto path]

/-- a run leaves the log as it is -/
theorem log_action {s : Session} (hh : s.host.Transforms) (c : Call) : (c.action.run s).2.log = s.log := by
  -- beside itself, the session has one log on both sides, and a run keeps that
  have hP : ∀ log log', log = s.log ∧ log' = s.log → Log.Aside s.log.files log log' := by
    rintro log log' ⟨rfl, rfl⟩
    exact ⟨List.Subset.refl _, List.Subset.refl _⟩
  have hs : Session.Alike s.host s.log.files (fun log log' => log = s.log ∧ log' = s.log) s s :=
    ⟨rfl, rfl, ⟨rfl, rfl⟩, .refl _ _⟩
  exact (blind_generate hP (hh.overlooks _) c.datamodel c.settings c.base s s hs).2.log.1

end Call

/-- a run with a document, once it is known which settings it has -/
def begun (settings : Except Fault Settings) (document : Json) (base : Path) : Action Call := do
  let settings ← Action.lift settings
  Action.openLog settings.logging
  let datamodel ← Action.liftProblem (Document.datamodel document)
  pure { datamodel, settings, base := some base }

theorem run_begun_ok (settings : Settings) (document : Json) (base : Path) (s : Session) :
    (begun (.ok settings) document base).run s
      = ((((Action.openLog settings.logging).run s).1 >>= fun _ =>
          ((Document.datamodel document).mapError Fault.problem).map fun datamodel =>
            { datamodel, settings, base := some base }), ((Action.openLog settings.logging).run s).2) := by
  have hbind : (begun (.ok settings) document base).run s
      = (Action.openLog settings.logging >>= fun _ =>
        Action.liftProblem (Document.datamodel document) >>= fun datamodel =>
          pure { datamodel, settings, base := some base }).run s := rfl
  rw [hbind, Action.run_bind]
  rcases (Action.openLog settings.logging).run s with ⟨f | u, s₁⟩
  · rfl
  · dsimp only
    rw [Action.run_bind, Action.run_liftProblem]
    cases Document.datamodel document <;> rfl

/-- runs with settings that are the same but for the text of the output begin alike -/
theorem begun_alike {h : Host} {ls : List Location} {s s' : Session} {x x' : Except Fault Settings}
    {output : Text} {document : Json} {base : Path} {p p' : Except Fault Call × Session} (ho : output ≠ [])
    (hx : Related (Settings.Alike (Path.ofText output).text output) x x')
    (hs : Session.Alike h ls (Log.Aside ls) s s') (hp : p = (begun x document base).run s)
    (hp' : p' = (begun x' document base).run s') : Related Call.Same p.1 p'.1
      ∧ Session.Alike h (ls ++ p.2.log.files) (Log.Aside (ls ++ p.2.log.files)) p.2 p'.2 := by
  match x, x', hx with
  | .error f, .error _, rfl =>
    rw [hp, hp']
    exact ⟨rfl, hs.mono (List.subset_append_left _ _)⟩
  | .ok settings, .ok settings', hx =>
    obtain ⟨hopened, hs₁⟩ := Action.run_openLog_alike hs settings.logging
    rw [hp, hp', run_begun_ok, run_begun_ok, hx.logging]
    -- once the log is open it is the same, and goes to files that are left out of account from here on
    refine ⟨?_, hs₁.aside⟩
    rw [hopened]
    refine Related.bind_same fun _ => (Related.refl (R := Eq) (fun _ => rfl) _).map ?_
    rintro datamodel _ rfl
    exact Call.same_of_alike ho hx datamodel base

/-- runs that begin alike end alike -/
theorem action_alike {h : Host} {ls : List Location} {s s' : Session} {a a' : Action Call}
    {b b' : Action Summary} (hh : h.Transforms) (hb : b = a >>= Call.action) (hb' : b' = a' >>= Call.action)
    (hx : Related Call.Same (a.run s).1 (a'.run s').1)
    (hs : Session.Alike h ls (Log.Aside ls) (a.run s).2 (a'.run s').2) :
    (b.run s).1 = (b'.run s').1 ∧ (b.run s).2.log = (a.run s).2.log
      ∧ Session.Alike h ls (Log.Aside ls) (b.run s).2 (b'.run s').2 := by
  rw [hb, hb', Action.run_bind, Action.run_bind]
  generalize a.run s = p at hx hs ⊢
  generalize a'.run s' = p' at hx hs ⊢
  obtain ⟨x, s₁⟩ := p
  obtain ⟨x', s₁'⟩ := p'
  match x, x', hx with
  | .error f, .error _, rfl => exact ⟨rfl, rfl, hs⟩
  | .ok c, .ok c', hx =>
    dsimp only at hs ⊢
    rw [← hx.action]
    obtain ⟨hend, hs₂⟩ := blind_generate (fun _ _ hlog => hlog) (hh.overlooks _) c.datamodel c.settings c.base _ _ hs
    exact ⟨hend, c.log_action (hs.host ▸ hh), hs₂⟩

end DatabaseTypes.Run
