import DatabaseTypes.Proofs.Run.Written
import DatabaseTypes.Service

/-!
# Answers to requests

A request is never left without an outcome: whatever is asked for, and however it fails, answering it ends well.
A request with an identifier gets one answer, which tells what became of it.  A request without one gets an answer
exactly if it fails.

* `Service.identifier`, `Service.method`, `Service.parameters`   what a request says
* `Service.prepared`       the run that a request asks for
* `Service.reportOf`       the problem that is reported for a fault
* `Service.IsAnswer`       what an answer tells
* `Service.handle_identified`     requests with an identifier
* `Service.handle_notification`   requests without one
-/

namespace DatabaseTypes.Service

/-! ## requests -/

/-- a member of a request; one that is absent is null -/
def memberOf (request : List (Text × Json)) (key : Text) : Json := (request.lookup key).getD .null

/-- the identifier of a request -/
def identifier (request : List (Text × Json)) : Json := memberOf request "id"

/-- what a request asks for -/
def method (request : List (Text × Json)) : Json := memberOf request "method"

/-- the parameters of a request; what counts as false counts as none -/
def parameters (request : List (Text × Json)) : Json :=
  ((memberOf request "params").truthy?).getD (.object [])

/-- a session after a request is received, which is logged -/
def received (request : List (Text × Json)) (s : Session) : Session :=
  s.record { level := .debug, event := "request_received"
             fields := [("method", method request), ("id", identifier request)] }

/-! ## runs for requests -/

/-- the run that a request asks for, once its settings are loaded and the log is opened -/
def prepared (root : Option Path) (params : Json) : Action Run.Call := do
  let base ← Action.lift (directory params root)
  let given ← Action.lift (overrides params)
  let settings ← Settings.load (base.getD (← Action.host).directory) given
  Action.openLog settings.logging
  let document := (← Action.lift (params.lookup "dmmf")).getD .null
  let datamodel ← Action.liftProblem (Document.datamodel document)
  pure { datamodel, settings, base }

theorem generate_eq (root : Option Path) (params : Json) :
    generate root params = prepared root params >>= fun c => c.action >>= fun _ => pure () := by
  simp only [generate, prepared, Run.Call.action, bind_assoc, pure_bind]

/-- a request for a run ends well exactly if the run does -/
theorem run_generate_eq_ok_iff {root : Option Path} {params : Json} {s s' : Session} :
    (generate root params).run s = (.ok (), s')
      ↔ ∃ c s₁ summary, (prepared root params).run s = (.ok c, s₁)
        ∧ c.action.run s₁ = (.ok summary, s') := by
  rw [generate_eq, Action.run_bind_eq_ok_iff]
  constructor
  · rintro ⟨c, s₁, hp, h⟩
    obtain ⟨summary, s₂, hr, h⟩ := Action.run_bind_eq_ok_iff.mp h
    cases h
    exact ⟨c, s₁, summary, hp, hr⟩
  · rintro ⟨c, s₁, summary, hp, hr⟩
    exact ⟨c, s₁, hp, Action.run_bind_eq_ok_iff.mpr ⟨summary, s', hr, rfl⟩⟩

/-! ## answers -/

/-- the problem that is reported for a fault -/
def reportOf (method : Json) : Fault → Problem
  | .problem p => p
  | f => .unexpected f.message [("method", method)]

/-- the answer to a fault is the report of its problem, and the rest is logged -/
theorem exists_run_faultResponse (id method : Json) (f : Fault) (s : Session) :
    ∃ m, (faultResponse id method f).run s = (.ok (problemResponse id (reportOf method f)), s.record m) := by
  cases f <;> exact ⟨_, rfl⟩

/-- a success is answered if there is an identifier -/
def success (id result : Json) : Option Json :=
  if id.isNull then none else some (response id ("result", result))

/-- the answer to a request for something that there is not -/
def unknownMethod (request : List (Text × Json)) : Json :=
  failure (identifier request) methodNotFound ("Unknown method: " ++ (method request).display) []

/-- what is answered to a request, by what became of it -/
def answered (request : List (Text × Json)) : Except Fault (Option Json) → Action (Option Json)
  | .error f => do pure (some (← faultResponse (identifier request) (method request) f))
  | .ok none => pure (some (unknownMethod request))
  | .ok (some result) => pure (success (identifier request) result)

section
variable {root : Option Path} {request : List (Text × Json)} {s s' : Session}

theorem run_handle (h : (perform root (method request) (parameters request)).run (received request s)
    = (outcome, s')) : (handle root request).run s = (answered request outcome).run s' := by
  have hhandle : (handle root request).run s = ((perform root (method request)
      (parameters request)).outcome >>= fun r => match r with
        | .error f => do pure (some (← faultResponse (identifier request) (method request) f))
        | .ok none => pure (some (unknownMethod request))
        | .ok (some result) => if (identifier request).isNull then pure none
          else pure (some (response (identifier request) ("result", result)))).run
      (received request s) := rfl
  rw [hhandle, Action.run_bind, Action.run_outcome, h]
  rcases outcome with f | (_ | result)
  · rfl
  · rfl
  · dsimp only [answered, success]
    split
    · rfl
    · rfl

theorem run_perform_unknown (h : method request ≠ .text "getManifest")
    (h' : method request ≠ .text "generate") (s : Session) :
    (perform root (method request) (parameters request)).run s = (.ok none, s) := by
  unfold perform
  split
  · rename_i name e
    rw [if_neg fun hn => h (by rw [e, hn]), if_neg fun hn => h' (by rw [e, hn])]
    rfl
  · rfl

theorem run_handle_unknown (h : method request ≠ .text "getManifest")
    (h' : method request ≠ .text "generate") : (handle root request).run s
      = (.ok (some (unknownMethod request)), received request s) := by
  rw [run_handle (run_perform_unknown h h' _)]
  rfl

theorem run_handle_manifest (h : method request = .text "getManifest") :
    (handle root request).run s
      = (.ok (success (identifier request) manifest), received request s) := by
  have hperform : (perform root (method request) (parameters request)).run (received request s)
      = (.ok (some manifest), received request s) := by
    rw [h]
    rfl
  rw [run_handle hperform]
  rfl

theorem perform_generate (h : method request = .text "generate") :
    perform root (method request) (parameters request)
      = generate root (parameters request) >>= fun _ => pure (some .null) := by
  rw [h]
  rfl

/-- a run that ends well is answered by null, after everything that it did -/
theorem run_handle_generate (h : method request = .text "generate")
    (hg : (generate root (parameters request)).run (received request s) = (.ok (), s')) :
    (handle root request).run s = (.ok (success (identifier request) .null), s') := by
  have hperform : (perform root (method request) (parameters request)).run (received request s)
      = (.ok (some .null), s') := by
    rw [perform_generate h, Action.run_bind, hg]
    rfl
  rw [run_handle hperform]
  rfl

/-- a run that fails is answered by the report of its problem, with or without an identifier -/
theorem run_handle_failed {f : Fault} (h : method request = .text "generate")
    (hg : (generate root (parameters request)).run (received request s) = (.error f, s')) :
    ∃ m, (handle root request).run s = (.ok (some (problemResponse (identifier request)
      (reportOf (method request) f))), s'.record m) := by
  have hperform : (perform root (method request) (parameters request)).run (received request s)
      = (.error f, s') := by
    rw [perform_generate h, Action.run_bind, hg]
  obtain ⟨m, hm⟩ := exists_run_faultResponse (identifier request) (method request) f s'
  refine ⟨m, ?_⟩
  rw [run_handle hperform]
  dsimp only [answered]
  rw [Action.run_bind, hm]
  rfl

/-! ## requests with an identifier -/

/-- the number of the error in an answer -/
def codeOf (answer : Json) : Option Json := (answer.get? "error").bind (Json.get? "code")

/-- what an answer says of a problem -/
def errorOf (p : Problem) : Json :=
  .object [("code", .int serverError), ("message", .text p.summary), ("data", p.toJson)]

/-- what the answer to a request tells that comes in a session; `s'` is the session after the answer -/
structure IsAnswer (root : Option Path) (request : List (Text × Json)) (s : Session) (answer : Json)
    (s' : Session) : Prop where
  version : answer.get? "jsonrpc" = some (.text "2.0")
  identified : answer.get? "id" = some (identifier request)
  exclusive : (answer.get? "result").isSome = !(answer.get? "error").isSome
  unknown : codeOf answer = some (.int methodNotFound)
    ↔ method request ≠ .text "getManifest" ∧ method request ≠ .text "generate"
  failed : method request = .text "getManifest" ∨ method request = .text "generate" →
    ∀ e, answer.get? "error" = some e
      ↔ ∃ f s₁, (perform root (method request) (parameters request)).run (received request s)
          = (.error f, s₁) ∧ e = errorOf (reportOf (method request) f)
  returned : method request = .text "generate" →
    ((answer.get? "result").isSome ↔ ∃ c s₁ summary s₂,
      (prepared root (parameters request)).run (received request s) = (.ok c, s₁)
        ∧ c.action.run s₁ = (.ok summary, s₂))
  written : method request = .text "generate" →
    ((answer.get? "result").isSome ↔ ∃ c s₁ path text s₂,
      (prepared root (parameters request)).run (received request s) = (.ok c, s₁)
        ∧ c.Writes s₁ path text s₂ ∧ Run.Holds path text s')

theorem isAnswer_unknown (h : method request ≠ .text "getManifest")
    (h' : method request ≠ .text "generate") :
    IsAnswer root request s (unknownMethod request) (received request s) where
  version := rfl
  identified := rfl
  exclusive := rfl
  unknown := ⟨fun _ => ⟨h, h'⟩, fun _ => rfl⟩
  failed hknown := hknown.elim (fun e => absurd e h) fun e => absurd e h'
  returned e := absurd e h'
  written e := absurd e h'

theorem isAnswer_manifest (h : method request = .text "getManifest") :
    IsAnswer root request s (response (identifier request) ("result", manifest))
      (received request s) where
  version := rfl
  identified := rfl
  exclusive := rfl
  unknown := by
    constructor
    · intro e; cases e
    · intro e; exact absurd h e.1
  failed _ e := by
    constructor
    · intro he; cases he
    · rintro ⟨f, s₁, hf, _⟩
      rw [h] at hf
      cases hf
  returned e := by rw [h] at e; cases e
  written e := by rw [h] at e; cases e

theorem isAnswer_generate (h : method request = .text "generate")
    (hg : (generate root (parameters request)).run (received request s) = (.ok (), s')) :
    IsAnswer root request s (response (identifier request) ("result", .null)) s' where
  version := rfl
  identified := rfl
  exclusive := rfl
  unknown := by
    constructor
    · intro e; cases e
    · intro e; exact absurd h e.2
  failed _ e := by
    constructor
    · intro he; cases he
    · rintro ⟨f, s₁, hf, _⟩
      rw [perform_generate h, Action.run_bind, hg] at hf
      cases hf
  returned _ := by
    obtain ⟨c, s₁, summary, hp, hr⟩ := run_generate_eq_ok_iff.mp hg
    exact ⟨fun _ => ⟨c, s₁, summary, s', hp, hr⟩, fun _ => rfl⟩
  written _ := by
    obtain ⟨c, s₁, summary, hp, hr⟩ := run_generate_eq_ok_iff.mp hg
    obtain ⟨text, s₂, hw, hheld⟩ := Run.Call.exists_writes hr
    exact ⟨fun _ => ⟨c, s₁, summary.destination, text, s₂, hp, hw, hheld⟩, fun _ => rfl⟩

theorem isAnswer_failed {f : Fault} {s'' : Session} (h : method request = .text "generate")
    (hg : (generate root (parameters request)).run (received request s) = (.error f, s')) :
    IsAnswer root request s (problemResponse (identifier request) (reportOf (method request) f))
      s'' where
  version := rfl
  identified := rfl
  exclusive := rfl
  unknown := by
    constructor
    · intro e; cases e
    · intro e; exact absurd h e.2
  failed _ e := by
    have hperform : (perform root (method request) (parameters request)).run (received request s)
        = (.error f, s') := by
      rw [perform_generate h, Action.run_bind, hg]
    constructor
    · intro he
      cases he
      exact ⟨f, s', hperform, rfl⟩
    · rintro ⟨f', s₁, hf, rfl⟩
      rw [hperform] at hf
      cases hf
      rfl
  returned _ := by
    constructor
    · intro he; cases he
    · rintro ⟨c, s₁, summary, s₂, hp, hr⟩
      rw [run_generate_eq_ok_iff.mpr ⟨c, s₁, summary, hp, hr⟩] at hg
      cases hg
  written _ := by
    constructor
    · intro he; cases he
    · rintro ⟨c, s₁, path, text, s₂, hp, hw, _⟩
      -- a run that writes its output ends well
      obtain ⟨summary, s₃, hr⟩ := (c.returns_iff_writes s₁).mpr ⟨path, text, s₂, hw⟩
      rw [run_generate_eq_ok_iff.mpr ⟨c, s₁, summary, hp, hr⟩] at hg
      cases hg

theorem run_answerLine {line : Text} (hblank : line.allBlank = false)
    (hline : Json.ofText line = .ok (.object request)) (s : Session) :
    (answerLine root line).run s = (handle root request).run s := by
  unfold answerLine
  rw [hblank, hline]
  rfl

/-- an answer is given to whoever is to reply, if there is one -/
def replied (reply : Text → Action Unit) : Option Json → Action Unit
  | none => pure ()
  | some v => reply (responseLine v)

theorem serveLines_cons (root : Option Path) (reply : Text → Action Unit) (line : Text)
    (lines : List Text) : serveLines root reply (line :: lines)
      = answerLine root line >>= fun v => replied reply v >>= fun _ => serveLines root reply lines := by
  rw [serveLines]
  refine bind_congr fun v => ?_
  cases v <;> rfl

/-- what becomes of a request without an identifier that comes in a session -/
structure IsNotified (root : Option Path) (request : List (Text × Json)) (s : Session)
    (answer : Option Json) (s' : Session) : Prop where
  silent : answer = none ↔ method request = .text "getManifest"
    ∨ method request = .text "generate"
      ∧ ∃ s₁, (generate root (parameters request)).run (received request s) = (.ok (), s₁)
  error : ∀ v, answer = some v →
    v.get? "id" = some .null ∧ v.get? "result" = none ∧ (v.get? "error").isSome
  served : ∀ reply line lines, line.allBlank = false → Json.ofText line = .ok (.object request) →
    (serveLines root reply (line :: lines)).run s
      = (replied reply answer >>= fun _ => serveLines root reply lines).run s'

theorem run_serveLines_cons {answer : Option Json} {line : Text} (hblank : line.allBlank = false)
    (hline : Json.ofText line = .ok (.object request))
    (h : (handle root request).run s = (.ok answer, s')) (reply : Text → Action Unit)
    (lines : List Text) : (serveLines root reply (line :: lines)).run s
      = (replied reply answer >>= fun _ => serveLines root reply lines).run s' := by
  rw [serveLines_cons, Action.run_bind, run_answerLine hblank hline, h]

/-- **A request without an identifier is answered exactly if it fails**, or asks for something that there is not;
the answer is an error without an identifier. -/
theorem handle_notification (root : Option Path) {request : List (Text × Json)}
    (h : identifier request = .null) (s : Session) :
    ∃ answer s', (handle root request).run s = (.ok answer, s')
      ∧ IsNotified root request s answer s' := by
  have hsuccess (result : Json) : success (identifier request) result = none := by
    rw [success, h]
    rfl
  by_cases hm : method request = .text "getManifest"
  · have hrun : (handle root request).run s = (.ok none, received request s) := by
      rw [run_handle_manifest hm, hsuccess]
    refine ⟨none, _, hrun, ⟨fun _ => .inl hm, fun _ => rfl⟩, nofun, fun reply line lines hb hl => ?_⟩
    exact run_serveLines_cons hb hl hrun reply lines
  by_cases hg : method request = .text "generate"
  · rcases hr : (generate root (parameters request)).run (received request s) with ⟨f | _, s'⟩
    · obtain ⟨m, hrun⟩ := run_handle_failed hg hr
      refine ⟨_, _, hrun, ⟨nofun, ?_⟩, ?_, fun reply line lines hb hl => ?_⟩
      · rintro (e | ⟨_, s₁, hs₁⟩)
        · exact absurd e hm
        · rw [hr] at hs₁
          cases hs₁
      · rintro v ⟨⟩
        rw [h]
        exact ⟨rfl, rfl, rfl⟩
      · exact run_serveLines_cons hb hl hrun reply lines
    · have hrun : (handle root request).run s = (.ok none, s') := by
        rw [run_handle_generate hg hr, hsuccess]
      refine ⟨none, _, hrun, ⟨fun _ => .inr ⟨hg, s', hr⟩, fun _ => rfl⟩, nofun,
        fun reply line lines hb hl => ?_⟩
      exact run_serveLines_cons hb hl hrun reply lines
  · have hrun : (handle root request).run s
        = (.ok (some (unknownMethod request)), received request s) := run_handle_unknown hm hg
    refine ⟨_, _, hrun, ⟨nofun, ?_⟩, ?_, fun reply line lines hb hl => ?_⟩
    · rintro (e | ⟨e, _⟩)
      · exact absurd e hm
      · exact absurd e hg
    · rintro v ⟨⟩
      unfold unknownMethod
      rw [h]
      exact ⟨rfl, rfl, rfl⟩
    · exact run_serveLines_cons hb hl hrun reply lines

/-- a request for something that there is not -/
def shutdown : List (Text × Json) := [("method", .text "shutdown")]

theorem handle_notification_shutdown : identifier shutdown = .null
    ∧ ∃ answer s', (handle none shutdown).run {} = (.ok answer, s')
      ∧ IsNotified none shutdown {} answer s' :=
  ⟨rfl, handle_notification none rfl {}⟩

/-- it has no identifier, and is answered -/
theorem answers_shutdown : ¬ ∀ (root : Option Path) (request : List (Text × Json)) (s : Session),
    request.lookup ("id" : Text) = none → ∃ s', (handle root request).run s = (.ok none, s') := by
  intro h
  obtain ⟨s', hs'⟩ := h none shutdown {} rfl
  have hmethod : method shutdown = .text "shutdown" := rfl
  rw [run_handle_unknown] at hs'
  · cases hs'
  · rw [hmethod]
    intro e
    exact absurd (Json.text.inj e) (by decide)
  · rw [hmethod]
    intro e
    exact absurd (Json.text.inj e) (by decide)

end

end DatabaseTypes.Service
