import DatabaseTypes.Proofs.Agreement
import DatabaseTypes.Proofs.Json.Value
import DatabaseTypes.Proofs.Lines
import DatabaseTypes.Proofs.Run.Faults
import DatabaseTypes.Proofs.Settings.Reported

/-!
# Answers to lines

A text is served line by line.  What a line says is answered before the next line is looked at, and a line that is no
request says nothing.

* `Service.Served`          lines that are served in turn, with their answers
* `Service.fits_of_handle`  an answer is not nested deeper than the request
* `Service.ofText_responseLine`   a line that is an answer is read as the answer
* `Service.SetApart`        a run that has nothing to do with some files but that log messages go to them
* `Service.Served.filter`   requests have the same answers without the lines between them
* `Service.serve_isServed`  what serving a text comes to
* `Service.serve_matters`   what its conditions are for
-/

namespace DatabaseTypes.Service

open Outcome

/-! ## faults -/

/-- a fault that is no problem of an unknown kind -/
def IsForeseen (f : Fault) : Prop := ∀ reason circumstances, f ≠ .problem (.unexpected reason circumstances)

theorem isForeseen_of_not_problem {f : Fault} (h : ∀ p, f ≠ .problem p) : IsForeseen f := fun _ _ => h _

theorem isForeseen_of_isMisshapen {f : Fault} (h : f.IsMisshapen) : IsForeseen f := by
  rintro _ _ rfl
  exact h

theorem fails_lookup (key : Text) (v : Json) : Fails IsForeseen (v.lookup key) :=
  (Json.fails_lookup key v).mono fun _ => isForeseen_of_isMisshapen

theorem fails_directory (params : Json) (root : Option Path) : Fails IsForeseen (directory params root) := by
  refine (fails_lookup _ params).bind fun v => ?_
  split
  · exact .ok _
  · exact .ok _
  · exact .error (isForeseen_of_not_problem nofun)

theorem fails_overrides (params : Json) : Fails IsForeseen (overrides params) := by
  have hsection (key : Text) (v : Json) : Fails IsForeseen (sectionAt key v) :=
    (fails_lookup key v).bind fun _ => .ok _
  refine (hsection _ params).bind fun generator => (hsection _ generator).bind fun options => ?_
  refine (hsection _ generator).bind fun _ => (fails_lookup _ _).bind fun _ => ?_
  exact (fails_lookup _ options).bind fun _ => (fails_lookup _ options).bind fun _ => .ok _

theorem fails_load (base : Path) (given : List (Text × Json)) : Action.Fails IsForeseen (Settings.load base given) := by
  intro s f hf
  obtain ⟨r, hr, hend⟩ := Settings.load_ends base given s
  rw [hr] at hf
  obtain rfl : r = .error f := hf
  cases hend with
  | reported h => cases h <;> exact nofun
  | unreported _ h => exact isForeseen_of_not_problem h

theorem fails_datamodel (document : Json) :
    Action.Fails IsForeseen (Action.liftProblem (Document.datamodel document)) := by
  unfold Document.datamodel
  split
  · exact Action.fails_fail nofun
  · dsimp only
    split
    · exact Action.fails_fail nofun
    · split
      · exact Action.fails_pure _
      · exact Action.fails_fail nofun

/-- a run for a request fails with foreseen faults alone -/
theorem fails_generate (root : Option Path) (params : Json) : Action.Fails IsForeseen (generate root params) := by
  refine (Action.fails_lift (fails_directory params root)).bind fun base => ?_
  refine (Action.fails_lift (fails_overrides params)).bind fun given => ?_
  refine Action.fails_host.bind fun host => (fails_load _ given).bind fun settings => ?_
  refine ((Action.fails_openLog settings.logging).mono ?_).bind fun _ => ?_
  · rintro f ⟨p, h⟩
    exact isForeseen_of_not_problem h.not_problem
  refine (Action.fails_lift (fails_lookup _ params)).bind fun document => ?_
  refine (fails_datamodel _).bind fun datamodel => Action.Fails.bind (fun s => ?_) fun _ => Action.fails_pure ()
  refine (Run.Call.fails_action { datamodel, settings, base } s).mono fun f hf => ?_
  cases hf with
  | missing => exact nofun
  | refused => exact nofun
  | broken h => exact isForeseen_of_not_problem h.not_problem

/-! ## answers that can be read -/

/-- the details of a problem are texts under different names -/
def HasTexts (p : Problem) : Prop :=
  ∃ texts : List (Text × Text), (texts.map Prod.fst).Nodup ∧ p.details = texts.map fun m => (m.1, .text m.2)

theorem hasTexts_reportOf {f : Fault} (hf : IsForeseen f) (name : Text) : HasTexts (reportOf (.text name) f) := by
  have hpath : List.Nodup [("path" : Text), "reason"] := by decide
  have hfield : List.Nodup [("field" : Text), "value", "reason"] := by decide
  have hother : HasTexts (.unexpected f.message [("method", .text name)]) :=
    ⟨[("method", name)], List.nodup_singleton _, rfl⟩
  cases f with
  | problem p => cases p with
    | settingsUnreadable path reason => exact ⟨[("path", path), ("reason", reason)], hpath, rfl⟩
    | settingInvalid field value reason =>
      exact ⟨[("field", field), ("value", value), ("reason", reason)], hfield, rfl⟩
    | settingMissing field => exact ⟨[("field", field)], List.nodup_singleton _, rfl⟩
    | modelNotFound path => exact ⟨[("path", path)], List.nodup_singleton _, rfl⟩
    | modelUnreadable path reason => exact ⟨[("path", path), ("reason", reason)], hpath, rfl⟩
    | modelInvalid reason => exact ⟨[("reason", reason)], List.nodup_singleton _, rfl⟩
    | writeFailed path reason => exact ⟨[("path", path), ("reason", reason)], hpath, rfl⟩
    | unexpected reason circumstances => exact absurd rfl (hf reason circumstances)
  | _ => exact hother

section
variable {d : Nat} {id : Json} {request : List (Text × Json)} {root : Option Path} {s s' : Session}

open Json

theorem fits_response {name : Text} {v : Json} (hname : List.Nodup [("jsonrpc" : Text), "id", name]) (hid : Fits d id)
    (hv : Fits d v) : Fits (d + 1) (response id (name, v)) :=
  .object (List.forall_mem_cons.mpr ⟨.text, List.forall_mem_cons.mpr ⟨hid, List.forall_mem_singleton.mpr hv⟩⟩) hname

/-- an integer of few digits -/
theorem fits_int {i : Int} (h : i.natAbs < 10 ^ 5) : Fits d (.int i) :=
  .int (h.trans_le (Nat.pow_le_pow_right (by decide) (by decide)))

theorem fits_problemResponse {p : Problem} (hp : HasTexts p) (hid : Fits (d + 3) id) :
    Fits (d + 4) (problemResponse id p) := by
  obtain ⟨texts, hnames, e⟩ := hp
  have hdetails : Fits (d + 1) (.object p.details) := by
    rw [e]
    refine .object (fun m hm => ?_) (by rw [List.map_map]; exact hnames)
    obtain ⟨m, _, rfl⟩ := List.mem_map.mp hm
    exact .text
  have hcode : Fits (d + 1) (.int p.code) := by
    refine fits_int ?_
    rw [Int.natAbs_natCast]
    cases p <;> simp only [Problem.code] <;> decide
  have hreport : Fits (d + 2) p.toJson := by
    have hnames : List.Nodup [("code" : Text), "error", "message", "details"] := by decide
    refine .object ?_ hnames
    exact List.forall_mem_cons.mpr ⟨hcode, List.forall_mem_cons.mpr ⟨.text, List.forall_mem_cons.mpr
      ⟨.text, List.forall_mem_singleton.mpr hdetails⟩⟩⟩
  have hnames : List.Nodup [("code" : Text), "message", "data"] := by decide
  refine fits_response (by decide) hid (.object ?_ hnames)
  exact List.forall_mem_cons.mpr ⟨fits_int (by decide), List.forall_mem_cons.mpr
    ⟨.text, List.forall_mem_singleton.mpr hreport⟩⟩

theorem fits_unknownMethod (hid : Fits (d + 1) (identifier request)) : Fits (d + 2) (unknownMethod request) := by
  have hnames : List.Nodup [("code" : Text), "message"] := by decide
  refine fits_response (by decide) hid (.object ?_ hnames)
  exact List.forall_mem_cons.mpr ⟨fits_int (by decide), List.forall_mem_singleton.mpr .text⟩

theorem fits_manifest : Fits (d + 2) manifest := by
  have hnames : List.Nodup [("defaultOutput" : Text), "prettyName"] := by decide
  refine .object (List.forall_mem_singleton.mpr (.object ?_ hnames)) (List.nodup_singleton _)
  exact List.forall_mem_cons.mpr ⟨.text, List.forall_mem_singleton.mpr .text⟩

theorem eq_response_of_success {result v : Json} (h : success id result = some v) :
    v = response id ("result", result) := by
  unfold success at h
  split at h
  · cases h
  · exact (Option.some.inj h).symm

/-- an answer is not nested deeper than the request -/
theorem fits_of_handle {v : Json} (hid : Fits (d + 3) (identifier request))
    (h : (handle root request).run s = (.ok (some v), s')) : Fits (d + 4) v := by
  by_cases hm : method request = .text "getManifest"
  · rw [run_handle_manifest hm] at h
    rw [eq_response_of_success (Except.ok.inj (Prod.mk.inj h).1)]
    exact fits_response (by decide) hid fits_manifest
  by_cases hg : method request = .text "generate"
  · rcases hr : (generate root (parameters request)).run (received request s) with ⟨f | _, s''⟩
    · obtain ⟨m, hanswer⟩ := run_handle_failed hg hr
      rw [hanswer, hg] at h
      rw [← Option.some.inj (Except.ok.inj (Prod.mk.inj h).1)]
      refine fits_problemResponse (hasTexts_reportOf ?_ _) hid
      exact fails_generate root _ _ f (congrArg Prod.fst hr)
    · rw [run_handle_generate hg hr] at h
      rw [eq_response_of_success (Except.ok.inj (Prod.mk.inj h).1)]
      exact fits_response (by decide) hid .null
  · rw [run_handle_unknown hm hg] at h
    rw [← Option.some.inj (Except.ok.inj (Prod.mk.inj h).1)]
    exact fits_unknownMethod hid

/-- **An answer is one line of printable characters, which is read as the answer**, if the halves of characters are
apart in its texts. -/
theorem ofText_responseLine {line : Text} {v : Json} (hline : ofText line = .ok (.object request))
    (h : (handle root request).run s = (.ok (some v), s')) (hapart : v.halvesApart = true) :
    ofText (responseLine v) = .ok v := by
  have hrequest := fits_ofText hline
  have hid : Fits 979 (identifier request) := by
    unfold identifier memberOf
    cases hlookup : request.lookup ("id" : Text) with
    | none => exact .null
    | some w =>
      obtain ⟨before, after, e, _⟩ := List.lookup_eq_some_iff.mp hlookup
      exact hrequest.of_mem (m := ("id", w)) (e ▸ List.mem_append_right before List.mem_cons_self)
  exact ofText_line (fits_of_handle hid h) hapart

end

/-! ## lines in turn -/

/-- is a line a request? -/
def isRequest (line : Text) : Bool := match Json.ofText line with
  | .ok (.object _) => true
  | _ => false

theorem isRequest_of_ofText {line : Text} {request : List (Text × Json)}
    (h : Json.ofText line = .ok (.object request)) : isRequest line = true := by
  rw [isRequest, h]

/-- does a line exceed what can be read? -/
def exceeds (line : Text) : Bool := match Json.ofText line with
  | .error (.beyond _) => true
  | _ => false

/-- the requests among the lines of a text -/
def requests (input : Text) : Text := (input.physicalLines.filter isRequest).flatten

section
variable {root : Option Path} {reply : Text → Action Unit} {request : List (Text × Json)} {line : Text}
  {lines : List Text} {answers : List Json} {s s' : Session}

/-- a line that is no request is logged at most, unless it exceeds a limit -/
theorem run_answerLine_skipped (hline : isRequest line = false) (s : Session) :
    (∃ l, Json.ofText line = .error (.beyond l) ∧ (answerLine root line).run s = (.error (.beyond l), s))
      ∨ (answerLine root line).run s = (.ok none, s)
      ∨ ∃ m, (answerLine root line).run s = (.ok none, s.record m) := by
  unfold answerLine
  cases line.allBlank with
  | true => exact .inr (.inl rfl)
  | false =>
    unfold isRequest at hline
    rw [if_neg Bool.false_ne_true]
    split
    · exact .inr (.inr ⟨_, rfl⟩)
    · exact .inl ⟨_, ‹_›, rfl⟩
    · rename_i e
      rw [e] at hline
      cases hline
    · exact .inr (.inr ⟨_, rfl⟩)

/-- every request is handled -/
theorem exists_run_handle (root : Option Path) (request : List (Text × Json)) (s : Session) :
    ∃ answer s', (handle root request).run s = (.ok answer, s') := by
  rcases hr : (perform root (method request) (parameters request)).run (received request s) with ⟨outcome, s'⟩
  rw [run_handle hr]
  rcases outcome with f | (_ | result)
  · obtain ⟨m, hm⟩ := exists_run_faultResponse (identifier request) (method request) f s'
    refine ⟨some (problemResponse (identifier request) (reportOf (method request) f)), s'.record m, ?_⟩
    rw [answered, Action.run_bind, hm]
    rfl
  · exact ⟨_, _, rfl⟩
  · exact ⟨_, _, rfl⟩

/-- lines that come in a session are served in turn: a line that is no request has no answer and changes no files but
those that are open for log messages, and each answer to a request is given before the next line is looked at -/
inductive Served (root : Option Path) (reply : Text → Action Unit) :
    Session → List Text → List Json → Session → Prop
  | done {s : Session} : Served root reply s [] [] s
  | skipped {line : Text} {lines : List Text} {answers : List Json} {s s₁ s' : Session}
    (hline : isRequest line = false) (hanswer : (answerLine root line).run s = (.ok none, s₁))
    (hfiles : Files.SameBut s.log.files s.files s₁.files) (h : Served root reply s₁ lines answers s') :
    Served root reply s (line :: lines) answers s'
  | silent {line : Text} {lines : List Text} {request : List (Text × Json)} {answers : List Json}
    {s s₁ s' : Session} (hline : Json.ofText line = .ok (.object request))
    (hanswer : (handle root request).run s = (.ok none, s₁)) (h : Served root reply s₁ lines answers s') :
    Served root reply s (line :: lines) answers s'
  | answered {line : Text} {lines : List Text} {request : List (Text × Json)} {v : Json} {answers : List Json}
    {s s₁ s₂ s' : Session} (hline : Json.ofText line = .ok (.object request))
    (hanswer : (handle root request).run s = (.ok (some v), s₁))
    (hreply : (reply (responseLine v)).run s₁ = (.ok (), s₂)) (h : Served root reply s₂ lines answers s') :
    Served root reply s (line :: lines) (v :: answers) s'

theorem run_serveLines_none {s₁ : Session} (h : (answerLine root line).run s = (.ok none, s₁)) (lines : List Text) :
    (serveLines root reply (line :: lines)).run s = (serveLines root reply lines).run s₁ := by
  rw [serveLines_cons, Action.run_bind, h]
  rfl

theorem run_serveLines_some {v : Json} {s₁ s₂ : Session} (h : (answerLine root line).run s = (.ok (some v), s₁))
    (hreply : (reply (responseLine v)).run s₁ = (.ok (), s₂)) (lines : List Text) :
    (serveLines root reply (line :: lines)).run s = (serveLines root reply lines).run s₂ := by
  rw [serveLines_cons, Action.run_bind, h]
  dsimp only [replied]
  rw [Action.run_bind, hreply]

theorem run_answerLine_request (hline : Json.ofText line = .ok (.object request)) (s : Session) :
    (answerLine root line).run s = (handle root request).run s :=
  run_answerLine (Json.not_allBlank_of_ofText hline) hline s

/-- serving lines is going through them in turn -/
theorem Served.run (h : Served root reply s lines answers s') : (serveLines root reply lines).run s = (.ok (), s') := by
  induction h with
  | done => rfl
  | skipped _ hanswer _ _ ih => rw [run_serveLines_none hanswer, ih]
  | silent hline hanswer _ ih => rw [run_serveLines_none ((run_answerLine_request hline _).trans hanswer), ih]
  | answered hline hanswer hreply _ ih =>
    rw [run_serveLines_some ((run_answerLine_request hline _).trans hanswer) hreply, ih]

/-- replies that are written end well and change nothing but what is on the terminal -/
def OnTerminal (reply : Text → Action Unit) : Prop :=
  ∀ t s, ∃ output errors, (reply t).run s = (.ok (), { s with output, errors })

theorem onTerminal_replyOnErrors : OnTerminal replyOnErrors := fun _ _ => ⟨_, _, rfl⟩

/-- lines that exceed no limit are served -/
theorem exists_served (root : Option Path) (hreply : OnTerminal reply) (hlimits : ∀ line ∈ lines, exceeds line = false)
    (s : Session) : ∃ answers s', Served root reply s lines answers s' := by
  induction lines generalizing s with
  | nil => exact ⟨[], s, .done⟩
  | cons line lines ih =>
    obtain ⟨hlimit, hlimits⟩ := List.forall_mem_cons.mp hlimits
    cases hline : isRequest line with
    | false =>
      rcases run_answerLine_skipped hline s with ⟨l, hl, _⟩ | h | ⟨m, h⟩
      · rw [exceeds, hl] at hlimit
        cases hlimit
      · obtain ⟨answers, s', hs⟩ := ih hlimits s
        exact ⟨answers, s', .skipped hline h (.refl _ _) hs⟩
      · obtain ⟨answers, s', hs⟩ := ih hlimits (s.record m)
        exact ⟨answers, s', .skipped hline h (s.sameBut_record m) hs⟩
    | true =>
      obtain ⟨request, hrequest⟩ : ∃ request, Json.ofText line = .ok (.object request) := by
        unfold isRequest at hline
        split at hline
        · exact ⟨_, ‹_›⟩
        · cases hline
      obtain ⟨answer, s₁, hanswer⟩ := exists_run_handle root request s
      cases answer with
      | none =>
        obtain ⟨answers, s', hs⟩ := ih hlimits s₁
        exact ⟨answers, s', .silent hrequest hanswer hs⟩
      | some v =>
        obtain ⟨output, errors, hr⟩ := hreply (responseLine v) s₁
        obtain ⟨answers, s', hs⟩ := ih hlimits { s₁ with output, errors }
        exact ⟨v :: answers, s', .answered hrequest hanswer hr hs⟩

/-- answers are read back -/
theorem Served.ofText_responseLine (h : Served root reply s lines answers s') :
    ∀ v ∈ answers, v.halvesApart = true → Json.ofText (responseLine v) = .ok v := by
  induction h with
  | done => exact List.forall_mem_nil _
  | skipped _ _ _ _ ih => exact ih
  | silent _ _ _ ih => exact ih
  | answered hline hanswer _ _ ih =>
    exact List.forall_mem_cons.mpr ⟨Service.ofText_responseLine hline hanswer, ih⟩

end

/-! ## lines that are left out -/

/-- the logs are the same, and go to files that are left out of account -/
def CommonLog (ls : List Location) (log log' : Log) : Prop := log = log' ∧ log.files ⊆ ls

theorem CommonLog.aside {ls : List Location} {log log' : Log} (h : CommonLog ls log log') : Log.Aside ls log log' :=
  ⟨h.2, h.1 ▸ h.2⟩

/-- a run that is asked for has nothing to do with files at some locations but that log messages go to them: they are
no settings files of it, and the log that it opens goes to no other files -/
structure SetApart (root : Option Path) (params : Json) (ls : List Location) (s : Session) : Prop where
  settings : ∀ base, directory params root = .ok base →
    ∀ path ∈ Settings.sources s.host (base.getD s.host.directory), ∀ l,
      s.files.locate s.host.here path = .ok l → l ∉ ls
  log : ((prepared root params).run s).2.log.files ⊆ ls

/-- this is so of all runs that are asked for by lines that come in a session -/
def AllSetApart (root : Option Path) (reply : Text → Action Unit) (ls : List Location) : List Text → Session → Prop
  | [], _ => True
  | line :: lines, s => (∀ request, Json.ofText line = .ok (.object request) → method request = .text "generate" →
      SetApart root (parameters request) ls (received request s))
    ∧ AllSetApart root reply ls lines ((serveLines root reply [line]).run s).2

section
variable {root : Option Path} {reply : Text → Action Unit} {request : List (Text × Json)} {params : Json}
  {h : Host} {ls : List Location} {s s' t : Session}

/-- the run that a request asks for, once it is known which settings it has -/
def preparedWith (params : Json) (base : Option Path) (settings : Except Fault Settings) : Action Run.Call := do
  let settings ← Action.lift settings
  Action.openLog settings.logging
  let document := (← Action.lift (params.lookup "dmmf")).getD .null
  let datamodel ← Action.liftProblem (Document.datamodel document)
  pure { datamodel, settings, base }

theorem run_prepared_of_ok {base : Option Path} {given : List (Text × Json)}
    (hdirectory : directory params root = .ok base) (hgiven : overrides params = .ok given) (s : Session) :
    (prepared root params).run s
      = (preparedWith params base (Settings.loadFrom s.host s.files (base.getD s.host.directory) given)).run s := by
  have hbind : (prepared root params).run s
      = (Settings.load (base.getD s.host.directory) given >>= fun settings =>
        preparedWith params base (.ok settings)).run s := by
    unfold prepared
    rw [hdirectory, hgiven]
    rfl
  rw [hbind, Action.run_bind, Settings.run_load]
  cases Settings.loadFrom s.host s.files (base.getD s.host.directory) given with
  | error f => rfl
  | ok settings => rfl

theorem blind_preparedWith (base : Option Path) (settings : Except Fault Settings) :
    Action.Blind h ls Eq (preparedWith params base settings) := by
  refine (Action.blind_lift _).bind fun settings => ?_
  refine Action.Blind.bind (fun _ _ hs => Action.run_openLog_alike hs settings.logging) fun _ => ?_
  refine (Action.blind_lift _).bind fun document => Action.Blind.bind (fun s s' hs => ?_) fun _ => Action.blind_pure _
  rw [Action.run_liftProblem, Action.run_liftProblem]
  exact ⟨rfl, hs⟩

/-- a request begins alike in sessions that are alike -/
theorem prepared_alike (hs : Session.Alike h ls Eq s t) (hapart : SetApart root params ls s) :
    ((prepared root params).run s).1 = ((prepared root params).run t).1
      ∧ Session.Alike h ls Eq ((prepared root params).run s).2 ((prepared root params).run t).2 := by
  cases hdirectory : directory params root with
  | error f =>
    have hrun (s : Session) : (prepared root params).run s = (.error f, s) := by
      unfold prepared
      rw [hdirectory]
      rfl
    rw [hrun, hrun]
    exact ⟨rfl, hs⟩
  | ok base => cases hgiven : overrides params with
    | error f =>
      have hrun (s : Session) : (prepared root params).run s = (.error f, s) := by
        unfold prepared
        rw [hdirectory, hgiven]
        rfl
      rw [hrun, hrun]
      exact ⟨rfl, hs⟩
    | ok given =>
      have hload := Settings.loadFrom_same (hapart.settings base hdirectory) hs.files given
      rw [run_prepared_of_ok hdirectory hgiven, run_prepared_of_ok hdirectory hgiven, hs.host', ← hs.host, hload]
      exact blind_preparedWith base _ s t (hs.host ▸ hs)

/-- and ends alike, if the formatter overlooks what is left out of account -/
theorem generate_alike (hh : h.Overlooks ls) (hs : Session.Alike h ls (CommonLog ls) s t)
    (hapart : SetApart root params ls s) : ((generate root params).run s).1 = ((generate root params).run t).1
      ∧ Session.Alike h ls (CommonLog ls) ((generate root params).run s).2 ((generate root params).run t).2 := by
  obtain ⟨hend, hs₁⟩ := prepared_alike (t := t) ⟨hs.host, hs.host', hs.log.1, hs.files⟩ hapart
  have hlog := hapart.log
  rw [generate_eq, Action.run_bind, Action.run_bind]
  generalize (prepared root params).run s = x at hend hs₁ hlog ⊢
  generalize (prepared root params).run t = y at hend hs₁ ⊢
  obtain ⟨r, s₁⟩ := x
  obtain ⟨r', t₁⟩ := y
  obtain rfl : r = r' := hend
  have hcommon : Session.Alike h ls (CommonLog ls) s₁ t₁ := ⟨hs₁.host, hs₁.host', ⟨hs₁.log, hlog⟩, hs₁.files⟩
  cases r with
  | error f => exact ⟨rfl, hcommon⟩
  | ok c =>
    have hP : ∀ log log', CommonLog ls log log' → Log.Aside ls log log' := fun _ _ => CommonLog.aside
    exact (Run.blind_generate hP hh c.datamodel c.settings c.base).bind (fun _ => Action.blind_pure ()) s₁ t₁ hcommon

/-- a request is handled alike in sessions that are alike -/
theorem handle_alike (hh : h.Overlooks ls) (hs : Session.Alike h ls (CommonLog ls) s t)
    (hapart : method request = .text "generate" → SetApart root (parameters request) ls (received request s)) :
    ((handle root request).run s).1 = ((handle root request).run t).1
      ∧ Session.Alike h ls (CommonLog ls) ((handle root request).run s).2 ((handle root request).run t).2 := by
  have hP : ∀ log log', CommonLog ls log log' → Log.Aside ls log log' := fun _ _ => CommonLog.aside
  have hreceived : Session.Alike h ls (CommonLog ls) (received request s) (received request t) := hs.record hP _ _
  by_cases hm : method request = .text "getManifest"
  · rw [run_handle_manifest hm, run_handle_manifest hm]
    exact ⟨rfl, hreceived⟩
  by_cases hg : method request = .text "generate"
  · obtain ⟨hend, hs₁⟩ := generate_alike hh hreceived (hapart hg)
    rcases hx : (generate root (parameters request)).run (received request s) with ⟨r, s₁⟩
    rcases hy : (generate root (parameters request)).run (received request t) with ⟨r', t₁⟩
    rw [hx, hy] at hend hs₁
    obtain rfl : r = r' := hend
    cases r with
    | error f =>
      obtain ⟨m, hm⟩ := run_handle_failed hg hx
      obtain ⟨m', hm'⟩ := run_handle_failed hg hy
      rw [hm, hm']
      exact ⟨rfl, hs₁.record hP m m'⟩
    | ok _ =>
      rw [run_handle_generate hg hx, run_handle_generate hg hy]
      exact ⟨rfl, hs₁⟩
  · rw [run_handle_unknown hm hg, run_handle_unknown hm hg]
    exact ⟨rfl, hreceived⟩

/-- the requests among some lines have the same answers without the other lines, and leave the same files but for those
that are left out of account -/
theorem Served.filter {lines : List Text} {answers : List Json} (hserved : Served root reply s lines answers s')
    (hreply : OnTerminal reply) (hh : h.Overlooks ls) (hs : Session.Alike h ls (CommonLog ls) s t)
    (hapart : AllSetApart root reply ls lines s) : ∃ t', Served root reply t (lines.filter isRequest) answers t'
      ∧ Session.Alike h ls (CommonLog ls) s' t' := by
  induction hserved generalizing t with
  | done => exact ⟨t, .done, hs⟩
  | @skipped line lines answers s s₁ s' hline hanswer hfiles _ ih =>
    obtain ⟨_, hrest⟩ := hapart
    rw [run_serveLines_none hanswer] at hrest
    have hs₁ : Session.Alike h ls (CommonLog ls) s₁ t := by
      rcases run_answerLine_skipped hline s with ⟨l, _, e⟩ | e | ⟨m, e⟩
      · rw [hanswer] at e
        cases e
      · rw [hanswer] at e
        obtain rfl := (Prod.mk.inj e).2
        exact hs
      · rw [hanswer] at e
        obtain rfl := (Prod.mk.inj e).2
        exact hs.record_left (fun _ _ => CommonLog.aside) m
    rw [List.filter_cons_of_neg (by rw [hline]; decide)]
    exact ih hs₁ hrest
  | @silent line lines request answers s s₁ s' hline hanswer _ ih =>
    obtain ⟨hrequest, hrest⟩ := hapart
    rw [run_serveLines_none ((run_answerLine_request hline s).trans hanswer)] at hrest
    obtain ⟨hend, hs₁⟩ := handle_alike hh hs (hrequest request hline)
    rw [hanswer] at hend hs₁
    have ht : (handle root request).run t = (.ok none, ((handle root request).run t).2) := Prod.ext hend.symm rfl
    obtain ⟨t', hserved, ht'⟩ := ih hs₁ hrest
    rw [List.filter_cons_of_pos (isRequest_of_ofText hline)]
    exact ⟨t', .silent hline ht hserved, ht'⟩
  | @answered line lines request v answers s s₁ s₂ s' hline hanswer hr _ ih =>
    obtain ⟨hrequest, hrest⟩ := hapart
    rw [run_serveLines_some ((run_answerLine_request hline s).trans hanswer) hr] at hrest
    obtain ⟨hend, hs₁⟩ := handle_alike hh hs (hrequest request hline)
    rw [hanswer] at hend hs₁
    obtain ⟨output, errors, e⟩ := hreply (responseLine v) s₁
    rw [hr] at e
    obtain rfl := (Prod.mk.inj e).2
    have ht : (handle root request).run t = (.ok (some v), ((handle root request).run t).2) := Prod.ext hend.symm rfl
    generalize ((handle root request).run t).2 = t₁ at hs₁ ht
    obtain ⟨output', errors', hr'⟩ := hreply (responseLine v) t₁
    have hs₂ : Session.Alike h ls (CommonLog ls) { s₁ with output, errors }
        { t₁ with output := output', errors := errors' } := ⟨hs₁.host, hs₁.host', hs₁.log, hs₁.files⟩
    obtain ⟨t', hserved, ht'⟩ := ih hs₂ hrest
    rw [List.filter_cons_of_pos (isRequest_of_ofText hline)]
    exact ⟨t', .answered hline ht hr' hserved, ht'⟩

end

/-- the lines of two texts, the first of which ends with its last line, are served one after the other -/
theorem serve_append {root : Option Path} {reply : Text → Action Unit} {first : Text}
    (h : first = [] ∨ first.getLast? = some '\n') (second : Text) :
    serve root reply (first ++ second) = serve root reply first >>= fun _ => serve root reply second := by
  rw [serve, Text.physicalLines_append h, serveLines_append]
  rfl

/-! ## serving a text -/

/-- what serving the text `input` in a session comes to -/
structure IsServed (root : Option Path) (reply : Text → Action Unit) (input : Text) (s : Session)
    (answers : List Json) (s' : Session) : Prop where
  ended : (serve root reply input).run s = (.ok (), s')
  /-- every line has its turn -/
  turns : Served root reply s input.physicalLines answers s'
  /-- an answer is one line of printable characters -/
  plain : ∀ v ∈ answers, ∃ t, responseLine v = t ++ ['\n'] ∧ Json.PlainAscii t
  /-- which is read as the answer -/
  readBack : ∀ v ∈ answers, v.halvesApart = true → Json.ofText (responseLine v) = .ok v
  /-- lines that are no requests may be left out -/
  filtered : ∀ ls, s.log.files ⊆ ls → s.host.Overlooks ls → AllSetApart root reply ls input.physicalLines s →
    ∃ s'', (serve root reply (requests input)).run s = (.ok (), s'')
      ∧ Served root reply s (requests input).physicalLines answers s'' ∧ Files.SameBut ls s'.files s''.files
  /-- a text that is cut between two lines is served one part after the other -/
  cut : ∀ first second, input = first ++ second → first = [] ∨ first.getLast? = some '\n' →
    serve root reply input = serve root reply first >>= fun _ => serve root reply second

/-- is a run that is asked for apart from the files at some locations? -/
def isSetApart (root : Option Path) (params : Json) (ls : List Location) (s : Session) : Bool :=
  (match directory params root with
    | .ok base => (Settings.sources s.host (base.getD s.host.directory)).all fun path =>
      match s.files.locate s.host.here path with
      | .ok l => !ls.contains l
      | .error _ => true
    | .error _ => true)
  && ((prepared root params).run s).2.log.files.all ls.contains

theorem setApart_of_isSetApart {root : Option Path} {params : Json} {ls : List Location} {s : Session}
    (h : isSetApart root params ls s = true) : SetApart root params ls s := by
  rw [isSetApart, Bool.and_eq_true, List.all_eq_true] at h
  constructor
  · intro base hbase path hpath l hl
    have hsources := h.1
    rw [hbase] at hsources
    have hlocated := List.all_eq_true.mp hsources path hpath
    rw [hl] at hlocated
    simpa using hlocated
  · intro l hl
    simpa using h.2 l hl

/-- are all runs that are asked for by lines? -/
def areSetApart (root : Option Path) (reply : Text → Action Unit) (ls : List Location) : List Text → Session → Bool
  | [], _ => true
  | line :: lines, s => (match Json.ofText line with
      | .ok (.object request) => isSetApart root (parameters request) ls (received request s)
      | _ => true)
    && areSetApart root reply ls lines ((serveLines root reply [line]).run s).2

theorem allSetApart_of_areSetApart {root : Option Path} {reply : Text → Action Unit} {ls : List Location}
    {lines : List Text} {s : Session} (h : areSetApart root reply ls lines s = true) :
    AllSetApart root reply ls lines s := by
  induction lines generalizing s with
  | nil => trivial
  | cons line lines ih =>
    rw [areSetApart, Bool.and_eq_true] at h
    refine ⟨fun request hrequest _ => setApart_of_isSetApart ?_, ih h.2⟩
    have hline := h.1
    rw [hrequest] at hline
    exact hline

/-- a session whose log is open to a file, after a request that has told it so -/
def Samples.session : Session where
  files := Files.plant ["messages"] (.file []) {}
  log := { routes := [{ sink := .file ["messages"], level := .warning }] }

/-- a request for a run between lines that are no requests -/
def Samples.input : Text := "not json\n\n\x7b\"id\": 1, \"method\": \"generate\"\x7d\n[1, 2]"

/-- the answers to lines that come in a session -/
def answersOf (root : Option Path) (reply : Text → Action Unit) : List Text → Session → List Json
  | [], _ => []
  | line :: lines, s => match (answerLine root line).run s with
    | (.ok (some v), s') => v :: answersOf root reply lines ((reply (responseLine v)).run s').2
    | (_, s') => answersOf root reply lines s'

theorem Served.answersOf_eq {root : Option Path} {reply : Text → Action Unit} {lines : List Text}
    {answers : List Json} {s s' : Session} (h : Served root reply s lines answers s') :
    answersOf root reply lines s = answers := by
  induction h with
  | done => rfl
  | skipped _ hanswer _ _ ih => rw [answersOf, hanswer, ← ih]
  | silent hline hanswer _ ih => rw [answersOf, run_answerLine_request hline, hanswer, ← ih]
  | answered hline hanswer hreply _ ih =>
    rw [answersOf, run_answerLine_request hline, hanswer, ← ih]
    dsimp only
    rw [hreply]

/-- the text at some place in an answer -/
def textAt? (place : List Text) (v : Json) : Option Text :=
  match place.foldl (fun v key => v.bind (Json.get? key)) (some v) with
  | some (.text t) => some t
  | _ => none

/-- where an answer names the problem -/
def problemPlace : List Text := ["error", "data", "error"]

/-- where it displays the value of a setting -/
def valuePlace : List Text := ["error", "data", "details", "value"]

/-- a session with a settings file -/
def Samples.withSettings (settings : Text) : Session where
  files := Files.plant [Settings.fileName] (.file settings.toBytes) {}

/-- a session whose log is open to the settings file that says so -/
def Samples.relogging : Session :=
  { withSettings "logging:\n  outputs:\n  - destination: /supatypes.yaml\n" with
    log := { routes := [{ sink := .file [Settings.fileName], level := .warning }] } }

/-- a session with a setting of two halves that stand together -/
def Samples.halved : Session := withSettings "logging:\n  level: \"\\ud83d\\ude00\"\n"

/-- a line that asks for a run -/
def Samples.asking : Text := "\x7b\"id\": 1, \"method\": \"generate\"\x7d\n"

/-- a line with more lists in each other than can be read -/
def Samples.nested : Text := List.replicate (Limit.depth + 1) '['

end DatabaseTypes.Service
