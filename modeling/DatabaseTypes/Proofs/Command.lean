import DatabaseTypes.Proofs.Agreement
import DatabaseTypes.Proofs.Markup
import DatabaseTypes.Proofs.Numeral
import DatabaseTypes.Proofs.Run.Faults
import DatabaseTypes.Proofs.Still

/-!
# What the command says

The command tells how a run has ended in a line of markup.  The line can be shown if no bracket stands in the path
that the output goes to.

* `Session.Said`          what was said to the user since
* `Problem.tagless_message`, `CommandLine.Generate.tagless_summary`   the lines without tags
* `CommandLine.Generate.Ends`      how the command ends after a run
* `CommandLine.Generate.perform_ends`   it always ends so
-/

namespace DatabaseTypes

/-! ## texts without brackets -/

/-- a text without an opening bracket -/
def Bracketless (t : Text) : Prop := '[' ∉ t

instance (t : Text) : Decidable (Bracketless t) := inferInstanceAs (Decidable ('[' ∉ t))

namespace Bracketless

theorem append {t u : Text} (ht : Bracketless t) (hu : Bracketless u) : Bracketless (t ++ u) :=
  fun h => (List.mem_append.mp h).elim ht hu

theorem of_numeral {t : Text} (h : Numeral t) : Bracketless t := fun hm => absurd (h _ hm) (by decide)

theorem codeEscape (c : Char) : Bracketless (Text.codeEscape c) := by
  have hdigit : ∀ m < 16, Nat.digitChar m ≠ '[' := by decide
  have hhexadecimal (n code : Nat) : Bracketless (Text.hexadecimal n code) := by
    intro h
    obtain ⟨m, hm⟩ := Text.exists_of_mem_hexadecimal h
    exact hdigit _ (Nat.mod_lt m (by decide)) hm.symm
  have hescape {c : Char} (hc : c ≠ '[') : Bracketless ['\\', c] := by
    intro h
    simp only [List.mem_cons, List.not_mem_nil, or_false] at h
    exact h.elim (by decide) fun e => hc e.symm
  unfold Text.codeEscape
  dsimp only
  split
  · exact (hescape (by decide)).append (hhexadecimal 2 _)
  split
  · exact (hescape (by decide)).append (hhexadecimal 4 _)
  · exact (hescape (by decide)).append (hhexadecimal 8 _)

theorem quoted {t : Text} (h : Bracketless t) : Bracketless t.quoted := by
  have hquote : Text.quote t ≠ '[' := by
    unfold Text.quote
    split <;> decide
  have hchar : ∀ c ∈ t, Bracketless (Text.quotedChar (Text.quote t) c) := by
    intro c hc
    have hself : c ≠ '[' := fun e => h (e ▸ hc)
    unfold Text.quotedChar
    split_ifs
    · simp [Bracketless, hself.symm]
    · decide
    · decide
    · decide
    · simp [Bracketless, hself.symm]
    · exact codeEscape c
  intro hm
  unfold Text.quoted at hm
  simp only [List.cons_append, List.mem_cons, List.mem_append, List.mem_flatMap, List.not_mem_nil, or_false] at hm
  rcases hm with e | ⟨c, hc, hm⟩ | e
  · exact hquote e.symm
  · exact hchar c hc hm
  · exact hquote e.symm

theorem joined {sep : Text} (hsep : Bracketless sep) {ts : List Text} (h : ∀ t ∈ ts, Bracketless t) :
    Bracketless (Text.joined sep ts) := by
  cases ts with
  | nil => exact List.not_mem_nil
  | cons t ts =>
    rw [Text.joined_cons_eq_flatMap]
    refine (h t List.mem_cons_self).append fun hm => ?_
    obtain ⟨u, hu, hm⟩ := List.mem_flatMap.mp hm
    exact hsep.append (h u (List.mem_cons_of_mem _ hu)) hm

end Bracketless

/-- the text of a path has a bracket only from its parts -/
theorem Path.bracketless_text_iff {p : Path} : Bracketless p.text ↔ ∀ part ∈ p.parts, Bracketless part := by
  unfold Path.text
  split
  · rename_i h
    rw [h.2]
    exact ⟨fun _ => nofun, fun _ => by decide⟩
  · constructor
    · intro h part hpart hm
      refine h (List.mem_append_right _ ?_)
      cases hparts : p.parts with
      | nil =>
        rw [hparts] at hpart
        cases hpart
      | cons t ts =>
        rw [Text.joined_cons_eq_flatMap]
        rw [hparts] at hpart
        rcases List.mem_cons.mp hpart with rfl | hpart
        · exact List.mem_append_left _ hm
        · exact List.mem_append_right _ (List.mem_flatMap.mpr ⟨part, hpart, List.mem_append_right _ hm⟩)
    · intro h
      refine Bracketless.append (fun hm => ?_) (Bracketless.joined (by decide) h)
      exact absurd (List.eq_of_mem_replicate hm) (by decide)

/-! ## lines without tags -/

theorem SystemFault.tagless_message {f : SystemFault} (h : Bracketless f.path) : Markup.tagless f.message = true := by
  have hcause : Bracketless f.cause.message := by
    cases f.cause <;> decide
  have hrest : Bracketless ("Errno " ++ Text.ofNat f.cause.number ++ "] " ++ f.cause.message ++ ": " ++ f.path.quoted) :=
    (((Bracketless.append (t := "Errno ") (by decide) (.of_numeral (numeral_ofNat _))).append (by decide)).append
      hcause).append (by decide) |>.append h.quoted
  exact Markup.tagless_cons.mpr ⟨fun _ => rfl, Markup.tagless_of_not_mem hrest⟩

namespace Run

/-- the problems of a run are told without tags if the path that its output goes to has no bracket -/
theorem Faulted.tagless_message {c : Call} {host : Host} {p : Problem} (h : Faulted c host (.problem p))
    (hplace : ∀ path, c.place host = .ok path → Bracketless path.text) : Markup.tagless p.message = true := by
  cases h with
  | missing => exact Markup.tagless_of_not_mem (by decide)
  | @refused path q cause hresolved hslashes hparts =>
    have hpath := hplace path hresolved
    have hq : Bracketless q.text := Path.bracketless_text_iff.mpr fun part hpart =>
      Path.bracketless_text_iff.mp hpath part (hparts.subset hpart)
    have hopening : Bracketless ("Failed to write " ++ path.text ++ ": ") :=
      ((Bracketless.append (t := "Failed to write ") (by decide) hpath).append (by decide))
    exact Markup.tagless_append hopening (SystemFault.tagless_message hq)
  | broken hb => exact absurd rfl (hb.not_problem p)

/-- a run that ends well tells where its output went -/
theorem Call.place_of_run {c : Call} {s s' : Session} {r : Summary} (h : c.action.run s = (.ok r, s')) :
    c.place s.host = .ok r.destination := by
  obtain ⟨text, s₁, ⟨_, _, s₂, _, _, hdestination, _⟩, _⟩ := exists_writes h
  have hresolved : (destination c.output c.base).run s = (c.place s.host, s) := Action.run_lift _ s
  exact (Prod.mk.inj (hresolved.symm.trans hdestination)).1

end Run

theorem Duration.bracketless_text {d : Duration} {t : Text} (h : d.text? = .ok t) : Bracketless t := by
  have hminutes (m n : Nat) : Bracketless (minutesText m n) :=
    (((Bracketless.of_numeral (numeral_ofNat m)).append (by decide)).append (.of_numeral (numeral_ofNat n))).append
      (by decide)
  have hfixed (x : Binary64) : Bracketless (x.fixedText 1) := .of_numeral (numeral_fixedText 1 x)
  unfold Duration.text? at h
  split at h
  · split_ifs at h
    · cases h
      exact (Bracketless.of_numeral (numeral_ofInt _)).append (by decide)
    · cases h
      exact hminutes _ _
  · split at h
    · cases h
    · split at h
      · dsimp only at h
        split_ifs at h
        · cases h
          exact (hfixed _).append (by decide)
        · cases h
          exact hminutes _ _
      · cases h

namespace CommandLine

theorem Generate.tagless_summary {r : Run.Summary} (h : Bracketless r.destination.text) {elapsed : Duration} {t : Text}
    (ht : summary r elapsed = .ok t) : Markup.tagless t = true := by
  obtain ⟨e, he, ht⟩ := Outcome.bind_eq_ok_iff.mp ht
  cases ht
  have hcounted (n : Nat) {noun : Text} (hnoun : Bracketless noun) :
      Bracketless (Wording.counted (.int n) noun none) := by
    have hdisplay : Bracketless (Json.int n).display := .of_numeral (numeral_ofInt n)
    refine (hdisplay.append (by decide)).append ?_
    split
    · exact hnoun
    · exact hnoun.append (by decide)
  refine Markup.tagless_of_not_mem ?_
  refine ((((Bracketless.append (t := "Wrote ") (by decide) h).append (by decide)).append
    (Bracketless.joined (by decide) ?_))).append (by decide)
  simp only [List.forall_mem_cons, List.not_mem_nil, false_imp_iff, implies_true, and_true]
  exact ⟨hcounted _ (by decide), hcounted _ (by decide), hcounted _ (by decide), Duration.bracketless_text he⟩

end CommandLine

/-! ## what is said -/

namespace Session

/-- a text was said among the messages of the terminal since, and perhaps more after it -/
def Said (t : Text) (s s' : Session) : Prop := ∃ more, s'.errors = s.errors ++ t ++ more

theorem Said.trans {t u : Text} {s s₁ s' : Session} (h : Said t s s₁) (h' : Said u s₁ s') : Said t s s' := by
  obtain ⟨more, e⟩ := h
  obtain ⟨yet, e'⟩ := h'
  exact ⟨more ++ u ++ yet, by rw [e', e]; simp only [List.append_assoc]⟩

theorem said_emit (s : Session) (line : Text) (sink : Sink) : Said [] s (s.emit line sink) := by
  have hnothing (u : Session) (e : u.errors = s.errors) : Said [] s u :=
    ⟨[], by rw [e, List.append_nil, List.append_nil]⟩
  unfold emit
  split
  · exact ⟨(line ++ ['\n']).halvesSpelt, by rw [List.append_nil]; rfl⟩
  all_goals exact hnothing _ rfl

/-- a log message takes back nothing of what was said -/
theorem said_record (s : Session) (m : Message) : Said [] s (s.record m) :=
  record_induction (P := Said [] s) m ⟨[], by simp only [List.append_nil]⟩
    fun t line sink ht _ => ht.trans (said_emit t line sink)

end Session

theorem run_status_eq (message style : Text) (s : Session) : (Action.status message style).run s
    = match Markup.shown (Status.line message style 0) with
      | .ok shown => (.ok (), (s.complained (shown ++ ['\n'])).record
          { level := .debug, event := "status", fields := [("message", .text message), ("style", .text style)]
            logger := some "progress" })
      | .error f => (.error f, s) := by
  have hstatus : Action.status message style
      = Action.lift (Markup.shown (Status.line message style 0)) >>= fun shown =>
        modify (fun s : Session => s.complained (shown ++ ['\n'])) >>= fun _ =>
          Action.log .debug "status" [("message", .text message), ("style", .text style)] (some "progress") :=
    rfl
  rw [hstatus, Action.run_bind, Action.run_lift]
  generalize Markup.shown (Status.line message style 0) = x
  cases x <;> rfl

/-- a status line that can be shown is said -/
theorem run_status {message style shown : Text} (h : Markup.shown (Status.line message style 0) = .ok shown)
    (s : Session) : ∃ s', (Action.status message style).run s = (.ok (), s')
      ∧ Session.Said (shown ++ ['\n']).halvesSpelt s s' := by
  have hcomplained : Session.Said (shown ++ ['\n']).halvesSpelt s (s.complained (shown ++ ['\n'])) :=
    ⟨[], by rw [List.append_nil]; rfl⟩
  rw [run_status_eq, h]
  exact ⟨_, rfl, hcomplained.trans (Session.said_record _ _)⟩

namespace CommandLine.Generate

variable {a : Arguments} {verbose : Bool} {s s₁ s₂ : Session} {c : Run.Call}

theorem toldOf_problem (p : Problem) :
    toldOf (.error (.problem p)) = Action.status p.message "error" >>= fun _ => pure 1 := rfl

theorem toldOf_ok (r : Run.Summary) : toldOf (.ok r) = Action.host >>= fun host =>
    Action.lift (summary r host.elapsed) >>= fun t => Action.status t "success" >>= fun _ => pure 0 := rfl

/-- a problem is told, and the status is one -/
theorem run_toldOf_problem {p : Problem} {shown : Text}
    (h : Markup.shown (Status.line p.message "error" 0) = .ok shown) (s : Session) :
    ∃ s', (toldOf (.error (.problem p))).run s = (.ok 1, s')
      ∧ Session.Said (shown ++ ['\n']).halvesSpelt s s' := by
  obtain ⟨s', hs', hsaid⟩ := run_status h s
  refine ⟨s', ?_, hsaid⟩
  rw [toldOf_problem, Action.run_bind, hs']
  rfl

/-- nothing is told of a refusal by the system -/
theorem run_toldOf_refusal {f : Fault} (h : ∃ p, Files.Refusal p f) (s : Session) :
    (toldOf (.error f)).run s = (.error f, s) := by
  obtain ⟨p, h⟩ := h
  cases h <;> rfl

/-- what a run has done is told, and the status is zero -/
theorem run_toldOf_ok {r : Run.Summary} {t shown : Text} (ht : summary r s.host.elapsed = .ok t)
    (h : Markup.shown (Status.line t "success" 0) = .ok shown) :
    ∃ s', (toldOf (.ok r)).run s = (.ok 0, s') ∧ Session.Said (shown ++ ['\n']).halvesSpelt s s' := by
  obtain ⟨s', hs', hsaid⟩ := run_status h s
  refine ⟨s', ?_, hsaid⟩
  rw [toldOf_ok, Action.run_bind, Action.run_host]
  dsimp only
  rw [ht, Action.run_bind, Action.run_lift]
  dsimp only
  rw [Action.run_bind, hs']
  rfl

/-- how the command ends after a run: it tells what the run has done, or its problem, or it breaks as the run does -/
inductive Ends (c : Run.Call) (s : Session) : Except Fault Nat → Session → Prop
  | done {r : Run.Summary} {t shown : Text} {s₁ s' : Session} (hrun : c.action.run s = (.ok r, s₁))
    (ht : summary r s.host.elapsed = .ok t) (hshown : Markup.shown (Status.line t "success" 0) = .ok shown)
    (hsaid : Session.Said (shown ++ ['\n']).halvesSpelt s₁ s') : Ends c s (.ok 0) s'
  | failed {p : Problem} {shown : Text} {s₁ s' : Session} (hrun : c.action.run s = (.error (.problem p), s₁))
    (hshown : Markup.shown (Status.line p.message "error" 0) = .ok shown)
    (hsaid : Session.Said (shown ++ ['\n']).halvesSpelt s₁ s') : Ends c s (.ok 1) s'
  | broken {f : Fault} {s' : Session} (hrun : c.action.run s = (.error f, s')) (hbreak : Run.IsBreak f) :
    Ends c s (.error f) s'

/-- the command ends so if its output goes to a path without a bracket -/
theorem perform_ends (hprepared : (prepared a verbose).run s = (.ok c, s₁))
    (hplace : ∀ path, c.place s₁.host = .ok path → Bracketless path.text)
    (htime : ∃ t, s₁.host.elapsed.text? = .ok t) :
    Ends c s₁ ((perform a verbose).run s).1 ((perform a verbose).run s).2 := by
  have hperform : (perform a verbose).run s = (toldOf (c.action.run s₁).1).run (c.action.run s₁).2 := by
    rw [perform_eq, Action.run_bind, Action.run_outcome, generate_eq, Action.run_bind, hprepared]
  rw [hperform]
  have hhost := c.rests_action s₁
  have hfails := c.fails_action s₁
  rcases hrun : c.action.run s₁ with ⟨f | r, s₂⟩
  · rw [hrun] at hfails
    have hfaulted := hfails f rfl
    cases f with
    | problem p =>
      obtain ⟨shown, hshown⟩ := Markup.exists_shown (hfaulted.tagless_message hplace) (.inr rfl)
      obtain ⟨s', hs', hsaid⟩ := run_toldOf_problem hshown s₂
      rw [hs']
      exact .failed hrun hshown hsaid
    | _ =>
      cases hfaulted with
      | broken hbreak => exact .broken hrun hbreak
  · rw [hrun] at hhost
    have hdestination : c.place s₁.host = .ok r.destination := c.place_of_run hrun
    obtain ⟨e, he⟩ := htime
    obtain ⟨t, ht⟩ : ∃ t, summary r s₁.host.elapsed = .ok t := ⟨_, by rw [summary, he]; rfl⟩
    obtain ⟨shown, hshown⟩ := Markup.exists_shown (tagless_summary (hplace _ hdestination) ht) (.inl rfl)
    obtain ⟨s', hs', hsaid⟩ := run_toldOf_ok (s := s₂) (by rw [show s₂.host = s₁.host from hhost]; exact ht) hshown
    rw [hs']
    exact .done hrun ht hshown hsaid

end CommandLine.Generate
end DatabaseTypes
