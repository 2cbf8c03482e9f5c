import DatabaseTypes.Proofs.Action
import DatabaseTypes.Proofs.Style
import DatabaseTypes.Proofs.Tokens

/-!
# Tokens of the output

When a formatter gives nothing of use, the output gets the built-in style.  Its tokens stay the same exactly
if no string literal has a character at which lines are cut, which is one of those that are written as they
are: next line, and the line and paragraph separators of Unicode.

* `Reading.run_mode`              someone who takes a text apart is where someone who scans it is
* `Scan.tokens_tidied_iff`        when the built-in style keeps the tokens of a text
* `Formatter.Useless`             the ways in which a formatter gives nothing of use
* `tokens_formatted_iff`          the output of a model, formatted
* `formatted_breaks_literals`     a model whose output says something else when it is formatted
-/

namespace DatabaseTypes

namespace Reading

/-! ## scanning and reading -/

/-- between quotes the scan stops at a line end -/
theorem not_isLineEnd_of_step {s s' : Scan} {r : Reading} (hm : r.mode = s.mode) {c : Char}
    (h : s.step c = some s') (hq : r.isQuoted = true) : Scan.isLineEnd c = false := by
  obtain ⟨mode, begun, tokens⟩ := r
  obtain ⟨_, pending⟩ := s
  cases hm
  cases mode with
  | double | single =>
    simp only [Scan.step, Scan.inString] at h
    split at h
    · cases h
    · exact Bool.not_eq_true _ ▸ ‹_›
  | doubleEscape | singleEscape =>
    simp only [Scan.step, Scan.afterBackslash] at h
    split at h
    · cases h
    · exact Bool.not_eq_true _ ▸ ‹_›
  | code | slash | comment | star => cases hq

theorem inCode_mode {pending : List Char} {s : Scan} {c : Char}
    (h : Scan.inCode pending c = some s) (r : Reading) : (r.inCode c).mode = s.mode := by
  unfold Scan.inCode at h
  unfold inCode
  grind

theorem step_mode {s s' : Scan} {r : Reading} (hm : r.mode = s.mode) {c : Char}
    (h : s.step c = some s') : (r.step c).mode = s'.mode := by
  obtain ⟨mode, begun, tokens⟩ := r
  obtain ⟨_, pending⟩ := s
  cases hm
  cases mode with
  | code => exact inCode_mode h _
  | slash =>
    simp only [Scan.step] at h
    simp only [step]
    split at h
    · cases h
      rw [if_pos ‹_›]
    · rw [if_neg ‹_›]
      exact inCode_mode h _
  | double | single =>
    simp only [Scan.step, Scan.inString] at h
    simp only [step, inString]
    grind
  | doubleEscape | singleEscape =>
    simp only [Scan.step, Scan.afterBackslash] at h
    simp only [step]
    grind
  | comment | star =>
    cases h
    rfl

theorem run_mode {s s' : Scan} {r : Reading} (hm : r.mode = s.mode) {t : Text}
    (h : s.run t = some s') : (r.run t).mode = s'.mode := by
  induction t generalizing s r with
  | nil =>
    cases h
    exact hm
  | cons c t ih =>
    rw [Scan.run] at h
    cases hs : s.step c with
    | none =>
      rw [hs] at h
      cases h
    | some s₁ =>
      rw [hs] at h
      exact ih (step_mode hm hs) h

/-- no string literal of a text that can be scanned has a line end in it -/
theorem not_isLineEnd_of_run {s s' : Scan} {r : Reading} (hm : r.mode = s.mode) {t : Text}
    (h : s.run t = some s') (hr : ∀ d ∈ r.inside, Scan.isLineEnd d = false) :
    ∀ d ∈ (r.run t).inside, Scan.isLineEnd d = false := by
  induction t generalizing s r with
  | nil => exact hr
  | cons c t ih =>
    rw [Scan.run] at h
    cases hs : s.step c with
    | none =>
      rw [hs] at h
      cases h
    | some s₁ =>
      rw [hs] at h
      -- a character gets inside between quotes, where the scan lets no line end pass, or in a word
      refine ih (step_mode hm hs) h fun d hd => ?_
      rcases mem_inside_step hd with hd | ⟨rfl, hq | ht⟩
      · exact hr d hd
      · exact not_isLineEnd_of_step hm hs hq
      · rw [Scan.isLineEnd, Bool.or_eq_false_iff, decide_eq_false_iff_not, decide_eq_false_iff_not]
        constructor
        all_goals
          rintro rfl
          cases ht

theorem mem_of_mem_inside_run {r : Reading} {t : Text} {d : Char} (h : d ∈ (r.run t).inside) :
    d ∈ r.inside ∨ d ∈ t := by
  induction t generalizing r with
  | nil => exact .inl h
  | cons c t ih =>
    rcases ih h with h | h
    · rcases mem_inside_step h with h | ⟨rfl, _⟩
      · exact .inl h
      · exact .inr List.mem_cons_self
    · exact .inr (List.mem_cons_of_mem _ h)

theorem mem_inside_of_mem_literalChars {t : Text} {d : Char} (h : d ∈ t.literalChars) :
    d ∈ (start.run t).inside :=
  List.mem_append_right _ (mem_finish.mp h)

theorem mem_of_mem_literalChars {t : Text} {d : Char} (h : d ∈ t.literalChars) : d ∈ t := by
  rcases mem_of_mem_inside_run (mem_inside_of_mem_literalChars h) with h | h
  · cases h
  · exact h

/-! ## string literals over several lines -/

theorem isQuoted_of_run {t : Text} (h : Scan.run Scan.start t = some Scan.start) :
    (start.run t).isQuoted = false := by
  have hmode : (start.run t).mode = .code := run_mode (s := Scan.start) rfl h
  rw [isQuoted, hmode]
  rfl

/-- a character between quotes is one of a string literal, which ends before the text does -/
theorem mem_literalChars {u v : Text} {c : Char}
    (h : Scan.run Scan.start (u ++ c :: v) = some Scan.start) (hq : (start.run u).isQuoted = true)
    (hd : c ≠ '"') (hs : c ≠ '\'') : c ∈ Text.literalChars (u ++ c :: v) := by
  have hkeeps : Keeps c (start.run (u ++ c :: v)) := by
    rw [run_append, run_cons]
    exact (keeps_step hq hd hs).run v
  rcases hkeeps with ⟨hquoted, _⟩ | hmem
  · rw [isQuoted_of_run h] at hquoted
    cases hquoted
  · exact mem_finish.mpr hmem

/-- a text that can be scanned has no string literal over several lines if no character of its string
literals ends a line -/
theorem unbroken_of_run {t : Text} (h : Scan.run Scan.start t = some Scan.start)
    (hb : ∀ c ∈ t.literalChars, Text.isLineBreak c = false) : Unbroken start t where
  lines := by
    rintro u c v rfl hc
    by_contra hq
    have hne : ∀ d, Text.isLineBreak d = false → c ≠ d := by
      rintro d hd rfl
      rw [hc] at hd
      cases hd
    have hmem := mem_literalChars h (Bool.not_eq_false _ ▸ hq) (hne '"' (by decide))
      (hne '\'' (by decide))
    rw [hb c hmem] at hc
    cases hc
  ends := isQuoted_of_run h

end Reading

/-! ## the tokens that the built-in style keeps -/

/-- **What the built-in style keeps.** It keeps the tokens of a text that can be scanned to its end exactly
if no string literal has a character at which lines are cut. -/
theorem Scan.tokens_tidied_iff {t : Text} (h : Scan.run Scan.start t = some Scan.start) :
    (Style.tidied t).tokens = t.tokens ↔ ∀ c ∈ t.literalChars, Text.isLineBreak c = false := by
  constructor
  · intro e c hc
    by_contra hb
    have hline : Scan.isLineEnd c = false :=
      Reading.not_isLineEnd_of_run (s := Scan.start) rfl h (fun d hd => by cases hd) c
        (Reading.mem_inside_of_mem_literalChars hc)
    have hmem : c ∈ (Style.tidied t).literalChars := by
      rw [Text.literalChars, e]
      exact hc
    -- the built-in style leaves no such character but line feeds, which the text has in no string literal
    have heq := (Style.isTidy_tidied t).breaks c (Reading.mem_of_mem_literalChars hmem) (Bool.not_eq_false _ ▸ hb)
    rw [heq] at hline
    cases hline
  · intro hb
    exact tokens_tidied (Reading.unbroken_of_run h hb)

/-! ## formatting -/

namespace Formatter

/-- a run of a formatter that gives nothing of use: the program did not begin, was stopped, did not end with
success, or wrote nothing but white space -/
inductive Useless : ProgramResult → Prop where
  | notStarted (f : SystemFault) : Useless (.notStarted f)
  | timedOut : Useless .timedOut
  | killed (signal : Nat) (output errors : Bytes) : Useless (.killed signal output errors)
  | failed {status : Nat} (h : status ≠ 0) (output errors : Bytes) :
      Useless (.finished status output errors)
  | blank {output : Bytes} {text : Text} (h : decoded output = .ok text) (hb : text.allBlank = true)
      (status : Nat) (errors : Bytes) : Useless (.finished status output errors)

theorem ended_failed {command : List Text} {output errors : Bytes} {how : Text}
    {x : Except Failure Text} (h : ended command output errors (some how) = .ok x) :
    ∃ failure, x = .error failure := by
  rw [ended, Outcome.bind_eq_ok_iff] at h
  obtain ⟨text, _, h⟩ := h
  rw [Outcome.bind_eq_ok_iff] at h
  obtain ⟨said, _, h⟩ := h
  cases h
  exact ⟨_, rfl⟩

theorem ended_written {command : List Text} {output errors : Bytes} {trouble : Option Text}
    {text : Text} (h : ended command output errors trouble = .ok (.ok text)) :
    decoded output = .ok text := by
  rw [ended, Outcome.bind_eq_ok_iff] at h
  obtain ⟨text', ht, h⟩ := h
  rw [Outcome.bind_eq_ok_iff] at h
  obtain ⟨said, _, h⟩ := h
  cases trouble with
  | none =>
    cases h
    exact ht
  | some how => cases h

theorem Useless.allBlank {r : ProgramResult} (hr : Useless r) {command : List Text}
    {timeout : Binary64} {text : Text} (h : result command timeout r = .ok (.ok text)) :
    text.allBlank = true := by
  cases hr with
  | notStarted f => cases h
  | timedOut => cases h
  | killed signal output errors =>
    obtain ⟨failure, hf⟩ := ended_failed (x := .ok text) h
    cases hf
  | failed hs output errors =>
    rw [result, if_neg hs] at h
    obtain ⟨failure, hf⟩ := ended_failed h
    cases hf
  | blank hd hb status errors =>
    cases (ended_written h).symm.trans hd
    exact hb

/-- the built-in style is taken when the formatter gives nothing of use -/
theorem leads_formatted {f : FormatterSettings} {t : Text} {σ : Session} (hf : f.enabled = true)
    (hr : Useless (σ.host.run σ.files f.command t.toBytes f.timeout).1) :
    (formatted f t).Leads σ (fun u _ => u = Style.tidied t) fun _ _ => True := by
  have hfail : ∀ (fault : Fault) (next : Unit → Action Text) (s : Session),
      (Action.fail fault >>= next).Leads s (fun u _ => u = Style.tidied t) fun _ _ => True :=
    fun fault next s => Action.leads_bind.mpr (Action.leads_fail.mpr trivial)
  unfold formatted
  simp only [hf, Bool.not_true, Bool.false_eq_true, if_false]
  split
  · exact hfail _ _ _
  · rw [Action.leads_bind, Action.leads_session]
    split
    · exact hfail _ _ _
    · rw [Action.leads_bind, Action.leads_modify, Action.leads_bind]
      refine Action.leads_lift (fun x hx => ?_) fun _ _ => trivial
      cases x with
      | error failure =>
        rw [Action.leads_bind, Action.leads_log]
        exact Action.leads_pure.mpr rfl
      | ok text =>
        simp only [hr.allBlank hx, if_true]
        rw [Action.leads_bind, Action.leads_log]
        exact Action.leads_pure.mpr rfl

end Formatter

theorem closed_generateTypes {datamodel : Json} {documentation : Bool} {t : Text} {s : Schema}
    (h : generateTypes datamodel documentation = .ok t) (hs : Schema.ofJson datamodel = .ok s)
    (hn : s.isWellNamed = true) : Scan.Closed t := by
  obtain ⟨s', o, hs', ho, rfl⟩ := generateTypes_eq_ok_iff.mp h
  cases hs.symm.trans hs'
  obtain ⟨_, hw⟩ := Emission.woven_block { documentation } plain_standard
    ((Schema.keyed_ofJson hs).outline ho) (Schema.wellNamed_outline ho hn)
  exact Emission.closed_frame hw.closed

/-- **What formatting keeps.** When the formatter gives nothing of use, the tokens of the output stay the same
exactly if no string literal of it has a character at which lines are cut. -/
theorem tokens_formatted_iff {datamodel : Json} {documentation : Bool} {t u : Text} {s : Schema}
    {f : FormatterSettings} {σ σ' : Session} (h : generateTypes datamodel documentation = .ok t)
    (hs : Schema.ofJson datamodel = .ok s) (hn : s.isWellNamed = true) (hf : f.enabled = true)
    (hr : Formatter.Useless (σ.host.run σ.files f.command t.toBytes f.timeout).1)
    (hu : (Formatter.formatted f t).run σ = (.ok u, σ')) :
    u.tokens = t.tokens ↔ ∀ c ∈ t.literalChars, Text.isLineBreak c = false := by
  have e : u = Style.tidied t :=
    (Action.leads_iff.mp (Formatter.leads_formatted hf hr)).1 u (congrArg Prod.fst hu)
  rw [e]
  exact Scan.tokens_tidied_iff (closed_generateTypes h hs hn [])

/-- a model of one table -/
def Json.tableNamed (name : Text) : Json :=
  .object [("models", .list [.object [("name", .text name)]])]

theorem tokens_formatted_lineFeed : ∃ t u, generateTypes (.tableNamed "a\nb") false = .ok t
    ∧ ((Formatter.formatted { enabled := true } t).run {}).1 = .ok u
    ∧ (u.tokens = t.tokens ↔ ∀ c ∈ t.literalChars, Text.isLineBreak c = false) := by
  have h : ∃ t, generateTypes (.tableNamed "a\nb") false = .ok t := ⟨_, rfl⟩
  have hs : ∃ s, Schema.ofJson (.tableNamed "a\nb") = .ok s ∧ s.isWellNamed = true := ⟨_, rfl, rfl⟩
  obtain ⟨t, ht⟩ := h
  obtain ⟨s, hs, hn⟩ := hs
  have hu : ∃ σ', (Formatter.formatted { enabled := true } t).run {} = (.ok (Style.tidied t), σ') :=
    ⟨_, rfl⟩
  obtain ⟨σ', hu⟩ := hu
  exact ⟨t, _, ht, by rw [hu], tokens_formatted_iff ht hs hn rfl (.notStarted _) hu⟩

/-- a name with a line separator in it is cut in two -/
theorem formatted_breaks_literals : ∃ (f : FormatterSettings) (σ σ' : Session) (s : Schema) (t u : Text),
    generateTypes (.tableNamed "a\u2028b") true = .ok t
    ∧ Schema.ofJson (.tableNamed "a\u2028b") = .ok s ∧ s.isWellNamed = true ∧ f.enabled = true
    ∧ Formatter.Useless (σ.host.run σ.files f.command t.toBytes f.timeout).1
    ∧ (Formatter.formatted f t).run σ = (.ok u, σ') ∧ u.tokens ≠ t.tokens := by
  -- the name stands in the output from its 160th character on
  have h : ∃ t, generateTypes (.tableNamed "a\u2028b") true = .ok t
      ∧ (Reading.start.run (t.take 160)).isQuoted = true ∧ t[160]? = some '\u2028' :=
    ⟨_, rfl, by decide +kernel⟩
  have hs : ∃ s, Schema.ofJson (.tableNamed "a\u2028b") = .ok s ∧ s.isWellNamed = true := ⟨_, rfl, rfl⟩
  obtain ⟨t, ht, hq, hc⟩ := h
  obtain ⟨s, hs, hn⟩ := hs
  have hscan := closed_generateTypes ht hs hn []
  refine ⟨{ enabled := true }, {}, _, s, t, _, ht, hs, hn, rfl, .notStarted _, rfl, fun e => ?_⟩
  have hsplit : t.take 160 ++ '\u2028' :: t.drop 161 = t := by
    obtain ⟨hlt, hget⟩ := List.getElem?_eq_some_iff.mp hc
    rw [← hget, List.getElem_cons_drop, List.take_append_drop]
  have hmem : '\u2028' ∈ t.literalChars := by
    rw [← hsplit] at hscan ⊢
    exact Reading.mem_literalChars hscan hq (by decide) (by decide)
  have := (Scan.tokens_tidied_iff hscan).mp e _ hmem
  cases this

end DatabaseTypes
