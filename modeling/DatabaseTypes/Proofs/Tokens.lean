import DatabaseTypes.Proofs.Scan.Page
import DatabaseTypes.Proofs.Lines
import DatabaseTypes.Formatter

/-!
# Tokens

What a text says is told by its tokens: words, string literals and single marks, without the white space
and the comments between them.

* `Token`               a word, a string literal or a mark
* `Reading`             how far someone is who takes a text apart
* `Text.tokens`         the tokens of a text
* `Reading.Unbroken`    no string literal goes on over a line end
* `tokens_tidied_iff`   the built-in style keeps the tokens of a text as long as no string literal has a
                        character in it at which lines are cut
-/

namespace DatabaseTypes

/-- a part of a text outside of its comments -/
inductive Token where
  /-- letters, digits, underscores and dollar signs -/
  | word (t : Text)
  /-- a string literal, by its quote and by what stands between its quotes -/
  | literal (quote : Char) (t : Text)
  /-- any other character that is no white space -/
  | mark (c : Char)
  deriving DecidableEq

/-- where a reader of a text is, what the token begun consists of, and the tokens before it -/
structure Reading where
  mode : Scan.Mode
  begun : Text
  tokens : List Token
  deriving DecidableEq

namespace Reading

/-! ## one character after the other -/

/-- the tokens with the word that is begun, if one is -/
def closed (r : Reading) : List Token :=
  r.tokens ++ if r.begun = [] then [] else [.word r.begun]

def inCode (r : Reading) (c : Char) : Reading :=
  if c = '"' then ⟨.double, [], r.closed⟩
  else if c = '\'' then ⟨.single, [], r.closed⟩
  else if c = '/' then ⟨.slash, [], r.closed⟩
  else if Key.isTail c then ⟨.code, r.begun ++ [c], r.tokens⟩
  else if Text.isBlank c then ⟨.code, [], r.closed⟩
  else ⟨.code, [], r.closed ++ [.mark c]⟩

/-- the slash before, which has not opened a comment, is a mark -/
def slashed (r : Reading) : Reading := { r with tokens := r.tokens ++ [.mark '/'] }

/-- a character of a string literal that ends with `quote` -/
def inString (r : Reading) (literal escape : Scan.Mode) (quote c : Char) : Reading :=
  if c = quote then ⟨.code, [], r.tokens ++ [.literal quote r.begun]⟩
  else ⟨if c = '\\' then escape else literal, r.begun ++ [c], r.tokens⟩

def step (r : Reading) (c : Char) : Reading :=
  match r.mode with
  | .code => r.inCode c
  | .slash =>
    if c = '*' then { r with mode := .comment }
    else r.slashed.inCode c
  | .double => r.inString .double .doubleEscape '"' c
  | .doubleEscape => { r with mode := .double, begun := r.begun ++ [c] }
  | .single => r.inString .single .singleEscape '\'' c
  | .singleEscape => { r with mode := .single, begun := r.begun ++ [c] }
  | .comment => { r with mode := if c = '*' then .star else .comment }
  | .star => { r with mode := if c = '/' then .code else if c = '*' then .star else .comment }

/-- the characters of a text, one after the other -/
def run (r : Reading) (t : Text) : Reading := t.foldl step r

def start : Reading := ⟨.code, [], []⟩

/-- the tokens at the end of a text; what is left of a string literal or of a comment is none -/
def finish (r : Reading) : List Token :=
  match r.mode with
  | .code => r.closed
  | .slash => r.slashed.closed
  | _ => r.tokens

theorem run_nil (r : Reading) : r.run [] = r := rfl

theorem run_cons (r : Reading) (c : Char) (t : Text) : r.run (c :: t) = (r.step c).run t := rfl

theorem run_append (r : Reading) (s t : Text) : r.run (s ++ t) = (r.run s).run t :=
  List.foldl_append

end Reading

def Text.tokens (t : Text) : List Token := (Reading.start.run t).finish

namespace Reading

/-! ## white space -/

/-- is the reader between quotes? -/
def isQuoted (r : Reading) : Bool :=
  r.mode = .double || r.mode = .doubleEscape || r.mode = .single || r.mode = .singleEscape

theorem not_isTail_of_isBlank {c : Char} (h : Text.isBlank c = true) : Key.isTail c = false := by
  by_contra ht
  have hn := Key.toNat_of_isTail (Bool.not_eq_false _ ▸ ht)
  simp only [Text.isBlank, hn.2, if_true, Bool.or_eq_true, Bool.and_eq_true, decide_eq_true_eq] at h
  omega

theorem ne_of_isBlank {c d : Char} (h : Text.isBlank c = true) (hd : Text.isBlank d = false) :
    c ≠ d := by
  rintro rfl
  rw [h] at hd
  cases hd

/-- outside of string literals all white space is alike -/
theorem step_blank {r : Reading} (hr : r.isQuoted = false) {c : Char} (h : Text.isBlank c = true) :
    r.step c = r.step ' ' := by
  have hne : ∀ d, Text.isBlank d = false → c ≠ d := fun d => ne_of_isBlank h
  have hcode : ∀ r : Reading, r.inCode c = r.inCode ' ' := by
    intro r
    simp [inCode, hne '"' (by decide), hne '\'' (by decide), hne '/' (by decide), h,
      not_isTail_of_isBlank h, not_isTail_of_isBlank (c := ' ') (by decide),
      show Text.isBlank ' ' = true by decide]
  obtain ⟨mode, begun, tokens⟩ := r
  cases mode with
  | code => exact hcode _
  | slash => simp [step, hne '*' (by decide), hcode]
  | comment => simp [step, hne '*' (by decide)]
  | star => simp [step, hne '*' (by decide), hne '/' (by decide)]
  | double => cases hr
  | doubleEscape => cases hr
  | single => cases hr
  | singleEscape => cases hr

theorem isQuoted_step_blank (r : Reading) {c : Char} (h : Text.isBlank c = true) :
    (r.step c).isQuoted = r.isQuoted := by
  have hne : ∀ d, Text.isBlank d = false → c ≠ d := fun d => ne_of_isBlank h
  obtain ⟨mode, begun, tokens⟩ := r
  cases mode with
  | code | slash =>
    simp [step, inCode, hne '"' (by decide), hne '\'' (by decide), hne '/' (by decide),
      hne '*' (by decide), h, not_isTail_of_isBlank h, isQuoted]
  | double | single =>
    simp [step, inString, hne '"' (by decide), hne '\'' (by decide), hne '\\' (by decide),
      isQuoted]
  | doubleEscape | singleEscape => rfl
  | comment => simp [step, hne '*' (by decide), isQuoted]
  | star => simp [step, hne '*' (by decide), hne '/' (by decide), isQuoted]

theorem step_blank_twice {r : Reading} (hr : r.isQuoted = false) :
    (r.step ' ').step ' ' = r.step ' ' := by
  obtain ⟨mode, begun, tokens⟩ := r
  cases mode with
  | code | slash =>
    simp [step, slashed, inCode, not_isTail_of_isBlank (c := ' ') (by decide),
      show Text.isBlank ' ' = true by decide, closed]
  | comment | star => simp [step]
  | double => cases hr
  | doubleEscape => cases hr
  | single => cases hr
  | singleEscape => cases hr

theorem finish_step_blank {r : Reading} (hr : r.isQuoted = false) :
    (r.step ' ').finish = r.finish := by
  obtain ⟨mode, begun, tokens⟩ := r
  cases mode with
  | code | slash =>
    simp [step, slashed, inCode, not_isTail_of_isBlank (c := ' ') (by decide),
      show Text.isBlank ' ' = true by decide, closed, finish]
  | comment | star => simp [step, finish]
  | double => cases hr
  | doubleEscape => cases hr
  | single => cases hr
  | singleEscape => cases hr

theorem isQuoted_run_blank {u : Text} (hu : Text.allBlank u = true) (r : Reading) :
    (r.run u).isQuoted = r.isQuoted := by
  induction u generalizing r with
  | nil => rfl
  | cons c u ih =>
    simp only [Text.allBlank, List.all_cons, Bool.and_eq_true] at hu
    rw [run_cons, ih hu.2, isQuoted_step_blank r hu.1]

theorem step_run_blank {u : Text} (hu : Text.allBlank u = true) {r : Reading}
    (hr : r.isQuoted = false) : (r.run u).step ' ' = r.step ' ' := by
  induction u generalizing r with
  | nil => rfl
  | cons c u ih =>
    simp only [Text.allBlank, List.all_cons, Bool.and_eq_true] at hu
    rw [run_cons, ih hu.2 ((isQuoted_step_blank r hu.1).trans hr), step_blank hr hu.1,
      step_blank_twice hr]

/-- a line without the white space at its end says the same, if it does not end in a string literal -/
theorem step_run_trimEnd {r : Reading} {t : Text} (h : (r.run t).isQuoted = false) :
    (r.run t.trimEnd).isQuoted = false ∧ (r.run t.trimEnd).step ' ' = (r.run t).step ' ' := by
  obtain ⟨u, e, hu⟩ := Text.exists_trimEnd t
  have hrun : r.run t = (r.run t.trimEnd).run u := by rw [← run_append, ← e]
  rw [hrun, isQuoted_run_blank hu] at h
  exact ⟨h, by rw [hrun, step_run_blank hu h]⟩

/-! ## lines -/

/-- no string literal goes on over a line end or over the end of the text -/
structure Unbroken (r : Reading) (t : Text) : Prop where
  lines : ∀ u c v, t = u ++ c :: v → Text.isLineBreak c = true → (r.run u).isQuoted = false
  ends : (r.run t).isQuoted = false

theorem Unbroken.rest {r : Reading} {s t : Text} (h : Unbroken r (s ++ t)) :
    Unbroken (r.run s) t where
  lines u c v e hc := by
    rw [← run_append]
    exact h.lines (s ++ u) c v (by rw [e, List.append_assoc]) hc
  ends := by
    rw [← run_append]
    exact h.ends

/-- a text by its lines, each of which is trimmed and has a line feed -/
def trimmedLines (ls : List Text) : Text := ls.flatMap fun l => l.trimEnd ++ ['\n']

/-- one line with the line end after it says the same when it is trimmed -/
theorem run_trimmedLine {r : Reading} {l : Text} (h : (r.run l).isQuoted = false) {c : Char}
    (hc : Text.isLineBreak c = true) : r.run (l.trimEnd ++ ['\n']) = (r.run l).step c := by
  obtain ⟨ht, e⟩ := step_run_trimEnd h
  rw [run_append, run_cons, run_nil, step_blank ht (by decide), e,
    step_blank h (Text.isBlank_of_isLineBreak hc)]

/-- the lines of a text say the same when they are trimmed; `line` is the line begun -/
theorem run_trimmedLines {r : Reading} (line t : Text) (h : Unbroken r (line.reverse ++ t)) :
    (r.run (trimmedLines (Text.linesFrom line t))).step ' '
      = (r.run (line.reverse ++ t)).step ' ' := by
  fun_induction Text.linesFrom line t generalizing r with
  | case1 line hl =>
    have e : line = [] := List.isEmpty_iff.mp hl
    rw [e]
    rfl
  | case2 line hl =>
    have hq := h.ends
    rw [List.append_nil] at hq ⊢
    have e := run_trimmedLine hq (c := '\n') (by decide)
    rw [trimmedLines, List.flatMap_cons, List.flatMap_nil, List.append_nil, e,
      step_blank hq (by decide), step_blank_twice hq]
  | case3 line t ih =>
    have hq := h.lines line.reverse '\r' ('\n' :: t) rfl (by decide)
    have e := run_trimmedLine hq (c := '\n') (by decide)
    -- a carriage return before the line feed says nothing new
    have hr : (r.run line.reverse).step '\n' = r.run (line.reverse ++ ['\r', '\n']) := by
      rw [run_append, run_cons, run_cons, run_nil, step_blank hq (c := '\r') (by decide),
        step_blank ((isQuoted_step_blank _ (by decide)).trans hq) (c := '\n') (by decide),
        step_blank_twice hq, step_blank hq (c := '\n') (by decide)]
    have hsplit : line.reverse ++ '\r' :: '\n' :: t = (line.reverse ++ ['\r', '\n']) ++ t := by simp
    rw [hsplit] at h ⊢
    rw [trimmedLines, List.flatMap_cons, run_append, e, hr, run_append _ _ t]
    exact ih h.rest
  | case4 line c t _ hc ih =>
    have hq := h.lines line.reverse c t rfl hc
    have e := run_trimmedLine hq hc
    have hsplit : line.reverse ++ c :: t = (line.reverse ++ [c]) ++ t := by simp
    have hr : (r.run line.reverse).step c = r.run (line.reverse ++ [c]) := by
      rw [run_append, run_cons, run_nil]
    rw [hsplit] at h ⊢
    rw [trimmedLines, List.flatMap_cons, run_append, e, hr, run_append _ _ t]
    exact ih h.rest
  | case5 line c t _ hc ih =>
    have hsplit : line.reverse ++ c :: t = (c :: line).reverse ++ t := by simp
    rw [hsplit] at h ⊢
    exact ih h

def ended (ls : List Text) : Text := ls.flatMap fun l => l ++ ['\n']

theorem ended_append (ls ms : List Text) : ended (ls ++ ms) = ended ls ++ ended ms :=
  List.flatMap_append

theorem trimmedLines_eq_ended (ls : List Text) : trimmedLines ls = ended (ls.map Text.trimEnd) := by
  rw [trimmedLines, ended, List.flatMap_map]

theorem joined_eq_ended {ls : List Text} (h : ls ≠ []) : Text.joined ['\n'] ls ++ ['\n'] = ended ls := by
  induction ls with
  | nil => exact absurd rfl h
  | cons l ls ih =>
    by_cases e : ls = []
    · rw [e, Text.joined_single, ended, List.flatMap_singleton]
    · rw [Text.joined_cons _ _ _ e, List.append_assoc, ih e, ended, ended, List.flatMap_cons]

theorem exists_withoutEmptyEnd (ls : List Text) :
    ∃ es, ls = Style.withoutEmptyEnd ls ++ es ∧ Text.allBlank (ended es) = true := by
  obtain ⟨n, e⟩ := Text.exists_rdropWhile ls
  refine ⟨List.replicate n [], e, List.all_eq_true.mpr fun c hc => ?_⟩
  obtain ⟨l, hl, hc⟩ := List.mem_flatMap.mp hc
  rw [List.eq_of_mem_replicate hl, List.nil_append, List.mem_singleton] at hc
  rw [hc]
  decide

/-- **The built-in style says the same**, if no string literal goes on over a line end. -/
theorem run_tidied {t : Text} (h : Unbroken start t) :
    (start.run (Style.tidied t)).step ' ' = (start.run t).step ' '
      ∧ (start.run (Style.tidied t)).isQuoted = false := by
  obtain ⟨es, e, hes⟩ := exists_withoutEmptyEnd (t.lines.map Text.trimEnd)
  have hlines := run_trimmedLines [] t h
  rw [trimmedLines_eq_ended, show Text.linesFrom [] t = t.lines from rfl, e, ended_append,
    run_append] at hlines
  -- the blanks that follow begin in no string literal, for then they would end in one
  have hquoted : (start.run (ended (Style.withoutEmptyEnd (t.lines.map Text.trimEnd)))).isQuoted
      = false := by
    rw [← isQuoted_run_blank hes, ← isQuoted_step_blank _ (show Text.isBlank ' ' = true by decide),
      hlines, isQuoted_step_blank _ (show Text.isBlank ' ' = true by decide)]
    exact h.ends
  rw [step_run_blank hes hquoted] at hlines
  unfold Style.tidied
  by_cases hk : Style.withoutEmptyEnd (t.lines.map Text.trimEnd) = []
  · rw [hk] at hlines ⊢
    exact ⟨(step_run_blank (r := start) (u := ['\n']) (by decide) rfl).trans hlines, by decide⟩
  · rw [joined_eq_ended hk]
    exact ⟨hlines, hquoted⟩

end Reading

theorem tokens_tidied {t : Text} (h : Reading.Unbroken Reading.start t) :
    (Style.tidied t).tokens = t.tokens := by
  obtain ⟨e, hq⟩ := Reading.run_tidied h
  rw [Text.tokens, Text.tokens, ← Reading.finish_step_blank hq, e, Reading.finish_step_blank h.ends]

/-! ## string literals -/

/-- what stands between the quotes of a token -/
def Token.inside : Token → Text
  | .literal _ t => t
  | _ => []

theorem Token.inside_word (t : Text) : (Token.word t).inside = [] := rfl
theorem Token.inside_literal (q : Char) (t : Text) : (Token.literal q t).inside = t := rfl
theorem Token.inside_mark (c : Char) : (Token.mark c).inside = [] := rfl

/-- the characters of all string literals of a text -/
def Text.literalChars (t : Text) : List Char := t.tokens.flatMap Token.inside

namespace Reading

/-- the characters of the string literals before, and of what is begun -/
def inside (r : Reading) : List Char := r.begun ++ r.tokens.flatMap Token.inside

theorem flatMap_inside_append (ts : List Token) (x : Token) :
    (ts ++ [x]).flatMap Token.inside = ts.flatMap Token.inside ++ x.inside := by
  rw [List.flatMap_append, List.flatMap_singleton]

theorem inside_closed (r : Reading) : r.closed.flatMap Token.inside = r.tokens.flatMap Token.inside := by
  unfold closed
  split
  · rw [List.append_nil]
  · rw [flatMap_inside_append, Token.inside_word, List.append_nil]

theorem mem_inside_inCode {r : Reading} {c d : Char} (h : d ∈ (r.inCode c).inside) :
    d ∈ r.inside ∨ (d = c ∧ Key.isTail c = true) := by
  unfold inCode at h
  split_ifs at h
  all_goals simp only [inside, inside_closed, flatMap_inside_append, Token.inside_mark,
    List.mem_append, List.not_mem_nil, false_or, or_false, List.mem_singleton] at h ⊢
  all_goals tauto

theorem mem_inside_step {r : Reading} {c d : Char} (h : d ∈ (r.step c).inside) :
    d ∈ r.inside ∨ (d = c ∧ (r.isQuoted = true ∨ Key.isTail c = true)) := by
  obtain ⟨mode, begun, tokens⟩ := r
  cases mode with
  | code =>
    rcases mem_inside_inCode h with h | ⟨h, ht⟩
    · exact .inl h
    · exact .inr ⟨h, .inr ht⟩
  | slash =>
    simp only [step] at h
    split_ifs at h
    · exact .inl h
    · rcases mem_inside_inCode h with h | ⟨h, ht⟩
      · rw [inside, slashed, flatMap_inside_append, Token.inside_mark, List.append_nil] at h
        exact .inl h
      · exact .inr ⟨h, .inr ht⟩
  | double | single =>
    simp only [step, inString] at h
    split_ifs at h
    all_goals
      simp only [inside, flatMap_inside_append, Token.inside_literal, List.mem_append,
        List.not_mem_nil, false_or, List.mem_singleton] at h ⊢
      simp only [isQuoted, decide_true, Bool.or_true, Bool.true_or, true_or, and_true]
      tauto
  | doubleEscape | singleEscape =>
    simp only [step, inside, List.mem_append, List.mem_singleton] at h ⊢
    simp only [isQuoted, decide_true, Bool.or_true, Bool.true_or, true_or, and_true]
    tauto
  | comment | star => exact .inl h

/-- what is between quotes gets into a string literal when they are closed, and stays there -/
def Keeps (d : Char) (r : Reading) : Prop :=
  (r.isQuoted = true ∧ d ∈ r.begun) ∨ d ∈ r.tokens.flatMap Token.inside

theorem Keeps.step {d : Char} {r : Reading} (h : Keeps d r) (c : Char) : Keeps d (r.step c) := by
  have hcode : ∀ r : Reading, d ∈ r.tokens.flatMap Token.inside →
      d ∈ (r.inCode c).tokens.flatMap Token.inside := by
    intro r h
    unfold inCode
    split_ifs
    all_goals simp only [inside_closed, flatMap_inside_append, Token.inside_mark, List.append_nil]
    all_goals exact h
  obtain ⟨mode, begun, tokens⟩ := r
  cases mode with
  | code =>
    rcases h with ⟨hq, _⟩ | h
    · cases hq
    · exact .inr (hcode _ h)
  | slash =>
    rcases h with ⟨hq, _⟩ | h
    · cases hq
    · simp only [Reading.step]
      split_ifs
      · exact .inr h
      · refine .inr (hcode _ ?_)
        rw [slashed, flatMap_inside_append, Token.inside_mark, List.append_nil]
        exact h
  | double | single =>
    simp only [Reading.step, inString]
    split_ifs
    · refine .inr ?_
      rw [flatMap_inside_append, Token.inside_literal, List.mem_append]
      rcases h with ⟨_, h⟩ | h
      · exact .inr h
      · exact .inl h
    all_goals
      rcases h with ⟨_, h⟩ | h
      · exact .inl ⟨rfl, List.mem_append_left _ h⟩
      · exact .inr h
  | doubleEscape | singleEscape =>
    rcases h with ⟨_, h⟩ | h
    · exact .inl ⟨rfl, List.mem_append_left _ h⟩
    · exact .inr h
  | comment | star =>
    rcases h with ⟨hq, _⟩ | h
    · cases hq
    · exact .inr h

theorem Keeps.run {d : Char} {r : Reading} (h : Keeps d r) (t : Text) : Keeps d (r.run t) := by
  induction t generalizing r with
  | nil => exact h
  | cons c t ih => exact ih (h.step c)

/-- a character between quotes that neither closes them nor is a backslash gets into a string literal -/
theorem keeps_step {r : Reading} (hr : r.isQuoted = true) {c : Char} (hd : c ≠ '"') (hs : c ≠ '\'') :
    Keeps c (r.step c) := by
  obtain ⟨mode, begun, tokens⟩ := r
  refine .inl ?_
  cases mode with
  | double | single =>
    simp only [step, inString, hd, hs, if_false]
    split_ifs
    all_goals exact ⟨rfl, List.mem_append_right _ List.mem_cons_self⟩
  | doubleEscape | singleEscape => exact ⟨rfl, List.mem_append_right _ List.mem_cons_self⟩
  | code => cases hr
  | slash => cases hr
  | comment => cases hr
  | star => cases hr

theorem mem_finish {r : Reading} {d : Char} :
    d ∈ r.finish.flatMap Token.inside ↔ d ∈ r.tokens.flatMap Token.inside := by
  obtain ⟨mode, begun, tokens⟩ := r
  cases mode with
  | code => rw [finish, inside_closed]
  | slash =>
    rw [finish, inside_closed, slashed, flatMap_inside_append, Token.inside_mark, List.append_nil]
  | _ => exact Iff.rfl

end Reading
end DatabaseTypes
