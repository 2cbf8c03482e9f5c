import DatabaseTypes.Proofs.Scan.Page

/-!
# Taking comments out

Documentation only adds comments: the output with documentation, without the comments that open with
two stars, is the output without documentation.

* `Removal`             how far someone is who takes these comments out of a text
* `Removal.run`         a text, and what is written for it
* `Text.uncommented`    a text without these comments, the spaces before them and the line ends after them
* `Commented.run`       a text with comments becomes the text without them
* `uncommented_generateTypes`   the same of the output
-/

namespace DatabaseTypes

open Scan (isPlain closing? Unending)

/-- what someone who takes comments out is in -/
inductive Removal.Mode where
  | code
  /-- after a slash in code -/
  | slash
  /-- after a slash and a star in code, where it is not yet known whether the comment stays -/
  | opening
  | quoted (quote : Char)
  /-- after a backslash between quotes -/
  | escape (quote : Char)
  /-- a comment, which may stay or not -/
  | comment (stays : Bool)
  /-- after a star in a comment -/
  | star (stays : Bool)
  /-- after the end of a comment that is taken out -/
  | closed
  deriving DecidableEq

/-- what someone who takes comments out is in, and what is not written yet because it goes if a comment
goes that opens there -/
structure Removal where
  mode : Removal.Mode
  held : Text
  deriving DecidableEq

namespace Removal

/-! ## one character after the other -/

def inCode (held : Text) (c : Char) : Removal × Text :=
  if c = ' ' then (⟨.code, held ++ [c]⟩, [])
  else if c = '/' then (⟨.slash, held ++ [c]⟩, [])
  else (⟨if c = '"' ∨ c = '\'' then .quoted c else .code, []⟩, held ++ [c])

def step (r : Removal) (c : Char) : Removal × Text :=
  match r.mode with
  | .code => inCode r.held c
  | .slash =>
    if c = '*' then (⟨.opening, r.held ++ [c]⟩, [])
    else ((inCode [] c).1, r.held ++ (inCode [] c).2)
  | .opening =>
    if c = '*' then (⟨.star false, []⟩, []) else (⟨.comment true, []⟩, r.held ++ [c])
  | .quoted q => (⟨if c = q then .code else if c = '\\' then .escape q else .quoted q, []⟩, [c])
  | .escape q => (⟨.quoted q, []⟩, [c])
  | .comment stays =>
    (⟨if c = '*' then .star stays else .comment stays, []⟩, if stays then [c] else [])
  | .star stays =>
    (⟨if c = '/' then (if stays then .code else .closed)
      else if c = '*' then .star stays else .comment stays, []⟩, if stays then [c] else [])
  | .closed => if c = '\n' then (⟨.code, []⟩, []) else inCode [] c

/-- the characters of a text, one after the other, and what is written for them -/
def run (r : Removal) : Text → Removal × Text
  | [] => (r, [])
  | c :: t => (((r.step c).1.run t).1, (r.step c).2 ++ ((r.step c).1.run t).2)

def start : Removal := ⟨.code, []⟩

theorem run_nil (r : Removal) : r.run [] = (r, []) := rfl

theorem run_single {r r' : Removal} {c : Char} {u : Text} (h : r.step c = (r', u)) :
    r.run [c] = (r', u) := by
  rw [run, h, run_nil, List.append_nil]

theorem run_append {r r' r'' : Removal} {s t u v : Text} (hs : r.run s = (r', u))
    (ht : r'.run t = (r'', v)) : r.run (s ++ t) = (r'', u ++ v) := by
  induction s generalizing r u with
  | nil =>
    cases hs
    exact ht
  | cons c s ih =>
    rw [run] at hs
    cases hs
    rw [List.cons_append, run, ih rfl, List.append_assoc]

theorem run_cons {r r' r'' : Removal} {c : Char} {t u v : Text} (hc : r.step c = (r', u))
    (ht : r'.run t = (r'', v)) : r.run (c :: t) = (r'', u ++ v) :=
  run_append (run_single hc) ht

end Removal

/-- a text without the comments that open with two stars, the spaces before each of them and the line
end after it -/
def Text.uncommented (t : Text) : Text := (Removal.start.run t).2 ++ (Removal.start.run t).1.held

namespace Removal

/-! ## texts that stay -/

/-- read in code, the text is written as it is, after whatever is held back -/
def Stays (t : Text) : Prop := ∀ held, run ⟨.code, held⟩ t = (⟨.code, []⟩, held ++ t)

theorem stays_single {c : Char} (hs : c ≠ ' ') (hl : c ≠ '/') (hd : c ≠ '"') (hq : c ≠ '\'') :
    Stays [c] := by
  intro held
  refine run_single ?_
  simp [step, inCode, hs, hl, hd, hq]

theorem stays_bracket {c d : Char} (h : closing? c = some d) : Stays [c] ∧ Stays [d] := by
  unfold closing? at h
  split at h
  · rename_i e; cases h; subst e
    exact ⟨stays_single (by decide) (by decide) (by decide) (by decide),
      stays_single (by decide) (by decide) (by decide) (by decide)⟩
  split at h
  · rename_i e; cases h; subst e
    exact ⟨stays_single (by decide) (by decide) (by decide) (by decide),
      stays_single (by decide) (by decide) (by decide) (by decide)⟩
  split at h
  · rename_i e; cases h; subst e
    exact ⟨stays_single (by decide) (by decide) (by decide) (by decide),
      stays_single (by decide) (by decide) (by decide) (by decide)⟩
  · cases h

/-- a text between quotes that does not end there -/
def Within (q : Char) (t : Text) : Prop := run ⟨.quoted q, []⟩ t = (⟨.quoted q, []⟩, t)

theorem Within.append {q : Char} {t u : Text} (ht : Within q t) (hu : Within q u) :
    Within q (t ++ u) := run_append ht hu

theorem within_single {q c : Char} (hq : c ≠ q) (hb : c ≠ '\\') : Within q [c] := by
  refine run_single ?_
  simp [step, hq, hb]

theorem within_escape {q : Char} (hq : '\\' ≠ q) (c : Char) : Within q ['\\', c] := by
  have hescape : step ⟨.quoted q, []⟩ '\\' = (⟨.escape q, []⟩, ['\\']) := by simp [step, hq]
  exact run_cons hescape (run_single rfl)

theorem within_of_forall {q : Char} {t : Text} (h : ∀ c ∈ t, c ≠ q ∧ c ≠ '\\') : Within q t := by
  induction t with
  | nil => exact run_nil _
  | cons c t ih =>
    obtain ⟨hq, hb⟩ := h c List.mem_cons_self
    exact (within_single hq hb).append (ih fun d hd => h d (List.mem_cons_of_mem _ hd))

theorem Within.stays {q : Char} (hq : q = '"' ∨ q = '\'') {t : Text} (h : Within q t) :
    Stays (q :: t ++ [q]) := by
  intro held
  have hopen : step ⟨.code, held⟩ q = (⟨.quoted q, []⟩, held ++ [q]) := by
    rcases hq with rfl | rfl <;> simp [step, inCode]
  have hclose : step ⟨.quoted q, []⟩ q = (⟨.code, []⟩, [q]) := by simp [step]
  have hrun := run_cons hopen (run_append h (run_single hclose))
  simpa using hrun

theorem within_literalChar (c : Char) : Within '"' (Json.literalChar false c) := by
  rcases Json.literalChar_eq c with ⟨d, _, e⟩ | ⟨_, e⟩ | ⟨_, hq, hb, e⟩ <;> rw [e]
  · exact within_escape (by decide) d
  · have hdigits : Within '"' (Text.hexadecimal 4 c.toNat) := by
      refine within_of_forall fun d hd => ?_
      have hall : ∀ m < 16, Nat.digitChar m ≠ '"' ∧ Nat.digitChar m ≠ '\\' := by decide
      obtain ⟨m, rfl⟩ := Text.exists_of_mem_hexadecimal hd
      exact hall (m % 16) (Nat.mod_lt m (by decide))
    exact (within_escape (by decide) 'u').append hdigits
  · exact within_single hq hb

theorem stays_literal (t : Text) : Stays (Json.literal false t) := by
  refine Within.stays (.inl rfl) ?_
  induction t with
  | nil => exact run_nil _
  | cons c t ih => exact (within_literalChar c).append ih

theorem stays_quoted {name : Text} (h : Key.isIdentifier name = true) :
    Stays ('\'' :: name ++ ['\'']) := by
  refine Within.stays (.inr rfl) (within_of_forall fun c hc => ?_)
  obtain ⟨_, hq, hb⟩ := isTail_ne (Key.isTail_of_mem h c hc)
  exact ⟨hq, hb⟩

/-! ## comments -/

/-- what is written for a text in a comment -/
def shown (stays : Bool) (t : Text) : Text := if stays then t else []

theorem shown_append (stays : Bool) (t u : Text) :
    shown stays (t ++ u) = shown stays t ++ shown stays u := by
  cases stays <;> rfl

/-- a comment goes on through a text in which none ends, whether it stays or not -/
theorem run_unending (stays : Bool) {t : Text} (h : Unending t) {mode : Mode}
    (hm : mode = .comment stays ∨ mode = .star stays)
    (hs : mode = .star stays → ∀ c ∈ t.head?, c ≠ '/') :
    ∃ mode', (mode' = .comment stays ∨ mode' = .star stays)
      ∧ run ⟨mode, []⟩ t = (⟨mode', []⟩, shown stays t) := by
  induction t generalizing mode with
  | nil => exact ⟨mode, hm, by cases stays <;> rfl⟩
  | cons c t ih =>
    -- the mode after `c` tells whether `c` is a star, and after a star no slash follows
    have hstep : step ⟨mode, []⟩ c
        = (⟨if c = '*' then .star stays else .comment stays, []⟩, shown stays [c]) := by
      rcases hm with rfl | rfl
      · rfl
      · have hc : c ≠ '/' := hs rfl c rfl
        simp [step, hc, shown]
    have htail : Unending t := List.IsChain.tail h
    have hhead : c = '*' → ∀ d ∈ t.head?, d ≠ '/' := by
      intro hc d hd hslash
      cases t with
      | nil => cases hd
      | cons e t =>
        cases hd
        exact (List.isChain_cons_cons.mp h).1 ⟨hc, hslash⟩
    by_cases hc : c = '*'
    · rw [if_pos hc] at hstep
      obtain ⟨mode', hm', hr⟩ := ih htail (.inr rfl) fun _ => hhead hc
      refine ⟨mode', hm', (run_cons hstep hr).trans ?_⟩
      rw [← shown_append, List.singleton_append]
    · rw [if_neg hc] at hstep
      obtain ⟨mode', hm', hr⟩ := ih htail (.inl rfl) fun e => by cases e
      refine ⟨mode', hm', (run_cons hstep hr).trans ?_⟩
      rw [← shown_append, List.singleton_append]

theorem run_ending (stays : Bool) {mode : Mode} (hm : mode = .comment stays ∨ mode = .star stays) :
    run ⟨mode, []⟩ ['*', '/']
      = (⟨if stays then .code else .closed, []⟩, shown stays ['*', '/']) := by
  rcases hm with rfl | rfl <;> cases stays <;> rfl

theorem stays_note {body : Text} (h : Unending (' ' :: body)) :
    Stays ('/' :: '*' :: (' ' :: body) ++ ['*', '/']) := by
  intro held
  obtain ⟨mode, hm, hr⟩ := run_unending true (List.IsChain.tail h) (.inl rfl) fun e => by cases e
  have hopen : run ⟨.code, held⟩ ['/', '*', ' '] = (⟨.comment true, []⟩, held ++ ['/', '*', ' ']) := by
    simp [run, step, inCode]
  have hrun := run_append hopen (run_append hr (run_ending true hm))
  simpa [shown] using hrun

theorem run_spaces (held : Text) (n : Nat) :
    run ⟨.code, held⟩ (Text.spaces n) = (⟨.code, held ++ Text.spaces n⟩, []) := by
  induction n generalizing held with
  | zero => rw [Text.spaces, List.replicate_zero, run_nil, List.append_nil]
  | succ n ih =>
    have hc : step ⟨.code, held⟩ ' ' = (⟨.code, held ++ [' ']⟩, []) := by simp [step, inCode]
    have hr := run_cons hc (ih (held ++ [' ']))
    simpa [Text.spaces, List.replicate_succ] using hr

/-- a comment on lines of its own that opens with two stars goes, with its indentation and its line
end -/
theorem run_remark (n : Nat) {body : Text} (h : Unending ('*' :: body)) :
    start.run (Text.spaces n ++ ('/' :: '*' :: ('*' :: body) ++ ['*', '/'] ++ ['\n']))
      = (start, []) := by
  have hhead : ∀ c ∈ body.head?, c ≠ '/' := by
    intro c hc hslash
    cases body with
    | nil => cases hc
    | cons d body =>
      cases hc
      exact (List.isChain_cons_cons.mp h).1 ⟨rfl, hslash⟩
  obtain ⟨mode, hm, hr⟩ := run_unending false (List.IsChain.tail h) (.inr rfl) fun _ => hhead
  have hopen : run ⟨.code, Text.spaces n⟩ ['/', '*', '*'] = (⟨.star false, []⟩, []) := by
    simp [run, step, inCode]
  have hline : run ⟨.closed, []⟩ ['\n'] = (start, []) := rfl
  have hrun := run_append (run_spaces [] n)
    (run_append hopen (run_append hr (run_append (run_ending false hm) hline)))
  simpa [shown, start] using hrun

end Removal

/-! ## texts with comments -/

/-- what a text with comments becomes, as far as it is written, and what is held back then; on a new line
nothing is -/
theorem Commented.run {b b' : Bool} {s s' : Text} (h : Commented b s s' b') {n : Nat}
    (hn : b = true → n = 0) :
    ∃ m u, Removal.run ⟨.code, Text.spaces n⟩ s = (⟨.code, Text.spaces m⟩, u)
      ∧ u ++ Text.spaces m = Text.spaces n ++ s' ∧ (b' = true → m = 0) := by
  have hstays : ∀ {t : Text} {n : Nat} {b : Bool}, Removal.Stays t →
      ∃ m u, Removal.run ⟨.code, Text.spaces n⟩ t = (⟨.code, Text.spaces m⟩, u)
        ∧ u ++ Text.spaces m = Text.spaces n ++ t ∧ (b = true → m = 0) :=
    fun ht => ⟨0, _, ht _, List.append_nil _, fun _ => rfl⟩
  induction h generalizing n with
  | nil b => exact ⟨n, [], rfl, by simp, hn⟩
  | append _ _ ihs iht =>
    obtain ⟨m₁, u₁, h₁, e₁, hm₁⟩ := ihs hn
    obtain ⟨m₂, u₂, h₂, e₂, hm₂⟩ := iht hm₁
    refine ⟨m₂, u₁ ++ u₂, Removal.run_append h₁ h₂, ?_, hm₂⟩
    rw [List.append_assoc, e₂, ← List.append_assoc, e₁, List.append_assoc]
  | @plain b c h =>
    -- a space is held back, for it goes if a comment comes after it
    by_cases hc : c = ' '
    · subst hc
      refine ⟨n + 1, [], ?_, ?_, fun e => by cases e⟩
      · have hr := Removal.run_spaces (Text.spaces n) 1
        rwa [Text.spaces, Text.spaces, List.replicate_append_replicate] at hr
      · simp [Text.spaces, List.replicate_succ']
    · simp only [isPlain, Bool.and_eq_true, bne_iff_ne, ne_eq] at h
      obtain ⟨⟨⟨⟨hd, hq⟩, hl⟩, _⟩, _⟩ := h
      exact hstays (Removal.stays_single hc hl hd hq)
  | literal b t => exact hstays (Removal.stays_literal t)
  | quoted b h => exact hstays (Removal.stays_quoted h)
  | @enclosed b b' c d s s' h _ ih =>
    obtain ⟨hc, hd⟩ := Removal.stays_bracket h
    obtain ⟨m, u, hr, e, _⟩ := ih (n := 0) fun e => by cases e
    refine ⟨0, Text.spaces n ++ [c] ++ (u ++ (Text.spaces m ++ [d])), ?_, ?_, fun _ => rfl⟩
    · rw [List.cons_append, ← List.singleton_append]
      exact Removal.run_append (hc _) (Removal.run_append hr (hd _))
    · rw [← List.append_assoc u, e]
      simp [Text.spaces]
  | note b h => exact hstays (Removal.stays_note h)
  | remark k h =>
    -- it begins on a new line, where nothing is held back
    rw [hn rfl]
    exact ⟨0, [], Removal.run_remark k h, rfl, fun _ => rfl⟩

namespace Removal

/-- what begins on a line of its own becomes the same without comments; nothing is held back -/
def Clears (s s' : Text) : Prop := start.run s = (start, s')

theorem Stays.clears {t : Text} (h : Stays t) : Clears t t := h []

theorem Clears.append {s s' t t' : Text} (hs : Clears s s') (ht : Clears t t') :
    Clears (s ++ t) (s' ++ t') := run_append hs ht

theorem Clears.uncommented {s s' : Text} (h : Clears s s') : s.uncommented = s' := by
  rw [Text.uncommented, h]
  exact List.append_nil s'

theorem clears_joined {sep : Text} (hsep : Clears sep sep) {ts : List Text}
    (h : ∀ t ∈ ts, Clears t t) : Clears (Text.joined sep ts) (Text.joined sep ts) := by
  induction ts with
  | nil => exact run_nil _
  | cons t ts ih =>
    have ht := h t List.mem_cons_self
    have hts := ih fun u hu => h u (List.mem_cons_of_mem _ hu)
    by_cases e : ts = []
    · rw [e, Text.joined_single]; exact ht
    · rw [Text.joined_cons sep t ts e]
      exact (ht.append hsep).append hts

theorem stays_line : Stays ['\n'] :=
  stays_single (by decide) (by decide) (by decide) (by decide)

theorem clears_of_woven {s s' : Text} (h : Woven s s') : Clears (s ++ ['\n']) (s' ++ ['\n']) := by
  obtain ⟨b, h⟩ := h
  obtain ⟨m, u, hr, e, _⟩ := h.run (n := 0) fun _ => rfl
  have hline := run_append hr (stays_line (Text.spaces m))
  rwa [← List.append_assoc, e] at hline

end Removal

/-! ## the output -/

namespace Accessors

open Removal (Clears)

theorem clears_jsonAlias : Clears jsonAlias jsonAlias := by
  unfold jsonAlias
  repeat rw [String.toList_ofList]
  unfold Clears
  decide +kernel

/-- the declarations that give the parts of the database their names have no comments -/
theorem clears_declarations : ∀ ls ∈ [publicSchema, tables, tablesInsert, tablesUpdate, enums,
    compositeTypes], Clears (Text.joined "\n" ls) (Text.joined "\n" ls) := by
  intro ls h
  unfold Clears
  simp only [List.mem_cons, List.not_mem_nil, or_false] at h
  rcases h with rfl | rfl | rfl | rfl | rfl | rfl
  all_goals
    simp only [publicSchema, tables, tablesInsert, tablesUpdate, enums, compositeTypes]
    repeat rw [String.toList_ofList]
    decide +kernel

theorem clears_text : Clears text text := by
  have hline := Removal.stays_line.clears
  refine (Removal.clears_joined (hline.append hline) fun t ht => ?_).append hline
  obtain ⟨ls, hls, rfl⟩ := List.mem_map.mp ht
  exact clears_declarations ls hls

end Accessors

theorem Emission.clears_frame {block block' : Layout} (h : Woven block.text block'.text) :
    Removal.Clears (Emission.frame [block]).text (Emission.frame [block']).text := by
  have hline := Removal.stays_line.clears
  have hbraces := Removal.clears_of_woven
    (h.block (c := '\x7b') rfl (bare_constant (l := "export type Database = ".toList) rfl) bare_nil)
  have hclears := ((hline.append Accessors.clears_jsonAlias).append (hline.append hline)).append
    (((hbraces.append (hline.append hline)).append Accessors.clears_text).append hline)
  rw [Emission.text_frame, Emission.text_frame]
  simpa using hclears

/-- **Documentation only adds comments.** The output with documentation becomes the output without it
when the comments that open with two stars are taken out. -/
theorem uncommented_generateTypes {datamodel : Json} {s : Schema}
    (hs : Schema.ofJson datamodel = .ok s) (hn : s.isWellNamed = true) :
    (generateTypes datamodel true).map Text.uncommented = generateTypes datamodel false := by
  rw [generateTypes, generateTypes, hs]
  show (Emission.text {} [s]).map Text.uncommented = Emission.text (Emission.silent {}) [s]
  rw [Emission.text_singleton, Emission.text_singleton]
  cases ho : s.outline with
  | error f => rfl
  | ok o =>
    have hblock := Emission.woven_block {} plain_standard ((Schema.keyed_ofJson hs).outline ho)
      (Schema.wellNamed_outline ho hn)
    exact congrArg Except.ok (Emission.clears_frame hblock).uncommented

/-- a model with comments of every form, and with names and documentation that look like comments -/
def Json.remarked : Json :=
  .object
    [("models", .list [.object
      [("name", "a /** b */"), ("documentation", .list ["/* x", .null, "*/ \" y"]),
       ("fields", .list
        [.object [("name", "e"), ("kind", "enum"), ("type", "E"), ("documentation", "one\n\ntwo"),
          ("isRequired", .bool false)]])]]),
     ("enums", .list [.object
      [("name", "E\""), ("documentation", ""),
       ("values", .list [.object [("name", "/** c"), ("documentation", "*/ d")]])]]),
     ("types", .list [.object
      [("name", "T"), ("fields", .list
        [.object [("name", "m"), ("kind", "scalar"), ("type", "Int"), ("documentation", "/**/")]])]])]

theorem uncommented_generateTypes_remarked : ∃ t, generateTypes .remarked true = .ok t
    ∧ generateTypes .remarked false = .ok t.uncommented := by
  have h : ∃ t, generateTypes .remarked true = .ok t := ⟨_, rfl⟩
  have hs : ∃ s, Schema.ofJson .remarked = .ok s ∧ s.isWellNamed = true := ⟨_, rfl, rfl⟩
  obtain ⟨t, ht⟩ := h
  obtain ⟨s, hs, hn⟩ := hs
  have hu := uncommented_generateTypes hs hn
  rw [ht] at hu
  exact ⟨t, ht, hu.symm⟩

end DatabaseTypes
