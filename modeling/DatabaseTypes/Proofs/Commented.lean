import DatabaseTypes.Layout
import DatabaseTypes.Proofs.Named
import DatabaseTypes.Proofs.Numeral
import DatabaseTypes.Proofs.Scan

/-!
# Texts with comments

A text of the output is a text without comments into which comments are put, each on lines of its
own.  The relation is built from the few things that the output is made of, so that a property of
the whole output is a property of each of them.

* `Commented b s s' b'`   `s` is `s'` with comments; `b` and `b'` tell whether a line begins before
                          and after it
* `Commented.closed`      such a text is closed for the reader
* `Bare`                  a text without comments
* `Woven`                 a text that begins on a line of its own, and the same without comments
-/

namespace DatabaseTypes

open Scan (isPlain closing? Unending)

/-- a text with comments and the same text without them -/
inductive Commented : Bool → Text → Text → Bool → Prop where
  | nil (b : Bool) : Commented b [] [] b
  | append {b b₁ b₂ : Bool} {s s' t t' : Text} (hs : Commented b s s' b₁)
    (ht : Commented b₁ t t' b₂) : Commented b (s ++ t) (s' ++ t') b₂
  /-- a character that is no quote, no slash and no bracket -/
  | plain (b : Bool) {c : Char} (h : isPlain c = true) : Commented b [c] [c] (c == '\n')
  /-- a text in double quotes -/
  | literal (b : Bool) (t : Text) :
    Commented b (Json.literal false t) (Json.literal false t) false
  /-- an identifier in single quotes -/
  | quoted (b : Bool) {name : Text} (h : Key.isIdentifier name = true) :
    Commented b ('\'' :: name ++ ['\'']) ('\'' :: name ++ ['\'']) false
  /-- a text in brackets -/
  | enclosed (b : Bool) {b' : Bool} {c d : Char} {s s' : Text} (h : closing? c = some d)
    (hs : Commented false s s' b') : Commented b (c :: s ++ [d]) (c :: s' ++ [d]) false
  /-- a note that stays -/
  | note (b : Bool) {body : Text} (h : Unending (' ' :: body)) :
    Commented b ('/' :: '*' :: (' ' :: body) ++ ['*', '/'])
      ('/' :: '*' :: (' ' :: body) ++ ['*', '/']) false
  /-- a comment on lines of its own -/
  | remark (n : Nat) {body : Text} (h : Unending ('*' :: body)) :
    Commented true (Text.spaces n ++ ('/' :: '*' :: ('*' :: body) ++ ['*', '/'] ++ ['\n'])) [] true

/-! ## reading -/

theorem isTail_ne {c : Char} (h : Key.isTail c = true) :
    Scan.isLineEnd c = false ∧ c ≠ '\'' ∧ c ≠ '\\' := by
  refine ⟨?_, Key.ne_of_isTail h (by decide), Key.ne_of_isTail h (by decide)⟩
  rw [Scan.isLineEnd, Bool.or_eq_false_iff, decide_eq_false_iff_not, decide_eq_false_iff_not]
  exact ⟨Key.ne_of_isTail h (by decide), Key.ne_of_isTail h (by decide)⟩

theorem closed_spaces (n : Nat) : Scan.Closed (Text.spaces n) := by
  induction n with
  | zero => exact Scan.closed_nil
  | succ n ih => exact (Scan.closed_plain (c := ' ') rfl).append ih

/-- **With its comments a text ends in code, and whatever it opens it closes.** -/
theorem Commented.closed {b b' : Bool} {s s' : Text} (h : Commented b s s' b') :
    Scan.Closed s := by
  induction h with
  | nil b => exact Scan.closed_nil
  | append _ _ ihs iht => exact ihs.append iht
  | plain b h => exact Scan.closed_plain h
  | literal b t => exact Scan.closed_literal t
  | quoted b h => exact Scan.closed_quoted fun c hc => isTail_ne (Key.isTail_of_mem h c hc)
  | enclosed b h _ ih => exact Scan.closed_enclosed h ih
  | note b h => exact Scan.closed_comment h
  | remark n h =>
    exact (closed_spaces n).append ((Scan.closed_comment h).append (Scan.closed_plain rfl))

/-! ## plain texts -/

/-- a text of plain characters -/
def Plain (t : Text) : Prop := ∀ c ∈ t, isPlain c = true

theorem plain_single {c : Char} (h : isPlain c = true) : Plain [c] := by
  intro d hd
  rw [List.mem_singleton.mp hd]
  exact h

/-- a constant, given by its characters -/
theorem plain_constant {l : List Char} (h : l.all isPlain = true) :
    Plain (String.ofList l).toList := by
  rw [String.toList_ofList]
  exact List.all_eq_true.mp h

/-! ## texts without comments -/

/-- a text without comments, wherever it stands -/
def Bare (s : Text) : Prop := ∀ b, ∃ b', Commented b s s b'

theorem bare_nil : Bare [] := fun b => ⟨b, .nil b⟩

theorem Bare.append {s t : Text} (hs : Bare s) (ht : Bare t) : Bare (s ++ t) := by
  intro b
  obtain ⟨b₁, h₁⟩ := hs b
  obtain ⟨b₂, h₂⟩ := ht b₁
  exact ⟨b₂, h₁.append h₂⟩

theorem bare_of_plain {s : Text} (h : Plain s) : Bare s := by
  induction s with
  | nil => exact bare_nil
  | cons c s ih =>
    have hc : Bare [c] := fun b => ⟨_, .plain b (h c List.mem_cons_self)⟩
    exact hc.append (ih fun d hd => h d (List.mem_cons_of_mem _ hd))

theorem bare_constant {l : List Char} (h : l.all isPlain = true) :
    Bare (String.ofList l).toList := bare_of_plain (plain_constant h)

theorem bare_literal (t : Text) : Bare (Json.literal false t) := fun b => ⟨_, .literal b t⟩

theorem bare_quoted {name : Text} (h : Key.isIdentifier name = true) :
    Bare ('\'' :: name ++ ['\'']) := fun b => ⟨_, .quoted b h⟩

theorem Bare.enclosed {c d : Char} (h : closing? c = some d) {s : Text} (hs : Bare s) :
    Bare (c :: s ++ [d]) := by
  intro b
  obtain ⟨b', hs⟩ := hs false
  exact ⟨_, .enclosed b h hs⟩

theorem bare_joined {sep : Text} (hsep : Bare sep) {ts : List Text} (h : ∀ t ∈ ts, Bare t) :
    Bare (Text.joined sep ts) := by
  induction ts with
  | nil => exact bare_nil
  | cons t ts ih =>
    have ht := h t List.mem_cons_self
    have hts := ih fun u hu => h u (List.mem_cons_of_mem _ hu)
    by_cases e : ts = []
    · rw [e, Text.joined_single]; exact ht
    · rw [Text.joined_cons sep t ts e]
      exact (ht.append hsep).append hts

theorem bare_spaces (n : Nat) : Bare (Text.spaces n) := by
  refine bare_of_plain fun c hc => ?_
  rw [List.eq_of_mem_replicate hc]
  rfl

theorem isPlain_of_isTail {c : Char} (h : Key.isTail c = true) : isPlain c = true := by
  have hne : ∀ d, Key.isTail d = false → c ≠ d := fun d => Key.ne_of_isTail h
  simp [isPlain, closing?, Scan.isClosing, hne '"' (by decide), hne '\'' (by decide),
    hne '/' (by decide), hne '(' (by decide), hne '[' (by decide), hne '\x7b' (by decide),
    hne ')' (by decide), hne ']' (by decide), hne '\x7d' (by decide)]

theorem bare_identifier {name : Text} (h : Key.isIdentifier name = true) : Bare name :=
  bare_of_plain fun c hc => isPlain_of_isTail (Key.isTail_of_mem h c hc)

/-- a key is bare, whatever the name -/
theorem bare_key (name : Text) : Bare (Key.ofName name) := by
  rw [Key.ofName]
  split
  · rename_i h
    obtain ⟨i, e, hi, rfl | rfl, rfl⟩ := Key.exists_of_isBare h
    · rw [List.append_nil]
      exact bare_identifier hi
    · exact (bare_identifier hi).append (bare_of_plain (plain_single rfl))
  · exact bare_literal name

/-! ## JSON texts -/

theorem isPlain_of_isNumeral {c : Char} (h : Text.isNumeral c = true) : isPlain c = true := by
  simp only [Text.isNumeral, Bool.or_eq_true, decide_eq_true_eq] at h
  rcases h with ((h | rfl) | rfl) | rfl
  · exact isPlain_of_isTail h
  · rfl
  · rfl
  · rfl

theorem plain_numeral {t : Text} (h : Numeral t) : Plain t := fun c hc => isPlain_of_isNumeral (h c hc)

/-- a style that escapes only what it must and puts plain texts between the parts -/
structure PlainStyle (style : Json.Style) : Prop where
  ascii : style.ascii = false
  separator : Plain style.separator
  keySeparator : Plain style.keySeparator

theorem plainStyle_plain : PlainStyle Json.Style.plain :=
  ⟨rfl, by simp [Plain, Json.Style.plain, isPlain, closing?, Scan.isClosing],
    by simp [Plain, Json.Style.plain, isPlain, closing?, Scan.isClosing]⟩

theorem plainStyle_compact : PlainStyle Json.Style.compact :=
  ⟨rfl, plain_single rfl, plain_single rfl⟩

mutual

theorem bare_written {style : Json.Style} (h : PlainStyle style) (v : Json) :
    Bare (v.written style) := by
  cases v with
  | null => exact bare_constant rfl
  | bool value => cases value <;> exact bare_constant rfl
  | int i => exact bare_of_plain (plain_numeral (numeral_ofInt i))
  | float x => exact bare_of_plain (plain_numeral (numeral_floatText x))
  | text t =>
    rw [Json.written_text, h.ascii]
    exact bare_literal t
  | list items =>
    rw [Json.written_list]
    exact Bare.enclosed rfl (bare_joined (bare_of_plain h.separator) (bare_writtenItems h items))
  | object members =>
    rw [Json.written_object]
    exact Bare.enclosed rfl (bare_joined (bare_of_plain h.separator) (bare_writtenMembers h members))

theorem bare_writtenItems {style : Json.Style} (h : PlainStyle style) (vs : List Json) :
    ∀ t ∈ Json.writtenItems style vs, Bare t := by
  cases vs with
  | nil => exact fun t ht => absurd ht List.not_mem_nil
  | cons v vs =>
    intro t ht
    rcases List.mem_cons.mp ht with rfl | ht
    · exact bare_written h v
    · exact bare_writtenItems h vs t ht

theorem bare_writtenMembers {style : Json.Style} (h : PlainStyle style)
    (ms : List (Text × Json)) : ∀ t ∈ Json.writtenMembers style ms, Bare t := by
  cases ms with
  | nil => exact fun t ht => absurd ht List.not_mem_nil
  | cons m ms =>
    obtain ⟨k, v⟩ := m
    intro t ht
    rcases List.mem_cons.mp ht with rfl | ht
    · rw [h.ascii]
      exact ((bare_literal k).append (bare_of_plain h.keySeparator)).append (bare_written h v)
    · exact bare_writtenMembers h ms t ht

end

/-! ## texts on lines of their own -/

/-- a text that begins on a line of its own, and the same without comments -/
def Woven (s s' : Text) : Prop := ∃ b', Commented true s s' b'

theorem Bare.woven {s : Text} (h : Bare s) : Woven s s := h true

/-- what follows is bare -/
theorem Woven.append {s s' t : Text} (hs : Woven s s') (ht : Bare t) : Woven (s ++ t) (s' ++ t) := by
  obtain ⟨b, hs⟩ := hs
  obtain ⟨b', ht⟩ := ht b
  exact ⟨b', hs.append ht⟩

/-- after a line end a text may have comments again -/
theorem Woven.append_line {s s' t t' : Text} (hs : Woven s s') (ht : Woven t t') :
    Woven (s ++ ['\n'] ++ t) (s' ++ ['\n'] ++ t') := by
  obtain ⟨b, hs⟩ := hs
  obtain ⟨b', ht⟩ := ht
  exact ⟨b', (hs.append (.plain b (c := '\n') rfl)).append ht⟩

/-- texts on lines of their own; a separator is bare and ends with a line end -/
theorem woven_joined {sep : Text} (hsep : Bare sep) {ts ts' : List Text}
    (h : List.Forall₂ Woven ts ts') :
    Woven (Text.joined (sep ++ ['\n']) ts) (Text.joined (sep ++ ['\n']) ts') := by
  induction h with
  | nil => exact bare_nil.woven
  | @cons t t' ts ts' ht hts ih =>
    by_cases e : ts = []
    · subst e
      rw [List.forall₂_nil_left_iff] at hts
      subst hts
      exact ht
    · have e' : ts' ≠ [] := by
        rintro rfl
        exact e (List.forall₂_nil_right_iff.mp hts)
      rw [Text.joined_cons _ _ _ e, Text.joined_cons _ _ _ e', ← List.append_assoc,
        ← List.append_assoc]
      exact (ht.append hsep).append_line ih

/-- a text between two lines that are the halves of a pair of brackets -/
theorem Woven.block {c d : Char} (h : closing? c = some d) {before indent s s' : Text}
    (hb : Bare before) (hi : Bare indent) (hs : Woven s s') :
    Woven (before ++ [c] ++ ['\n'] ++ s ++ ['\n'] ++ (indent ++ [d]))
      (before ++ [c] ++ ['\n'] ++ s' ++ ['\n'] ++ (indent ++ [d])) := by
  obtain ⟨b, hb⟩ := hb true
  obtain ⟨b', hs⟩ := (hs.append (t := ['\n']) (bare_of_plain (plain_single rfl))).append hi
  have he := Commented.enclosed b h ((Commented.plain false (c := '\n') rfl).append hs)
  have e := hb.append he
  exact ⟨false, by simpa using e⟩

end DatabaseTypes
