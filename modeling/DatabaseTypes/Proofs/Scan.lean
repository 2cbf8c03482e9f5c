import Mathlib.Data.List.Chain
import DatabaseTypes.Json.Writer

/-!
# Scanning declarations

How a reader of the output goes through it: code, string literals in double and in single quotes
with backslash escapes, and comments.  Brackets that are opened in code wait for their partners.

* `Scan`            where the reader is, and the brackets that are still to come, innermost first
* `Scan.step`       one character; a line end in a string literal and a wrong bracket stop the reader
* `Scan.run`        a text
* `Scan.Closed`     a text of code that ends in code with no bracket opened or closed by it
-/

namespace DatabaseTypes

/-- what the reader is in -/
inductive Scan.Mode where
  | code
  /-- after a slash in code, which may begin a comment -/
  | slash
  | double
  /-- after a backslash between double quotes -/
  | doubleEscape
  | single
  /-- after a backslash between single quotes -/
  | singleEscape
  | comment
  /-- after a star in a comment, which may end it -/
  | star
  deriving DecidableEq

/-- where the reader is, and which closing brackets it waits for, the next one first -/
structure Scan where
  mode : Scan.Mode
  pending : List Char
  deriving DecidableEq

namespace Scan

/-! ## the reader -/

/-- the partner of an opening bracket -/
def closing? (c : Char) : Option Char :=
  if c = '(' then some ')'
  else if c = '[' then some ']'
  else if c = '\x7b' then some '\x7d'
  else none

/-- is it a closing bracket? -/
def isClosing (c : Char) : Bool := c = ')' || c = ']' || c = '\x7d'

/-- a character of code -/
def inCode (pending : List Char) (c : Char) : Option Scan :=
  if c = '"' then some ⟨.double, pending⟩
  else if c = '\'' then some ⟨.single, pending⟩
  else if c = '/' then some ⟨.slash, pending⟩
  else match closing? c with
    | some d => some ⟨.code, d :: pending⟩
    | none =>
      if isClosing c then match pending with
        | d :: rest => if c = d then some ⟨.code, rest⟩ else none
        | [] => none
      else some ⟨.code, pending⟩

/-- does a string literal have to end before this character? -/
def isLineEnd (c : Char) : Bool := c = '\n' || c = '\r'

/-- a character of a string literal that ends with `quote` -/
def inString (literal escape : Mode) (quote : Char) (pending : List Char) (c : Char) :
    Option Scan :=
  if isLineEnd c then none
  else if c = quote then some ⟨.code, pending⟩
  else if c = '\\' then some ⟨escape, pending⟩
  else some ⟨literal, pending⟩

/-- the character after a backslash in a string literal -/
def afterBackslash (literal : Mode) (pending : List Char) (c : Char) : Option Scan :=
  if isLineEnd c then none else some ⟨literal, pending⟩

/-- one character -/
def step (s : Scan) (c : Char) : Option Scan :=
  match s.mode with
  | .code => inCode s.pending c
  | .slash => if c = '*' then some ⟨.comment, s.pending⟩ else inCode s.pending c
  | .double => inString .double .doubleEscape '"' s.pending c
  | .doubleEscape => afterBackslash .double s.pending c
  | .single => inString .single .singleEscape '\'' s.pending c
  | .singleEscape => afterBackslash .single s.pending c
  | .comment => some ⟨if c = '*' then .star else .comment, s.pending⟩
  | .star =>
    some ⟨if c = '/' then .code else if c = '*' then .star else .comment, s.pending⟩

/-- the characters of a text, one after the other -/
def run (s : Scan) : Text → Option Scan
  | [] => some s
  | c :: t => match s.step c with
    | none => none
    | some s' => s'.run t

/-- where reading starts -/
def start : Scan := ⟨.code, []⟩

theorem run_nil (s : Scan) : s.run [] = some s := rfl

theorem run_cons {s r : Scan} {c : Char} (h : s.step c = some r) (t : Text) :
    s.run (c :: t) = r.run t := by
  rw [run, h]

theorem run_append {s s' : Scan} {t : Text} (h : s.run t = some s') (u : Text) :
    s.run (t ++ u) = s'.run u := by
  induction t generalizing s with
  | nil => cases h; rfl
  | cons c t ih =>
    rw [run] at h
    rw [List.cons_append, run]
    cases hs : s.step c with
    | none => rw [hs] at h; cases h
    | some r => rw [hs] at h; exact ih h

/-! ## closed texts -/

/-- read from code, the text ends in code, and whatever it opens it closes -/
def Closed (t : Text) : Prop := ∀ pending, run ⟨.code, pending⟩ t = some ⟨.code, pending⟩

theorem closed_nil : Closed [] := fun _ => rfl

theorem Closed.append {t u : Text} (ht : Closed t) (hu : Closed u) : Closed (t ++ u) := by
  intro pending
  rw [run_append (ht pending), hu pending]

/-- a character that means nothing to the reader as long as it is in code -/
def isPlain (c : Char) : Bool :=
  c != '"' && c != '\'' && c != '/' && (closing? c).isNone && !isClosing c

theorem closed_plain {c : Char} (h : isPlain c = true) : Closed [c] := by
  intro pending
  simp only [isPlain, Bool.and_eq_true, bne_iff_ne, ne_eq, Option.isNone_iff_eq_none,
    Bool.not_eq_true'] at h
  obtain ⟨⟨⟨⟨h₁, h₂⟩, h₃⟩, h₄⟩, h₅⟩ := h
  have hs : step ⟨.code, pending⟩ c = some ⟨.code, pending⟩ := by
    simp [step, inCode, h₁, h₂, h₃, h₄, h₅]
  rw [run_cons hs, run_nil]

/-- the partner of an opening bracket closes it -/
theorem closed_enclosed {c d : Char} (h : closing? c = some d) {t : Text} (ht : Closed t) :
    Closed (c :: t ++ [d]) := by
  intro pending
  have hs : step ⟨.code, pending⟩ c = some ⟨.code, d :: pending⟩ ∧
      step ⟨.code, d :: pending⟩ d = some ⟨.code, pending⟩ := by
    unfold closing? at h
    split at h
    · rename_i e; cases h; subst e; exact ⟨rfl, rfl⟩
    split at h
    · rename_i e; cases h; subst e; exact ⟨rfl, rfl⟩
    split at h
    · rename_i e; cases h; subst e; exact ⟨rfl, rfl⟩
    · cases h
  rw [List.cons_append, run_cons hs.1, run_append (ht (d :: pending)), run_cons hs.2, run_nil]

/-! ## string literals -/

/-- a text that leaves the reader between double quotes -/
def Quotable (t : Text) : Prop := ∀ pending, run ⟨.double, pending⟩ t = some ⟨.double, pending⟩

theorem quotable_escape {c : Char} (h : isLineEnd c = false) : Quotable ['\\', c] := by
  intro pending
  have hs : step ⟨.doubleEscape, pending⟩ c = some ⟨.double, pending⟩ := by
    simp [step, afterBackslash, h]
  rw [run_cons (r := ⟨.doubleEscape, pending⟩) rfl, run_cons hs, run_nil]

theorem quotable_char {c : Char} (h : isLineEnd c = false) (hq : c ≠ '"') (hb : c ≠ '\\') :
    Quotable [c] := by
  intro pending
  have hs : step ⟨.double, pending⟩ c = some ⟨.double, pending⟩ := by
    simp [step, inString, h, hq, hb]
  rw [run_cons hs, run_nil]

theorem Quotable.append {t u : Text} (ht : Quotable t) (hu : Quotable u) : Quotable (t ++ u) := by
  intro pending
  rw [run_append (ht pending), hu pending]

theorem quotable_hexDigit (n : Nat) : Quotable [Text.hexDigit n] := by
  have h : ∀ m < 16, isLineEnd (Nat.digitChar m) = false ∧ Nat.digitChar m ≠ '"'
      ∧ Nat.digitChar m ≠ '\\' := by decide
  obtain ⟨h₁, h₂, h₃⟩ := h (n % 16) (Nat.mod_lt n (by decide))
  exact quotable_char h₁ h₂ h₃

theorem quotable_hexadecimal (n code : Nat) : Quotable (Text.hexadecimal n code) := by
  induction n generalizing code with
  | zero => exact fun _ => rfl
  | succ n ih => exact (ih (code / 16)).append (quotable_hexDigit code)

theorem quotable_literalChar (c : Char) : Quotable (Json.literalChar false c) := by
  rcases Json.literalChar_eq c with ⟨d, hd, e⟩ | ⟨_, e⟩ | ⟨hc, hq, hb, e⟩ <;> rw [e]
  · have hall : ∀ p ∈ Json.escapes, isLineEnd p.2 = false := by decide
    exact quotable_escape (hall _ hd)
  · exact (quotable_escape (c := 'u') rfl).append (quotable_hexadecimal 4 c.toNat)
  · -- a character that is written as it is ends no line
    have hne : ∀ d : Char, d.toNat < 32 → c ≠ d := by
      rintro d hd rfl
      exact Nat.not_lt.mpr hc hd
    refine quotable_char ?_ hq hb
    rw [isLineEnd, Bool.or_eq_false_iff, decide_eq_false_iff_not, decide_eq_false_iff_not]
    exact ⟨hne '\n' (by decide), hne '\r' (by decide)⟩

/-- no text breaks out of its string literal -/
theorem closed_literal (t : Text) : Closed (Json.literal false t) := by
  intro pending
  have h : Quotable (t.flatMap (Json.literalChar false)) := by
    induction t with
    | nil => exact fun _ => rfl
    | cons c t ih => exact (quotable_literalChar c).append ih
  unfold Json.literal
  rw [List.cons_append, run_cons (r := ⟨.double, pending⟩) rfl, run_append (h pending)]
  rfl

/-- a text without quotes, backslashes and line ends between single quotes -/
theorem closed_quoted {t : Text} (h : ∀ c ∈ t, isLineEnd c = false ∧ c ≠ '\'' ∧ c ≠ '\\') :
    Closed ('\'' :: t ++ ['\'']) := by
  intro pending
  have hr : run ⟨.single, pending⟩ t = some ⟨.single, pending⟩ := by
    induction t with
    | nil => rfl
    | cons c t ih =>
      obtain ⟨h₁, h₂, h₃⟩ := h c List.mem_cons_self
      have hs : step ⟨.single, pending⟩ c = some ⟨.single, pending⟩ := by
        simp [step, inString, h₁, h₂, h₃]
      rw [run_cons hs]
      exact ih fun d hd => h d (List.mem_cons_of_mem _ hd)
  rw [List.cons_append, run_cons (r := ⟨.single, pending⟩) rfl, run_append hr]
  rfl

/-! ## comments -/

/-- two characters that do not end a comment -/
def staysOpen (c d : Char) : Prop := ¬ (c = '*' ∧ d = '/')

/-- a text in which no comment ends -/
def Unending (t : Text) : Prop := List.IsChain staysOpen t

theorem Unending.append {t u : Text} (ht : Unending t) (hu : Unending u)
    (h : ∀ c ∈ u.head?, c ≠ '/') : Unending (t ++ u) :=
  List.isChain_append.mpr ⟨ht, hu, fun _ _ d hd e => h d hd e.2⟩

/-- a text without stars in front -/
theorem Unending.starless {t u : Text} (ht : ∀ c ∈ t, c ≠ '*') (hu : Unending u) :
    Unending (t ++ u) := by
  induction t with
  | nil => exact hu
  | cons c t ih =>
    refine List.IsChain.cons (ih fun d hd => ht d (List.mem_cons_of_mem _ hd)) fun d _ e => ?_
    exact ht c List.mem_cons_self e.1

/-- a comment goes on through a text in which none ends -/
theorem run_unending {t : Text} (h : Unending t) {mode : Mode} (hm : mode = .comment ∨ mode = .star)
    (hs : mode = .star → ∀ c ∈ t.head?, c ≠ '/') (pending : List Char) :
    ∃ mode', (mode' = .comment ∨ mode' = .star) ∧ run ⟨mode, pending⟩ t = some ⟨mode', pending⟩ := by
  induction t generalizing mode with
  | nil => exact ⟨mode, hm, rfl⟩
  | cons c t ih =>
    -- the mode after `c` is `star` exactly if `c` is a star, and then no slash follows
    have hstep : step ⟨mode, pending⟩ c
        = some ⟨if c = '*' then .star else .comment, pending⟩ := by
      rcases hm with rfl | rfl
      · rfl
      · have hc : c ≠ '/' := hs rfl c rfl
        simp [step, hc]
    have htail : Unending t := List.IsChain.tail h
    rw [run_cons hstep]
    by_cases hc : c = '*'
    · rw [if_pos hc]
      refine ih htail (.inr rfl) fun _ d hd hslash => ?_
      cases t with
      | nil => cases hd
      | cons e t =>
        cases hd
        exact (List.isChain_cons_cons.mp h).1 ⟨hc, hslash⟩
    · rw [if_neg hc]
      exact ih htail (.inl rfl) fun e => by cases e

/-- a comment ends where its text ends -/
theorem closed_comment {body : Text} (h : Unending body) :
    Closed ('/' :: '*' :: body ++ ['*', '/']) := by
  intro pending
  obtain ⟨mode, hm, hr⟩ := run_unending h (.inl rfl) (fun e => by cases e) pending
  rw [List.cons_append, List.cons_append, run_cons (r := ⟨.slash, pending⟩) rfl,
    run_cons (r := ⟨.comment, pending⟩) rfl, run_append hr]
  rcases hm with rfl | rfl <;> rfl

end Scan
end DatabaseTypes
