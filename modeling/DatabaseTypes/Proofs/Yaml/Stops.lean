import DatabaseTypes.Yaml.Parser

/-!
# Where the reading of a settings file stops

Cutting a text into tokens, and parsing them, stops with a mistake at some line, or with one of a few faults: a
character that does not exist, or collections that are nested too deep.  There is one lemma for each step.

* `FailsOnly`           a step whose failures have a property
* `Yaml.IsFault`        the faults of settings files
* `Yaml.Stops`          a step through a text that stops only with mistakes and with these faults
* `Yaml.isExpected_of_ofText?`   the nodes of a document
-/

namespace DatabaseTypes

/-! ## steps that fail in one way only -/

/-- a step whose failures have a property -/
def FailsOnly {σ ε α : Type} (P : ε → Prop) (x : StateT σ (Except ε) α) : Prop :=
  ∀ s e, x.run s = .error e → P e

namespace FailsOnly

variable {σ ε α β : Type} {P : ε → Prop}

theorem pure (a : α) : FailsOnly P (Pure.pure a : StateT σ (Except ε) α) := nofun

/-- a step that always succeeds -/
theorem always (f : σ → α × σ) : FailsOnly P (fun s => .ok (f s) : StateT σ (Except ε) α) := nofun

theorem get : FailsOnly P (MonadState.get : StateT σ (Except ε) σ) := nofun

theorem set (s : σ) : FailsOnly P (MonadStateOf.set s : StateT σ (Except ε) PUnit) := nofun

theorem modified (f : σ → σ) : FailsOnly P (modify f : StateT σ (Except ε) PUnit) := nofun

theorem throw {e : ε} (h : P e) : FailsOnly P (MonadExcept.throw e : StateT σ (Except ε) α) := by
  rintro s _ ⟨⟩
  exact h

theorem bind {x : StateT σ (Except ε) α} {f : α → StateT σ (Except ε) β} (hx : FailsOnly P x)
    (hf : ∀ a, FailsOnly P (f a)) : FailsOnly P (x >>= f) := by
  intro s e h
  rw [StateT.run_bind] at h
  cases hr : x.run s with
  | error e' =>
    rw [hr] at h
    cases h
    exact hx s e hr
  | ok r =>
    rw [hr] at h
    exact hf r.1 r.2 e h

theorem ite {c : Prop} [Decidable c] {x y : StateT σ (Except ε) α} (hx : FailsOnly P x)
    (hy : FailsOnly P y) : FailsOnly P (if c then x else y) := by
  split
  · exact hx
  · exact hy

theorem mapM {f : β → StateT σ (Except ε) α} (hf : ∀ b, FailsOnly P (f b)) (bs : List β) :
    FailsOnly P (bs.mapM f) := by
  induction bs with
  | nil => exact .pure _
  | cons b bs ih =>
    rw [List.mapM_cons]
    exact (hf b).bind fun _ => ih.bind fun _ => .pure _

theorem foldlM {f : α → β → StateT σ (Except ε) α} (hf : ∀ a b, FailsOnly P (f a b)) (bs : List β)
    (a : α) : FailsOnly P (bs.foldlM f a) := by
  induction bs generalizing a with
  | nil => exact .pure _
  | cons b bs ih =>
    rw [List.foldlM_cons]
    exact (hf a b).bind ih

theorem forIn {f : β → PUnit → StateT σ (Except ε) (ForInStep PUnit)} (hf : ∀ b u, FailsOnly P (f b u))
    (bs : List β) : FailsOnly P (ForIn.forIn bs ⟨⟩ f) := by
  induction bs with
  | nil => exact .pure _
  | cons b bs ih =>
    rw [List.forIn_cons]
    refine (hf b ⟨⟩).bind fun r => ?_
    cases r with
    | done _ => exact .pure _
    | yield _ => exact ih

end FailsOnly

namespace Yaml

/-- the faults of settings files -/
def IsFault : Fault → Prop
  | .notInteger _ _ | .notNumber _ | .emptyNumber | .tooLargeForFloat | .calendar _ => True
  | .missing _ | .lacks _ _ | .notText _ => True
  | .codeTooLarge | .codeTooLong | .undecodable _ => True
  | .beyond (.digitsRead _) | .beyond .bracketDepth | .beyond .nodeDepth | .beyond .endlessText => True
  | _ => False

theorem isFault_nodeDepth : IsFault (.beyond .nodeDepth) := trivial

theorem isFault_bracketDepth : IsFault (.beyond .bracketDepth) := trivial

/-- a mistake, or a fault of a settings file -/
def Failure.IsExpected : Failure → Prop
  | .mistake _ _ => True
  | .fault f => IsFault f

/-- a step through a text that stops only with mistakes and with faults of settings files -/
abbrev Stops {σ α : Type} (x : StateT σ (Except Stop) α) : Prop :=
  FailsOnly (fun stop : Stop => stop.failure.IsExpected) x

/-! ## texts -/

-- A lemma without arguments stands in parentheses before `.bind`: the name `stops_column.bind` would be looked up among
-- what its proof declares, and every lemma that is checked at the same time would wait for that proof.

namespace Scan

variable {α : Type}

theorem stops_fail (m : Mistake) : Stops (fail m : Scan α) := by
  rintro c _ ⟨⟩
  trivial

theorem stops_refuse {f : Fault} (h : IsFault f) : Stops (refuse f : Scan α) := by
  rintro c _ ⟨⟩
  exact h

theorem stops_peek (n : Nat) : Stops (peek n) := nofun

theorem stops_skip (n : Nat) : Stops (skip n) := nofun

theorem stops_run (test : Char → Bool) : Stops (run test) := nofun

theorem stops_lineBreak? : Stops lineBreak? := by
  intro c e h
  unfold lineBreak? at h
  cases hc : c.rest.head? with
  | none => simp [StateT.run, hc] at h
  | some ch => cases hb : isBreak ch <;> simp [StateT.run, hc, hb] at h

theorem stops_bound : Stops bound := nofun

theorem stops_column : Stops column := nofun

theorem stops_atSeparator : Stops atSeparator := nofun

theorem stops_restOfLine (m : Mistake) : Stops (restOfLine m) := by
  have hend : Stops (do if isBreakOrEnd (← peek) then let _ ← lineBreak? else fail m : Scan Unit) :=
    (stops_peek 0).bind fun _ => .ite ((stops_lineBreak?).bind fun _ => .pure _) (stops_fail m)
  exact (stops_run _).bind fun _ => (stops_peek 0).bind fun _ =>
    .ite ((stops_run _).bind fun _ => hend) hend

theorem stops_plainBreaks : (fuel : Nat) → (breaks : Text) → Stops (plainBreaks fuel breaks)
  | 0, _ => .pure _
  | fuel + 1, _ => (stops_run _).bind fun _ => (stops_lineBreak?).bind fun
    | none => .pure _
    | some _ => (stops_atSeparator).bind fun _ => .ite (.pure _) (stops_plainBreaks fuel _)

theorem stops_plainGap : Stops plainGap :=
  (stops_run _).bind fun _ => (stops_lineBreak?).bind fun
    | none => .pure _
    | some _ => (stops_atSeparator).bind fun _ => .ite (.pure _) <|
      (stops_bound).bind fun _ => (stops_plainBreaks _ _).bind fun
        | none => .pure _
        | some _ => .pure _

theorem stops_plainParts (inBrackets : Bool) (indent : Nat) :
    (fuel : Nat) → (text gap : Text) → (ended : Bool) → Stops (plainParts inBrackets indent fuel text gap ended)
  | 0, _, _, _ => .pure _
  | fuel + 1, _, _, _ => by
    refine (stops_peek 0).bind fun _ => .ite (.pure _) ?_
    refine (FailsOnly.always _).bind fun part => .ite (.pure _) ?_
    refine (stops_skip _).bind fun _ => (stops_plainGap).bind fun _ => ?_
    refine (stops_peek 0).bind fun _ => (stops_column).bind fun _ => ?_
    exact .ite (.pure _) (stops_plainParts inBrackets indent fuel _ _ _)

theorem stops_plain (inBrackets : Bool) (indent : Nat) : Stops (plain inBrackets indent) :=
  (stops_bound).bind fun _ => stops_plainParts inBrackets indent _ _ _ _

theorem stops_charOf (n : Nat) : Stops (charOf n) :=
  .ite (stops_refuse trivial) (.ite (stops_refuse trivial) (.pure _))

theorem stops_hexDigits : (k n : Nat) → (m : Mistake) → Stops (hexDigits k n m)
  | 0, _, _ => .pure _
  | k + 1, n, m => by
    refine (stops_peek 0).bind fun c => ?_
    cases c.bind Text.hexDigit? with
    | none => exact stops_fail m
    | some d => exact (stops_skip 1).bind fun _ => stops_hexDigits k _ m

theorem stops_quotedBreaks : (fuel : Nat) → (breaks : Text) → Stops (quotedBreaks fuel breaks)
  | 0, _ => .pure _
  | fuel + 1, _ => (stops_atSeparator).bind fun _ => .ite (stops_fail _) <|
    (stops_run _).bind fun _ => (stops_lineBreak?).bind fun
      | none => .pure _
      | some _ => stops_quotedBreaks fuel _

theorem stops_escape : Stops escape := by
  refine (stops_peek 0).bind fun c => ?_
  cases c with
  | none => exact stops_fail _
  | some c =>
    dsimp only
    split
    · exact (stops_skip 1).bind fun _ => .pure _
    · split
      · exact (stops_skip 1).bind fun _ => (stops_hexDigits _ _ _).bind fun n =>
          (stops_charOf n).bind fun _ => .pure _
      · exact .ite ((stops_skip 1).bind fun _ => (stops_bound).bind fun _ => stops_quotedBreaks _ _)
          (stops_fail _)

theorem stops_quotedGap : Stops quotedGap :=
  (stops_run _).bind fun _ => (stops_lineBreak?).bind fun
    | none => (stops_peek 0).bind fun _ => .ite (stops_fail _) (.pure _)
    | some _ => (stops_bound).bind fun _ => (stops_quotedBreaks _ _).bind fun _ => .pure _

theorem stops_quotedParts (q : Char) : (fuel : Nat) → (text : Text) → Stops (quotedParts q fuel text)
  | 0, _ => stops_fail _
  | fuel + 1, text => by
    have go (text : Text) : Stops (quotedParts q fuel text) := stops_quotedParts q fuel text
    refine (stops_peek 0).bind fun c => ?_
    cases c with
    | none => exact stops_fail _
    | some c =>
      refine .ite ((stops_quotedGap).bind fun _ => go _) ((stops_skip 1).bind fun _ => ?_)
      refine .ite ((stops_peek 0).bind fun _ => ?_) ?_
      · exact .ite ((stops_skip 1).bind fun _ => go _) (.pure _)
      · exact .ite ((stops_escape).bind fun _ => go _) (go _)

theorem stops_quoted (q : Char) : Stops (quoted q) :=
  (stops_skip 1).bind fun _ => (stops_bound).bind fun _ => stops_quotedParts q _ _

/-! ## blocks of lines -/

theorem stops_chompingMark? : Stops chompingMark? := by
  refine (stops_peek 0).bind fun c => ?_
  split
  · exact (stops_skip 1).bind fun _ => .pure _
  · exact (stops_skip 1).bind fun _ => .pure _
  · exact .pure _

theorem stops_indentMark? : Stops indentMark? :=
  (stops_peek 0).bind fun
    | none => .pure _
    | some _ => .ite (.pure _) (.ite (stops_fail _) ((stops_skip 1).bind fun _ => .pure _))

theorem stops_blockHead : Stops blockHead := by
  have hend (early late : Option Chomping) (indent : Option Nat) : Stops (do
      if isSpaceOrEnd (← peek) then
        restOfLine .malformedBlock
        pure (((early <|> late).getD .clip), indent)
      else fail .malformedBlock : Scan (Chomping × Option Nat)) :=
    (stops_peek 0).bind fun _ => .ite ((stops_restOfLine _).bind fun _ => .pure _) (stops_fail _)
  refine (stops_chompingMark?).bind fun early => (stops_indentMark?).bind fun indent => ?_
  exact .ite ((stops_chompingMark?).bind fun late => hend early late indent) (hend early none indent)

theorem stops_blockStart : (fuel : Nat) → (breaks : Text) → (widest : Nat) →
    Stops (blockStart fuel breaks widest)
  | 0, _, _ => .pure _
  | fuel + 1, _, _ => (stops_run _).bind fun _ => (stops_column).bind fun _ => (stops_lineBreak?).bind fun
    | none => .pure _
    | some _ => stops_blockStart fuel _ _

theorem stops_indentTo (indent : Nat) : (fuel : Nat) → Stops (indentTo indent fuel)
  | 0 => .pure _
  | fuel + 1 => (stops_column).bind fun _ => (stops_peek 0).bind fun _ =>
    .ite ((stops_skip 1).bind fun _ => stops_indentTo indent fuel) (.pure _)

theorem stops_blockBreaks (indent : Nat) : (fuel : Nat) → (breaks : Text) →
    Stops (blockBreaks indent fuel breaks)
  | 0, _ => .pure _
  | fuel + 1, _ => (stops_bound).bind fun _ => (stops_indentTo indent _).bind fun _ =>
    (stops_lineBreak?).bind fun
      | none => .pure _
      | some _ => stops_blockBreaks indent fuel _

theorem stops_atBlockLine (indent : Nat) : Stops (atBlockLine indent) :=
  (stops_column).bind fun _ => (stops_peek 0).bind fun _ => .pure _

theorem stops_beginsFlush : Stops beginsFlush := (stops_peek 0).bind fun _ => .pure _

theorem stops_blockLines (folding : Bool) (indent : Nat) : (fuel : Nat) → (text breaks : Text) →
    Stops (blockLines folding indent fuel text breaks)
  | 0, _, _ => .pure _
  | fuel + 1, _, _ => by
    have go (text breaks : Text) : Stops (blockLines folding indent fuel text breaks) :=
      stops_blockLines folding indent fuel text breaks
    refine (stops_beginsFlush).bind fun _ => (stops_run _).bind fun _ => (stops_lineBreak?).bind fun _ => ?_
    refine (stops_bound).bind fun _ => (stops_blockBreaks indent _ _).bind fun _ => ?_
    refine (stops_atBlockLine indent).bind fun _ => .ite ?_ (.pure _)
    exact (stops_beginsFlush).bind fun _ => go _ _

theorem stops_block (outer : Int) : Stops (block outer) := by
  refine (stops_peek 0).bind fun _ => (stops_skip 1).bind fun _ => (stops_blockHead).bind fun head => ?_
  obtain ⟨_, mark⟩ := head
  cases mark with
  | none =>
    refine (stops_bound).bind fun _ => (stops_blockStart _ _ _).bind fun _ => (FailsOnly.pure _).bind fun _ => ?_
    refine (stops_atBlockLine _).bind fun _ => .ite ?_ ((FailsOnly.pure _).bind fun _ => .pure _)
    exact (stops_bound).bind fun _ => (stops_blockLines _ _ _ _ _).bind fun _ => .pure _
  | some n =>
    refine (stops_bound).bind fun _ => (stops_blockBreaks _ _ _).bind fun _ => (FailsOnly.pure _).bind fun _ => ?_
    refine (stops_atBlockLine _).bind fun _ => .ite ?_ ((FailsOnly.pure _).bind fun _ => .pure _)
    exact (stops_bound).bind fun _ => (stops_blockLines _ _ _ _ _).bind fun _ => .pure _

/-! ## names, tags and directives -/

theorem stops_name : Stops name :=
  (stops_skip 1).bind fun _ => (stops_run _).bind fun _ => (stops_peek 0).bind fun _ =>
    .ite (.pure _) (stops_fail _)

theorem stops_tagBytes (m : Mistake) : (fuel : Nat) → Stops (tagBytes m fuel)
  | 0 => .pure _
  | fuel + 1 => (stops_peek 0).bind fun _ => .ite
    ((stops_skip 1).bind fun _ => (stops_hexDigits _ _ _).bind fun _ =>
      (stops_tagBytes m fuel).bind fun _ => .pure _) (.pure _)

theorem stops_tagEscapes (m : Mistake) : Stops (tagEscapes m) := by
  refine (stops_bound).bind fun _ => (stops_tagBytes m _).bind fun bytes => ?_
  split
  · exact .pure _
  · exact stops_fail m

theorem stops_tagParts (m : Mistake) : (fuel : Nat) → (text : Text) → Stops (tagParts m fuel text)
  | 0, _ => .pure _
  | fuel + 1, _ => (stops_run _).bind fun _ => (stops_peek 0).bind fun _ => .ite
    ((stops_tagEscapes m).bind fun _ => stops_tagParts m fuel _) (.pure _)

theorem stops_tagText (m : Mistake) : Stops (tagText m) :=
  (stops_bound).bind fun _ => (stops_tagParts m _ _).bind fun _ => .ite (stops_fail m) (.pure _)

theorem stops_handle (m : Mistake) : Stops (handle m) := by
  refine (stops_peek 0).bind fun _ => .ite ((stops_skip 1).bind fun _ => ?_) (stops_fail m)
  refine (stops_peek 0).bind fun _ => .ite (.pure _) ((stops_run _).bind fun _ => ?_)
  exact (stops_peek 0).bind fun _ => .ite ((stops_skip 1).bind fun _ => .pure _) (stops_fail m)

theorem stops_hasHandle : Stops hasHandle := (FailsOnly.always _).bind fun _ => .pure _

theorem stops_tagContent : Stops tagContent := by
  refine (stops_peek 1).bind fun _ => .ite ?_ (.ite ((stops_skip 1).bind fun _ => .pure _) ?_)
  · exact (stops_skip 2).bind fun _ => (stops_tagText _).bind fun _ => (stops_peek 0).bind fun _ =>
      .ite ((stops_skip 1).bind fun _ => .pure _) (stops_fail _)
  · refine (stops_hasHandle).bind fun _ => .ite ?_ ?_
    · exact (stops_handle _).bind fun _ => (stops_tagText _).bind fun _ => .pure _
    · exact (stops_skip 1).bind fun _ => (FailsOnly.pure _).bind fun _ =>
        (stops_tagText _).bind fun _ => .pure _

theorem stops_tag : Stops tag :=
  (stops_tagContent).bind fun _ => (stops_peek 0).bind fun _ => .ite (.pure _) (stops_fail _)

theorem stops_number : Stops number :=
  (stops_run _).bind fun _ => .ite (stops_fail _) (.pure _)

theorem stops_version : Stops version := by
  refine (stops_run _).bind fun _ => (stops_number).bind fun _ => (stops_peek 0).bind fun _ => ?_
  refine .ite ((stops_skip 1).bind fun _ => (stops_number).bind fun _ => ?_) (stops_fail _)
  exact (stops_peek 0).bind fun _ => .ite (.pure _) (stops_fail _)

theorem stops_handleDirective : Stops handleDirective := by
  refine (stops_run _).bind fun _ => (stops_handle _).bind fun _ => (stops_peek 0).bind fun _ => ?_
  refine .ite ((stops_run _).bind fun _ => (stops_tagText _).bind fun _ => ?_) (stops_fail _)
  exact (stops_peek 0).bind fun _ => .ite (.pure _) (stops_fail _)

theorem stops_directiveContent (name : Text) : Stops (directiveContent name) :=
  .ite stops_version (.ite stops_handleDirective ((stops_run _).bind fun _ => .pure _))

theorem stops_directive : Stops directive :=
  (stops_skip 1).bind fun _ => (stops_run _).bind fun name => (stops_peek 0).bind fun _ =>
    .ite ((stops_directiveContent name).bind fun _ => (stops_restOfLine _).bind fun _ => .pure _)
      (stops_fail _)

end Scan

/-! ## tokens -/

namespace Lexing

variable {α : Type}

theorem stops_fail (m : Mistake) : Stops (fail m : Lexing α) := by
  rintro l _ ⟨⟩
  trivial

theorem stops_scan {s : Scan α} (h : Stops s) : Stops (scan s) := by
  intro l e he
  change (StateT.run s l.cursor >>= fun r => pure (r.1, { l with cursor := r.2 })) = .error e at he
  cases hr : StateT.run s l.cursor with
  | error e' =>
    rw [hr] at he
    cases he
    exact h l.cursor e hr
  | ok r =>
    rw [hr] at he
    cases he

theorem stops_dropStale : Stops dropStale :=
  (FailsOnly.get).bind fun _ => .ite (stops_fail _) (.set _)

theorem stops_putCandidate (k : Option Candidate) : Stops (putCandidate k) := .modified _

theorem stops_emit (t : Token) : Stops (emit t) := .modified _

theorem stops_allowKey (allowed : Bool) : Stops (allowKey allowed) := .modified _

theorem stops_dropCandidate : Stops dropCandidate := by
  refine (FailsOnly.get).bind fun l => ?_
  split
  · exact .ite (stops_fail _) (stops_putCandidate _)
  · exact .pure _

theorem stops_saveCandidate : Stops saveCandidate :=
  (FailsOnly.get).bind fun _ => .ite ((stops_dropCandidate).bind fun _ => stops_putCandidate _) (.pure _)

theorem stops_closeBlocks (column : Int) : Stops (closeBlocks column) :=
  (FailsOnly.get).bind fun _ => .ite (.pure _) (.set _)

theorem stops_openBlock (column : Nat) : Stops (openBlock column) :=
  (FailsOnly.get).bind fun _ => .ite ((FailsOnly.set _).bind fun _ => .pure _) (.pure _)

theorem stops_mark (t : Token) (n : Nat) : Stops (mark t n) :=
  (stops_emit t).bind fun _ => stops_scan (Scan.stops_skip n)

theorem stops_toNextToken (fuel : Nat) : Stops (toNextToken fuel) := by
  induction fuel with
  | zero => exact .pure _
  | succ fuel ih =>
    -- what is left once a comment is skipped does not depend on whether there is one
    have hend {f : Option Char → Lexing Unit} (hnone : Stops (f none)) (hsome : ∀ c, Stops (f (some c))) :
        Stops (scan Scan.lineBreak? >>= f) := by
      refine (stops_scan Scan.stops_lineBreak?).bind fun found => ?_
      cases found with
      | none => exact hnone
      | some c => exact hsome c
    have hmore : Stops (do
        if !(← get).inBrackets then allowKey true
        toNextToken fuel : Lexing Unit) :=
      (FailsOnly.get).bind fun _ => .ite ((stops_allowKey _).bind fun _ => ih) ih
    exact (stops_scan (Scan.stops_run _)).bind fun _ => (stops_scan (Scan.stops_peek 0)).bind fun _ =>
      .ite ((stops_scan (Scan.stops_run _)).bind fun _ => hend (.pure _) fun _ => hmore)
        (hend (.pure _) fun _ => hmore)

theorem stops_separator (t : Token) : Stops (separator t) :=
  (stops_closeBlocks _).bind fun _ => (stops_dropCandidate).bind fun _ =>
    (stops_allowKey _).bind fun _ => stops_mark t 3

theorem stops_directive : Stops directive :=
  (stops_closeBlocks _).bind fun _ => (stops_dropCandidate).bind fun _ => (stops_allowKey _).bind fun _ =>
    (stops_scan Scan.stops_directive).bind fun _ => stops_emit _

theorem stops_openBracket (t : Token) : Stops (openBracket t) :=
  (stops_saveCandidate).bind fun _ => (FailsOnly.modified _).bind fun _ =>
    (stops_allowKey _).bind fun _ => stops_mark t 1

theorem stops_closeBracket (t : Token) : Stops (closeBracket t) :=
  (FailsOnly.get).bind fun _ => .ite
    ((stops_dropCandidate).bind fun _ => (FailsOnly.modified _).bind fun _ =>
      (stops_allowKey _).bind fun _ => stops_mark t 1) (stops_fail _)

theorem stops_comma : Stops comma :=
  (stops_allowKey _).bind fun _ => (stops_dropCandidate).bind fun _ => stops_mark _ 1

theorem stops_openAt (t : Token) (m : Mistake) : Stops (openAt t m) :=
  (FailsOnly.get).bind fun _ => .ite (.pure _) <| .ite (stops_fail m) <|
    (stops_openBlock _).bind fun _ => .ite (stops_emit t) (.pure _)

theorem stops_item : Stops item :=
  (stops_openAt _ _).bind fun _ => (stops_allowKey _).bind fun _ =>
    (stops_dropCandidate).bind fun _ => stops_mark _ 1

theorem stops_key : Stops key :=
  (stops_openAt _ _).bind fun _ => (FailsOnly.get).bind fun _ => (stops_allowKey _).bind fun _ =>
    (stops_dropCandidate).bind fun _ => stops_mark _ 1

theorem stops_insert (k : Candidate) (t : Token) : Stops (insert k t) := .modified _

theorem stops_value : Stops value := by
  have hend : Stops (do allowKey false; mark .value : Lexing Unit) :=
    (stops_allowKey _).bind fun _ => stops_mark _ 1
  refine (FailsOnly.get).bind fun l => ?_
  split
  · refine (stops_putCandidate _).bind fun _ => (stops_insert _ _).bind fun _ => ?_
    refine (FailsOnly.get).bind fun _ => .ite ((stops_openBlock _).bind fun _ => ?_) hend
    exact .ite ((stops_insert _ _).bind fun _ => hend) hend
  · exact (stops_openAt _ _).bind fun _ => (FailsOnly.get).bind fun _ => (stops_allowKey _).bind fun _ =>
      (stops_dropCandidate).bind fun _ => stops_mark _ 1

theorem stops_keyPart {s : Scan Token} (h : Stops s) : Stops (keyPart s) :=
  (stops_saveCandidate).bind fun _ => (stops_allowKey _).bind fun _ =>
    (stops_scan h).bind fun _ => stops_emit _

theorem stops_block : Stops block :=
  (stops_allowKey _).bind fun _ => (stops_dropCandidate).bind fun _ => (FailsOnly.get).bind fun _ =>
    (stops_scan (Scan.stops_block _)).bind fun _ => stops_emit _

theorem stops_plain : Stops plain :=
  (stops_saveCandidate).bind fun _ => (FailsOnly.get).bind fun _ =>
    (stops_scan (Scan.stops_plain _ _)).bind fun _ => (stops_allowKey _).bind fun _ => stops_emit _

theorem stops_token (c : Char) : Stops (token c) := by
  refine (FailsOnly.get).bind fun l => (stops_scan (Scan.stops_peek 1)).bind fun second => ?_
  refine .ite stops_directive (.ite (stops_separator _) ?_)
  refine .ite (stops_openBracket _) (.ite (stops_openBracket _) ?_)
  refine .ite (stops_closeBracket _) (.ite (stops_closeBracket _) ?_)
  refine .ite (.ite stops_comma (stops_fail _)) ?_
  refine .ite stops_item (.ite stops_key (.ite stops_value ?_))
  refine .ite (stops_keyPart ((Scan.stops_name).bind fun _ => .pure _)) ?_
  refine .ite (stops_keyPart ((Scan.stops_name).bind fun _ => .pure _)) ?_
  refine .ite (stops_keyPart Scan.stops_tag) (.ite stops_block ?_)
  refine .ite (stops_keyPart ((Scan.stops_quoted c).bind fun _ => .pure _)) ?_
  exact .ite stops_plain (stops_fail _)

theorem stops_step : Stops step := by
  refine (stops_scan Scan.stops_bound).bind fun _ => (stops_toNextToken _).bind fun _ => ?_
  refine (stops_dropStale).bind fun _ => (FailsOnly.get).bind fun _ => (stops_closeBlocks _).bind fun _ => ?_
  refine (stops_scan (Scan.stops_peek 0)).bind fun c => ?_
  cases c with
  | none =>
    exact (stops_closeBlocks _).bind fun _ => (stops_dropCandidate).bind fun _ => .modified _
  | some c => exact stops_token c

theorem stops_isShort : Stops isShort :=
  (FailsOnly.get).bind fun _ => .ite (.pure _) <| .ite (.pure _) <|
    (stops_dropStale).bind fun _ => (FailsOnly.get).bind fun _ => .pure _

theorem stops_fill : (fuel : Nat) → Stops (fill fuel)
  | 0 => .pure _
  | fuel + 1 => (stops_isShort).bind fun _ => .ite ((stops_step).bind fun _ => stops_fill fuel) (.pure _)

theorem stops_front : Stops front :=
  (FailsOnly.get).bind fun _ => (stops_fill _).bind fun _ => (FailsOnly.get).bind fun _ => .pure _

theorem stops_take : Stops take := .modified _

end Lexing

/-! ## nodes -/

namespace Parse

variable {α : Type}

theorem run_lexing (step : Lexing α) (p : Parser) : (lexing step).run p = match step.run p.lexer with
    | .ok (a, lexer) => .ok (a, { p with lexer })
    | .error stop => .error stop :=
  rfl

theorem stops_lexing {step : Lexing α} (h : Stops step) : Stops (lexing step) := by
  intro p e he
  rw [run_lexing] at he
  cases hr : step.run p.lexer with
  | error e' =>
    rw [hr] at he
    cases he
    exact h p.lexer e hr
  | ok r =>
    rw [hr] at he
    cases he

theorem stops_fail (m : Mistake) : Stops (fail m : Parse α) := by
  rintro p _ ⟨⟩
  trivial

theorem stops_throw (index : Nat) {f : Fault} (h : IsFault f) :
    Stops (throw ⟨.fault f, index⟩ : Parse α) := by
  rintro p _ ⟨⟩
  exact h

theorem stops_deeper {l : Limit} (hl : IsFault (.beyond l)) {step : Parse α} (h : Stops step) :
    Stops (deeper l step) := by
  have hstep (p : Parser) : Stops (do
      set { p with depth := p.depth + 1 }
      let a ← step
      modify fun q => { q with depth := p.depth }
      pure a : Parse α) :=
    (FailsOnly.set _).bind fun _ => h.bind fun _ => (FailsOnly.modified _).bind fun _ => .pure _
  exact (FailsOnly.get).bind fun p => .ite ((stops_throw p.lexer.cursor.index hl).bind fun _ => hstep p) (hstep p)

theorem stops_peek : Stops peek := (stops_lexing Lexing.stops_front).bind fun _ => .pure _

theorem stops_skip : Stops skip := stops_lexing Lexing.stops_take

theorem stops_sees (ts : List Token) : Stops (sees ts) := (stops_peek).bind fun _ => .pure _

theorem stops_accept (t : Token) : Stops (accept t) :=
  (stops_peek).bind fun _ => .ite ((stops_skip).bind fun _ => .pure _) (.pure _)

theorem stops_expect (t : Token) : Stops (expect t) :=
  (stops_accept t).bind fun _ => .ite (stops_fail _) (.pure _)

theorem stops_anchor? : Stops anchor? := by
  refine (stops_peek).bind fun t => ?_
  split
  · exact (stops_skip).bind fun _ => .pure _
  · exact .pure _

theorem stops_tag? : Stops tag? := by
  refine (stops_peek).bind fun t => ?_
  split
  · exact (stops_skip).bind fun _ => .pure _
  · refine (FailsOnly.get).bind fun p => ?_
    split
    · exact (stops_skip).bind fun _ => .pure _
    · exact stops_fail _
  · exact .pure _

theorem stops_properties : Stops properties :=
  (stops_anchor?).bind fun
    | some _ => (stops_tag?).bind fun _ => .pure _
    | none => (stops_tag?).bind fun _ => (stops_anchor?).bind fun _ => .pure _

theorem stops_checkAnchor (p : Properties) : Stops (checkAnchor p) := by
  unfold checkAnchor
  split
  · exact .pure _
  · exact (FailsOnly.get).bind fun _ => .ite (stops_fail _) (.pure _)

theorem stops_add (p : Properties) (n : Node) : Stops (add p n) :=
  (FailsOnly.get).bind fun _ => (FailsOnly.set _).bind fun _ => .pure _

theorem stops_addEmpty : Stops addEmpty := stops_add _ _

theorem stops_addList (p : Properties) {items : Parse (List Nat)} (h : Stops items) :
    Stops (addList p items) :=
  (stops_add _ _).bind fun _ => h.bind fun _ => (FailsOnly.modified _).bind fun _ => .pure _

theorem stops_addMapping (p : Properties) {entries : Parse (List (Nat × Nat))} (h : Stops entries) :
    Stops (addMapping p entries) :=
  (stops_add _ _).bind fun _ => h.bind fun _ => (FailsOnly.modified _).bind fun _ => .pure _

theorem stops_anchored (name : Text) : Stops (anchored name) := by
  refine (FailsOnly.get).bind fun p => ?_
  split
  · exact .pure _
  · exact stops_fail _

mutual

theorem stops_node (place : Place) : (n : Nat) → Stops (node place n)
  | 0 => stops_fail _
  | n + 1 => by
    refine (stops_peek).bind fun t => ?_
    split
    · exact (stops_skip).bind fun _ => stops_anchored _
    · exact (stops_properties).bind fun p => stops_content place p n

theorem stops_content (place : Place) (p : Properties) : (n : Nat) → Stops (content place p n)
  | 0 => stops_fail _
  | n + 1 => by
    refine (stops_peek).bind fun t => ?_
    split
    · exact (stops_skip).bind fun _ => (stops_checkAnchor p).bind fun _ => stops_add _ _
    · refine (stops_checkAnchor p).bind fun _ => stops_addList p ?_
      exact stops_deeper isFault_bracketDepth ((stops_skip).bind fun _ => stops_bracketItems true n)
    · refine (stops_checkAnchor p).bind fun _ => stops_addMapping p ?_
      exact stops_deeper isFault_nodeDepth ((stops_skip).bind fun _ => stops_bracketEntries true n)
    · refine .ite ?_ (.ite ?_ (.ite ?_ (.ite ?_ (stops_fail _))))
      · exact (stops_checkAnchor p).bind fun _ =>
          stops_addList p (stops_deeper isFault_nodeDepth (stops_flushItems n))
      · exact (stops_checkAnchor p).bind fun _ =>
          stops_addList p (stops_deeper isFault_nodeDepth ((stops_skip).bind fun _ => stops_blockItems n))
      · exact (stops_checkAnchor p).bind fun _ =>
          stops_addMapping p (stops_deeper isFault_nodeDepth ((stops_skip).bind fun _ => stops_blockEntries n))
      · exact (stops_checkAnchor p).bind fun _ => stops_add _ _

theorem stops_nodeUnless (ends : List Token) (place : Place) : (n : Nat) → Stops (nodeUnless ends place n)
  | 0 => stops_fail _
  | n + 1 => (stops_sees ends).bind fun _ => .ite stops_addEmpty (stops_node place n)

theorem stops_valueUnless (ends : List Token) (place : Place) :
    (n : Nat) → Stops (valueUnless ends place n)
  | 0 => stops_fail _
  | n + 1 => (stops_accept _).bind fun _ => .ite (stops_nodeUnless ends place n) stops_addEmpty

theorem stops_blockItems : (n : Nat) → Stops (blockItems n)
  | 0 => stops_fail _
  | n + 1 => (stops_accept _).bind fun _ => .ite
    ((stops_nodeUnless _ _ n).bind fun _ => (stops_blockItems n).bind fun _ => .pure _)
    ((stops_expect _).bind fun _ => .pure _)

theorem stops_flushItems : (n : Nat) → Stops (flushItems n)
  | 0 => stops_fail _
  | n + 1 => (stops_accept _).bind fun _ => .ite
    ((stops_nodeUnless _ _ n).bind fun _ => (stops_flushItems n).bind fun _ => .pure _) (.pure _)

theorem stops_blockEntries : (n : Nat) → Stops (blockEntries n)
  | 0 => stops_fail _
  | n + 1 => (stops_accept _).bind fun _ => .ite
    ((stops_nodeUnless _ _ n).bind fun _ => (stops_valueUnless _ _ n).bind fun _ =>
      (stops_blockEntries n).bind fun _ => .pure _)
    ((stops_expect _).bind fun _ => .pure _)

theorem stops_bracketItems (first : Bool) : (n : Nat) → Stops (bracketItems first n)
  | 0 => stops_fail _
  | n + 1 => by
    have hnext : Stops (do
        if ← sees [.key] then
          let a ← addMapping {} (deeper .nodeDepth do
            skip
            let k ← nodeUnless [.value, .comma, .closeList] .inBrackets n
            let v ← valueUnless [.comma, .closeList] .inBrackets n
            pure [(k, v)])
          pure (a :: (← bracketItems false n))
        else if ← accept .closeList then pure []
        else
          let a ← node .inBrackets n
          pure (a :: (← bracketItems false n)) : Parse (List Nat)) := by
      refine (stops_sees _).bind fun _ => .ite ?_ ((stops_accept _).bind fun _ => .ite (.pure _) ?_)
      · refine (stops_addMapping _ (stops_deeper isFault_nodeDepth ?_)).bind fun _ =>
          (stops_bracketItems false n).bind fun _ => .pure _
        exact (stops_skip).bind fun _ => (stops_nodeUnless _ _ n).bind fun _ =>
          (stops_valueUnless _ _ n).bind fun _ => .pure _
      · exact (stops_node _ n).bind fun _ => (stops_bracketItems false n).bind fun _ => .pure _
    exact (stops_accept _).bind fun _ => .ite (.pure _) <|
      .ite ((stops_expect _).bind fun _ => hnext) hnext

theorem stops_bracketEntries (first : Bool) : (n : Nat) → Stops (bracketEntries first n)
  | 0 => stops_fail _
  | n + 1 => by
    have hnext : Stops (do
        if ← accept .key then
          let k ← nodeUnless [.value, .comma, .closeMapping] .inBrackets n
          let v ← valueUnless [.comma, .closeMapping] .inBrackets n
          pure ((k, v) :: (← bracketEntries false n))
        else if ← accept .closeMapping then pure []
        else
          let k ← node .inBrackets n
          pure ((k, ← addEmpty) :: (← bracketEntries false n)) : Parse (List (Nat × Nat))) := by
      refine (stops_accept _).bind fun _ => .ite ?_ ((stops_accept _).bind fun _ => .ite (.pure _) ?_)
      · exact (stops_nodeUnless _ _ n).bind fun _ => (stops_valueUnless _ _ n).bind fun _ =>
          (stops_bracketEntries false n).bind fun _ => .pure _
      · exact (stops_node _ n).bind fun _ => (stops_addEmpty).bind fun _ =>
          (stops_bracketEntries false n).bind fun _ => .pure _
    exact (stops_accept _).bind fun _ => .ite (.pure _) <|
      .ite ((stops_expect _).bind fun _ => hnext) hnext

end

theorem stops_directives : (n : Nat) → (versioned : Bool) → Stops (directives n versioned)
  | 0, _ => .pure _
  | n + 1, versioned => by
    refine (stops_peek).bind fun t => ?_
    split
    · split
      · exact .ite ((stops_fail _).bind fun _ => (stops_skip).bind fun _ => stops_directives n true)
          ((stops_skip).bind fun _ => stops_directives n true)
      · have hnext (name beginning : Text) : Stops (do
            skip
            modify fun s => { s with handles := s.handles ++ [(name, beginning)] }
            directives n versioned : Parse Unit) :=
          (stops_skip).bind fun _ => (FailsOnly.modified _).bind fun _ => stops_directives n versioned
        exact (FailsOnly.get).bind fun _ => .ite ((stops_fail _).bind fun _ => hnext _ _) (hnext _ _)
      · exact (stops_skip).bind fun _ => stops_directives n versioned
    · exact .pure _

theorem stops_documentEnds : (n : Nat) → Stops (documentEnds n)
  | 0 => .pure _
  | n + 1 => (stops_accept _).bind fun _ => .ite (stops_documentEnds n) (.pure _)

theorem stops_documentNode (depth : Nat) : Stops (documentNode depth) :=
  (FailsOnly.modified _).bind fun _ => stops_node _ depth

theorem stops_document (depth : Nat) : Stops (document depth) := by
  refine (stops_peek).bind fun t => ?_
  cases t with
  | none => exact .pure _
  | some t =>
    have hend (n : Nat) : Stops (do
        documentEnds depth
        if (← peek).isSome then fail .secondDocument
        pure (some n) : Parse (Option Nat)) :=
      (stops_documentEnds depth).bind fun _ => (stops_peek).bind fun _ =>
        .ite ((stops_fail _).bind fun _ => .pure _) (.pure _)
    have hcontent : Stops (do
        let n ← if isExplicit t && atDocumentEnd (← peek) then addEmpty else documentNode depth
        documentEnds depth
        if (← peek).isSome then fail .secondDocument
        pure (some n) : Parse (Option Nat)) :=
      (stops_peek).bind fun _ => .ite ((stops_addEmpty).bind fun _ => hend _)
        ((stops_documentNode depth).bind fun _ => hend _)
    exact .ite ((stops_directives depth false).bind fun _ => (stops_expect _).bind fun _ => hcontent) hcontent

end Parse

/-- parsing a text stops only with mistakes and with faults of settings files -/
theorem isExpected_of_ofText? {t : Text} {stop : Stop} (h : Document.ofText? t = .error stop) :
    stop.failure.IsExpected := by
  unfold Document.ofText? at h
  split at h
  · cases h
  · rename_i stop' hstop
    cases h
    exact Parse.stops_document _ _ _ hstop

end Yaml
end DatabaseTypes
