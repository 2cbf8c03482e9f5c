import DatabaseTypes.Proofs.Commented.Page

/-!
# Scanning the output

Whatever the names and the documentation of a model say, a reader who goes through the output ends
in code, with every bracket closed and no string literal broken by a line end.

* `Scan.closed_of_run`       what the reader waits for outside a text does not matter to the text
* `Emission.closed_page`     the output for an outline
* `run_generateTypes`        the output for a model
-/

namespace DatabaseTypes

namespace Scan

/-! ## brackets further out -/

theorem inCode_append {pending : List Char} {s : Scan} {c : Char} (h : inCode pending c = some s)
    (rest : List Char) : inCode (pending ++ rest) c = some ⟨s.mode, s.pending ++ rest⟩ := by
  unfold inCode at h ⊢
  by_cases hq : c = '"'
  · rw [if_pos hq] at h ⊢; cases h; rfl
  by_cases ha : c = '\''
  · rw [if_neg hq, if_pos ha] at h ⊢; cases h; rfl
  by_cases hs : c = '/'
  · rw [if_neg hq, if_neg ha, if_pos hs] at h ⊢; cases h; rfl
  rw [if_neg hq, if_neg ha, if_neg hs] at h ⊢
  cases ho : closing? c with
  | some d => rw [ho] at h; cases h; rfl
  | none =>
    rw [ho] at h
    by_cases hc : isClosing c = true
    · simp only [hc, if_true] at h ⊢
      cases pending with
      | nil => cases h
      | cons d pending =>
        by_cases hd : c = d
        · simp only [hd, if_true] at h
          cases h
          simp [hd]
        · simp only [hd, if_false] at h
          cases h
    · simp only [hc] at h ⊢
      cases h
      rfl

/-- the reader takes a character alike if it waits for more brackets -/
theorem step_append {s s' : Scan} {c : Char} (h : s.step c = some s') (rest : List Char) :
    step ⟨s.mode, s.pending ++ rest⟩ c = some ⟨s'.mode, s'.pending ++ rest⟩ := by
  obtain ⟨mode, pending⟩ := s
  cases mode with
  | code => exact inCode_append h rest
  | slash =>
    simp only [step] at h ⊢
    by_cases hc : c = '*'
    · rw [if_pos hc] at h ⊢
      cases h
      rfl
    · rw [if_neg hc] at h ⊢
      exact inCode_append h rest
  | double | single =>
    simp only [step, inString] at h ⊢
    grind
  | doubleEscape | singleEscape =>
    simp only [step, afterBackslash] at h ⊢
    grind
  | comment | star =>
    cases h
    rfl

theorem run_pending_append {s s' : Scan} {t : Text} (h : s.run t = some s') (rest : List Char) :
    run ⟨s.mode, s.pending ++ rest⟩ t = some ⟨s'.mode, s'.pending ++ rest⟩ := by
  induction t generalizing s with
  | nil => cases h; rfl
  | cons c t ih =>
    rw [run] at h
    cases hs : s.step c with
    | none => rw [hs] at h; cases h
    | some r =>
      rw [hs] at h
      rw [run_cons (step_append hs rest), ih h]

/-- a text that the reader goes through from the start is closed -/
theorem closed_of_run {t : Text} (h : run start t = some start) : Closed t :=
  fun pending => run_pending_append h pending

theorem closed_joined {sep : Text} (hsep : Closed sep) {ts : List Text} (h : ∀ t ∈ ts, Closed t) :
    Closed (Text.joined sep ts) := by
  induction ts with
  | nil => exact closed_nil
  | cons t ts ih =>
    have ht := h t List.mem_cons_self
    have hts := ih fun u hu => h u (List.mem_cons_of_mem _ hu)
    by_cases e : ts = []
    · rw [e, Text.joined_single]; exact ht
    · rw [Text.joined_cons sep t ts e]
      exact (ht.append hsep).append hts

end Scan

/-! ## the declarations around the type of the database -/

namespace Accessors

theorem closed_jsonAlias : Scan.Closed jsonAlias := by
  refine Scan.closed_of_run ?_
  unfold jsonAlias
  repeat rw [String.toList_ofList]
  decide +kernel

/-- the declarations that give the parts of the database their names -/
theorem closed_declarations : ∀ ls ∈ [publicSchema, tables, tablesInsert, tablesUpdate, enums,
    compositeTypes], Scan.Closed (Text.joined "\n" ls) := by
  intro ls h
  refine Scan.closed_of_run ?_
  simp only [List.mem_cons, List.not_mem_nil, or_false] at h
  rcases h with rfl | rfl | rfl | rfl | rfl | rfl
  all_goals
    simp only [publicSchema, tables, tablesInsert, tablesUpdate, enums, compositeTypes]
    repeat rw [String.toList_ofList]
    decide +kernel

theorem closed_text : Scan.Closed text := by
  have hline : Scan.Closed ['\n'] := Scan.closed_plain rfl
  refine Scan.Closed.append (Scan.closed_joined (hline.append hline) fun t ht => ?_) hline
  obtain ⟨ls, hls, rfl⟩ := List.mem_map.mp ht
  exact closed_declarations ls hls

end Accessors

/-! ## the output -/

theorem closed_of_plain {t : Text} (h : Plain t) : Scan.Closed t := by
  obtain ⟨_, hc⟩ := bare_of_plain h true
  exact hc.closed

theorem Emission.closed_frame {block : Layout} (h : Scan.Closed block.text) :
    Scan.Closed (Emission.frame [block]).text := by
  have hline : Scan.Closed ['\n'] := Scan.closed_plain rfl
  have htitle : Scan.Closed "export type Database = ".toList := closed_of_plain (plain_constant rfl)
  have hbraces : Scan.Closed ('\x7b' :: (['\n'] ++ block.text ++ ['\n']) ++ ['\x7d']) :=
    Scan.closed_enclosed rfl ((hline.append h).append hline)
  rw [Emission.text_frame]
  exact (((((((hline.append Accessors.closed_jsonAlias).append (hline.append hline)).append
    htitle).append hbraces).append (hline.append (hline.append hline))).append
      Accessors.closed_text).append hline)

theorem plain_standard (x : Scalar) : Plain (ScalarTable.standard x) := by
  cases x <;> exact plain_constant rfl

/-- **The output can be read to its end.** Whatever a model says, as long as the names that stand
in the output as they are are identifiers, the output ends in code, with every bracket closed by its
partner and no line end in a string literal. -/
theorem run_generateTypes {datamodel : Json} {documentation : Bool} {t : Text} {s : Schema}
    (h : generateTypes datamodel documentation = .ok t) (hs : Schema.ofJson datamodel = .ok s)
    (hn : s.isWellNamed = true) : Scan.run Scan.start t = some Scan.start := by
  obtain ⟨s', o, hs', ho, rfl⟩ := generateTypes_eq_ok_iff.mp h
  cases hs.symm.trans hs'
  obtain ⟨_, hw⟩ := Emission.woven_block { documentation } plain_standard
    ((Schema.keyed_ofJson hs).outline ho) (Schema.wellNamed_outline ho hn)
  exact Emission.closed_frame hw.closed []

/-- a model whose names and comments would break out of where they stand if they could -/
def Json.breakout : Json :=
  .object
    [("models", .list [.object
      [("name", "a\"\n*/ \x7d"), ("documentation", "*/ [\r\n*/"),
       ("fields", .list
        [.object [("name", "e"), ("kind", "enum"), ("type", "E"), ("documentation", "*/ \"")]])]]),
     ("enums", .list [.object
      [("name", "E\\"), ("values", .list [.object [("name", "\"*/'"), ("documentation", "**/")]])]])]

theorem run_generateTypes_breakout : ∃ t, generateTypes .breakout true = .ok t
    ∧ Scan.run Scan.start t = some Scan.start := by
  have h : ∃ t, generateTypes .breakout true = .ok t := ⟨_, rfl⟩
  have hs : ∃ s, Schema.ofJson .breakout = .ok s ∧ s.isWellNamed = true := ⟨_, rfl, rfl⟩
  obtain ⟨t, ht⟩ := h
  obtain ⟨s, hs, hn⟩ := hs
  exact ⟨t, ht, run_generateTypes ht hs hn⟩

end DatabaseTypes
