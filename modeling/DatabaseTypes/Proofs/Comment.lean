import DatabaseTypes.Proofs.Commented.Page

/-!
# What comments say

The lines of a comment, put together at any indentation, are one comment, which ends where its text ends.  What they
say is the documentation, line by line: at the end of a line there is no white space, and the token that closes a
comment is broken up.

* `IsComment`              one comment
* `isComment_of_unending`  it goes on as long as no comment ends in it
* `Comment.said`           what is left of a line in a block
* `Comment.Renders`        the lines of a comment for documentation that goes on with other lines
* `Comment.renders`        the comments of documentation and of enums
-/

namespace DatabaseTypes

/-! ## one comment -/

/-- a text is one comment: it begins as one, and the token that closes it stands at its end and nowhere else -/
structure IsComment (t : Text) : Prop where
  framed : ∃ body, t = ['/', '*', '*'] ++ body ++ ['*', '/']
  once : ∀ a b, t = a ++ ['*', '/'] ++ b → b = []

theorem isComment_of_unending {body : Text} (h : Scan.Unending ('*' :: body)) :
    IsComment ('/' :: '*' :: ('*' :: body) ++ ['*', '/']) := by
  have hopen : Scan.Unending ('/' :: '*' :: ('*' :: body)) := by
    refine .cons (.cons h ?_) ?_ <;> rintro d hd ⟨h₁, h₂⟩
    · cases hd
      cases h₂
    · cases h₁
  have hstar : Scan.Unending ('/' :: '*' :: ('*' :: body) ++ ['*']) :=
    hopen.append (.singleton '*') fun c hc => by cases hc; decide
  refine ⟨⟨body, rfl⟩, fun a b e => ?_⟩
  rcases List.eq_nil_or_concat' b with rfl | ⟨init, c, rfl⟩
  · rfl
  · -- the token would stand in the text before the last slash
    rw [List.append_cons _ '*' ['/'], ← List.append_assoc _ init] at e
    obtain ⟨e, _⟩ := List.append_inj' e rfl
    rw [e, List.append_assoc] at hstar
    have hpair : Scan.Unending (['*', '/'] ++ init) := (List.isChain_append.mp hstar).2.1
    exact absurd ⟨rfl, rfl⟩ (List.isChain_cons_cons.mp hpair).1

theorem Text.joined_map_append (sep indent t : Text) (ts : List Text) :
    joined sep ((t :: ts).map (indent ++ ·)) = indent ++ joined (sep ++ indent) (t :: ts) := by
  rw [List.map_cons, joined_cons_eq_flatMap, joined_cons_eq_flatMap, List.append_assoc, List.flatMap_map]
  refine congrArg (fun u => indent ++ (t ++ u)) (List.flatMap_congr fun u _ => ?_)
  rw [List.append_assoc]

/-- the lines of one comment, put together at some indentation -/
theorem Sealed.isComment {ls : List Text} (h : Sealed ls) (n : Nat) :
    Text.joined ('\n' :: Text.spaces n) ls = [] ∧ ls = []
      ∨ IsComment (Text.joined ('\n' :: Text.spaces n) ls) := by
  cases ls with
  | nil => exact .inl ⟨rfl, rfl⟩
  | cons l ls =>
    obtain ⟨body, hbody, e⟩ := (h n).resolve_left (List.cons_ne_nil l ls)
    rw [Text.joined_map_append] at e
    rw [show '\n' :: Text.spaces n = ['\n'] ++ Text.spaces n from rfl, List.append_cancel_left e]
    exact .inr (isComment_of_unending hbody)

/-! ## what it says -/

namespace Comment

/-- what a block says of a line: the line without white space at its end, in which no comment ends -/
def said (line : Text) : Text := Text.trimEnd (escaped line)

/-- a line of a block without the star in front of it and the space after that -/
def withoutStar : Text → Text
  | ' ' :: '*' :: ' ' :: t => t
  | ' ' :: '*' :: t => t
  | t => t

theorem blockLine_eq (line : Text) :
    blockLine line = if said line = [] then [' ', '*'] else ' ' :: '*' :: ' ' :: said line := by
  show Text.trimEnd (' ' :: '*' :: ' ' :: escaped line) = _
  rw [Text.trimEnd, Text.trimEnd, Text.trimEnd, said]
  cases Text.trimEnd (escaped line) with
  | nil => rfl
  | cons c t => rfl

theorem withoutStar_blockLine (line : Text) : withoutStar (blockLine line) = said line := by
  rw [blockLine_eq]
  split
  · rename_i h
    rw [h]
    rfl
  · rfl

theorem star_blockLine (line : Text) : [' ', '*'] <+: blockLine line := by
  rw [blockLine_eq]
  split
  · exact List.prefix_refl _
  · exact ⟨' ' :: said line, rfl⟩

/-- these are the lines of the comment for documentation that goes on with other lines: put together at any
indentation they are one comment, and none exactly if there is nothing to say; a single line of documentation stands
in one line, and whatever is more is a block that says one line after the other -/
structure Renders (lines documentation others : List Text) : Prop where
  comment : ∀ n, Text.joined ('\n' :: Text.spaces n) lines = [] ∨ IsComment (Text.joined ('\n' :: Text.spaces n) lines)
  empty : ∀ n, Text.joined ('\n' :: Text.spaces n) lines = [] ↔ documentation = [] ∧ others = []
  single : ∀ line, documentation = [line] → others = [] → lines = [opening ++ " " ++ escaped line ++ closing]
  block : others ≠ [] ∨ 2 ≤ documentation.length → ∃ inner, lines = opening :: inner ++ [closing]
    ∧ (∀ line ∈ inner, [' ', '*'] <+: line) ∧ inner.map withoutStar = (documentation ++ others).map said

section
variable {lines documentation others : List Text}

theorem Renders.of_sealed (hsealed : Sealed lines) (hnil : lines = [] ↔ documentation = [] ∧ others = [])
    (hsingle : ∀ line, documentation = [line] → others = [] → lines = [opening ++ " " ++ escaped line ++ closing])
    (hblock : others ≠ [] ∨ 2 ≤ documentation.length →
      lines = opening :: (documentation ++ others).map blockLine ++ [closing]) :
    Renders lines documentation others := by
  refine ⟨fun n => (hsealed.isComment n).imp_left And.left, fun n => ?_, hsingle, fun h => ⟨_, hblock h, ?_, ?_⟩⟩
  · rw [← hnil]
    constructor
    · intro hjoined
      rcases hsealed.isComment n with ⟨_, h⟩ | ⟨⟨body, h⟩, _⟩
      · exact h
      · rw [hjoined] at h
        cases h
    · rintro rfl
      rfl
  · intro line hline
    obtain ⟨l, _, rfl⟩ := List.mem_map.mp hline
    exact star_blockLine l
  · rw [List.map_map]
    exact List.map_congr_left fun l _ => withoutStar_blockLine l

theorem renders_ofLines (documentation : List Text) : Renders (ofLines documentation) documentation [] := by
  refine .of_sealed (sealed_ofLines _) ?_ ?_ ?_
  · match documentation with
    | [] => simp [ofLines]
    | [_] => simp [ofLines]
    | _ :: _ :: _ => simp [ofLines]
  · rintro line rfl -
    rfl
  · rintro (h | h)
    · exact absurd rfl h
    · rw [List.append_nil]
      match documentation, h with
      | _ :: _ :: _, _ => rfl

theorem renders_block (h : others ≠ []) :
    Renders (opening :: (documentation ++ others).map blockLine ++ [closing]) documentation others := by
  refine .of_sealed (sealed_block _) ?_ (fun _ _ hnil => absurd hnil h) fun _ => rfl
  exact iff_of_false (List.cons_ne_nil _ _) fun hnil => h hnil.2

theorem renders_ofEnum (x : Enum) : Renders (ofEnum x) x.documentation (variantLines x) := by
  unfold ofEnum
  split
  · rename_i hnil
    rw [hnil]
    exact renders_ofLines _
  · rename_i hne
    exact renders_block hne

end

theorem variantLines_eq_nil_iff (x : Enum) : variantLines x = [] ↔ ∀ v ∈ x.variants, v.documentation = [] := by
  rw [variantLines, List.map_eq_nil_iff, List.filter_eq_nil_iff]
  simp

/-- **What comments say.** The comment of documentation says its lines.  The comment of an enum says its own lines and
then one line for each documented variant, in their order, with the name and the lines that are not empty; no line of
it can end it. -/
theorem renders (documentation : List Text) (x : Enum) :
    Renders (shown true (ofLines documentation)) documentation []
    ∧ Renders (shown true (ofEnum x)) x.documentation
      ((x.variants.filter fun v => !v.documentation.isEmpty).map fun v =>
        v.name.display ++ ": " ++ Text.joined " " (v.documentation.filter fun line => !line.isEmpty))
    ∧ ∀ n, Text.joined ('\n' :: Text.spaces n) (shown true (ofEnum x)) = []
      ↔ x.documentation = [] ∧ ∀ v ∈ x.variants, v.documentation = [] := by
  refine ⟨renders_ofLines documentation, renders_ofEnum x, fun n => ?_⟩
  rw [← variantLines_eq_nil_iff]
  exact (renders_ofEnum x).empty n

/-- a documented variant under a line of its own -/
example : ofEnum { name := "e", key := "e", documentation := ["a */ b "]
                   variants := [{ name := "v", documentation := ["", "*/", "**//"] }, { name := "w" }] }
    = ["/**", " * a *\\/ b", " * v: *\\/ **\\//", " */"] := by decide

end Comment
end DatabaseTypes
