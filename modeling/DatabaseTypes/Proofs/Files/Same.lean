import DatabaseTypes.Proofs.Files

/-!
# The same files but for some

Files that are the same but for the bytes of some regular files are the same to every question and change, and stay
so.

* `Files.SameBut`    the same entries, but for the bytes of the regular files at some locations
* `Files.SameBut.locate`, `Files.SameBut.holds`   questions have the same answers
* `Files.SameBut.update`, `Files.SameBut.makeDirectoriesFrom`   changes end alike
-/

namespace DatabaseTypes

open Outcome

namespace Files

/-- the same entries, but for the bytes of the regular files at some locations -/
def SameBut (ls : List Location) (files files' : Files) : Prop :=
  ∀ l, files'.find? l = files.find? l
    ∨ l ∈ ls ∧ (∃ bytes, files.find? l = some (.file bytes)) ∧ ∃ bytes, files'.find? l = some (.file bytes)

namespace SameBut

variable {ls : List Location} {files files' files'' : Files} {here l : Location} {p : Path}

theorem refl (ls : List Location) (files : Files) : SameBut ls files files := fun _ => .inl rfl

theorem symm (h : SameBut ls files files') : SameBut ls files' files := fun l =>
  (h l).imp Eq.symm fun ⟨hl, hb, hb'⟩ => ⟨hl, hb', hb⟩

theorem trans (h : SameBut ls files files') (h' : SameBut ls files' files'') :
    SameBut ls files files'' := by
  intro l
  rcases h l with e | ⟨hl, hb, hb'⟩
  · rcases h' l with e' | ⟨hl, hb, hb'⟩
    · exact .inl (e'.trans e)
    · exact .inr ⟨hl, e ▸ hb, hb'⟩
  · rcases h' l with e' | ⟨_, _, hb''⟩
    · exact .inr ⟨hl, hb, e' ▸ hb'⟩
    · exact .inr ⟨hl, hb, hb''⟩

theorem mono {ms : List Location} (h : SameBut ls files files') (hs : ls ⊆ ms) : SameBut ms files files' :=
  fun l => (h l).imp_right fun ⟨hl, hb⟩ => ⟨hs hl, hb⟩

theorem find? (h : SameBut ls files files') (hl : l ∉ ls) : files'.find? l = files.find? l :=
  (h l).resolve_right fun hr => hl hr.1

theorem bytesAt? (h : SameBut ls files files') (hl : l ∉ ls) : files'.bytesAt? l = files.bytesAt? l := by
  rw [Files.bytesAt?, h.find? hl, Files.bytesAt?]

/-- an entry that is set is the same, or that of a location that is left out of account -/
theorem set (h : SameBut ls files files') (hl : l ≠ []) {e e' : Entry}
    (he : e' = e ∨ l ∈ ls ∧ (∃ bytes, e = .file bytes) ∧ ∃ bytes, e' = .file bytes) :
    SameBut ls (files.set l e) (files'.set l e') := by
  intro m
  rw [find?_set files hl, find?_set files' hl]
  by_cases hm : m = l
  · rw [if_pos hm, if_pos hm, hm]
    rcases he with rfl | ⟨hmem, ⟨bytes, rfl⟩, bytes', rfl⟩
    · exact .inl rfl
    · exact .inr ⟨hmem, ⟨bytes, rfl⟩, bytes', rfl⟩
  · rw [if_neg hm, if_neg hm]
    exact h m

/-! ## questions -/

theorem walk (h : SameBut ls files files') (l : Location) (parts : List Text) :
    files'.walk l parts = files.walk l parts := by
  induction parts generalizing l with
  | nil => rfl
  | cons part rest ih =>
    rw [Files.walk, Files.walk, ih l.dropLast, ih (l ++ [part])]
    rcases h l with e | ⟨_, ⟨bytes, hb⟩, bytes', hb'⟩
    · rw [e]
    · rw [hb, hb']

theorem locate (h : SameBut ls files files') (here : Location) (p : Path) :
    files'.locate here p = files.locate here p := by
  rw [Files.locate, Files.locate, h.walk]

theorem entry (h : SameBut ls files files') (here : Location) (p : Path) :
    files'.entry here p = files.entry here p
      ∨ (∃ bytes, files.entry here p = .ok (.file bytes)) ∧ ∃ bytes, files'.entry here p = .ok (.file bytes) := by
  unfold Files.entry
  rw [h.locate]
  cases files.locate here p with
  | error cause => exact .inl rfl
  | ok l =>
    dsimp only [bind, Except.bind]
    rcases h l with e | ⟨_, ⟨bytes, hb⟩, bytes', hb'⟩
    · rw [e]
      exact .inl rfl
    · rw [hb, hb']
      exact .inr ⟨⟨bytes, rfl⟩, bytes', rfl⟩

theorem holds (h : SameBut ls files files') (here : Location) (p : Path) {test : Entry → Bool}
    (htest : ∀ bytes bytes', test (.file bytes) = test (.file bytes')) :
    files'.holds here p test = files.holds here p test := by
  rw [Files.holds, Files.holds]
  rcases h.entry here p with e | ⟨⟨bytes, hb⟩, bytes', hb'⟩
  · rw [e]
  · rw [hb, hb']
    dsimp only
    rw [htest bytes bytes']

/-! ## changes -/

theorem makeDirectory (h : SameBut ls files files') (here : Location) (p : Path) :
    Related (SameBut ls) (files.makeDirectory here p) (files'.makeDirectory here p) := by
  unfold Files.makeDirectory
  rw [h.locate]
  cases files.locate here p with
  | error cause => exact rfl
  | ok l =>
    dsimp only [bind, Except.bind]
    have hsome : (files'.find? l).isSome = (files.find? l).isSome := by
      rcases h l with e | ⟨_, ⟨bytes, hb⟩, bytes', hb'⟩
      · rw [e]
      · rw [hb, hb']
        rfl
    rw [hsome]
    split
    · exact rfl
    · rename_i hthere
      have hl : l ≠ [] := by
        rintro rfl
        exact hthere (.inr rfl)
      rcases h l.dropLast with e | ⟨_, ⟨bytes, hb⟩, bytes', hb'⟩
      · rw [e]
        split
        · exact rfl
        · exact rfl
        · exact h.set hl (.inl rfl)
      · rw [hb, hb']
        exact rfl

theorem ensureDirectory (h : SameBut ls files files') (here : Location) (p : Path) (cause : SystemCause) :
    (files'.ensureDirectory here p cause).map (fun _ => ())
      = (files.ensureDirectory here p cause).map fun _ => () := by
  unfold Files.ensureDirectory isDirectory?
  rw [h.holds here p fun _ _ => rfl]
  rcases files.holds here p fun e => e == .directory with f | (_ | _)
  · rfl
  · rfl
  · rfl

/-- the same end, and the same entries -/
def Ends (ls : List Location) (x x' : Files × Except Fault Unit) : Prop :=
  x'.2 = x.2 ∧ SameBut ls x.1 x'.1

theorem makeDirectoriesFrom_zero (h : SameBut ls files files') (here : Location) (p : Path) :
    Ends ls (files.makeDirectoriesFrom here 0 p) (files'.makeDirectoriesFrom here 0 p) := by
  unfold Files.makeDirectoriesFrom
  split
  · exact ⟨rfl, h⟩
  · match files.makeDirectory here p, files'.makeDirectory here p, h.makeDirectory here p with
    | .ok _, .ok _, hmade => exact ⟨rfl, hmade⟩
    | .error cause, .error _, rfl =>
      dsimp only
      split
      · contradiction
      · exact ⟨rfl, h⟩
      · exact ⟨h.ensureDirectory here p _, h⟩

theorem makeDirectoriesFrom (h : SameBut ls files files') (here : Location) (depth : Nat) (p : Path) :
    Ends ls (files.makeDirectoriesFrom here depth p) (files'.makeDirectoriesFrom here depth p) := by
  induction depth generalizing files files' p with
  | zero => exact h.makeDirectoriesFrom_zero here p
  | succ depth ih =>
    unfold Files.makeDirectoriesFrom
    split
    · exact ⟨rfl, h⟩
    · rename_i hp
      match files.makeDirectory here p, files'.makeDirectory here p, h.makeDirectory here p with
      | .ok _, .ok _, hmade => exact ⟨rfl, hmade⟩
      | .error cause, .error _, rfl =>
        dsimp only
        split
        · contradiction
        · by_cases hparts : p.parts = []
          · rw [if_pos hparts, if_pos hparts]
            exact ⟨rfl, h⟩
          rw [if_neg hparts, if_neg hparts]
          have habove := ih h p.parent
          generalize Files.makeDirectoriesFrom here depth files p.parent = x at habove ⊢
          generalize Files.makeDirectoriesFrom here depth files' p.parent = x' at habove ⊢
          obtain ⟨above, r⟩ := x
          obtain ⟨above', r'⟩ := x'
          obtain ⟨rfl, hsame⟩ : r' = r ∧ SameBut ls above above' := habove
          cases r' with
          | error f => exact ⟨rfl, hsame⟩
          -- the directory is tried once more
          | ok made =>
            have hagain := hsame.makeDirectoriesFrom_zero here p
            simp only [Files.makeDirectoriesFrom] at hagain
            exact hagain
        · exact ⟨h.ensureDirectory here p _, h⟩

theorem update (h : SameBut ls files files') (here : Location) (p : Path) (change : Bytes → Bytes) :
    Related (SameBut ls) (files.update here p change) (files'.update here p change) := by
  unfold Files.update
  rw [h.locate]
  split
  · exact rfl
  · cases files.locate here p with
    | error cause => exact rfl
    | ok l =>
      dsimp only
      by_cases hl : l = []
      · subst hl
        exact rfl
      rcases h l with e | ⟨hmem, ⟨bytes, hb⟩, bytes', hb'⟩
      · rw [e]
        split
        · exact rfl
        · exact h.set hl (.inl rfl)
        · exact h.set hl (.inl rfl)
      · rw [hb, hb']
        exact h.set hl (.inr ⟨hmem, ⟨_, rfl⟩, _, rfl⟩)

/-- what is added to a file that is left out of account -/
theorem extend (files : Files) {l : Location} (hl : l ∈ ls) (bytes : Bytes) :
    SameBut ls files (files.extend l bytes) := by
  unfold Files.extend
  split
  · rename_i old hold
    have hne : l ≠ [] := by
      rintro rfl
      cases hold
    intro m
    rw [find?_set files hne]
    split
    · rename_i hm
      exact .inr ⟨hm ▸ hl, ⟨old, hm ▸ hold⟩, _, rfl⟩
    · exact .inl rfl
  · exact .refl ls files

end SameBut

end Files
end DatabaseTypes
