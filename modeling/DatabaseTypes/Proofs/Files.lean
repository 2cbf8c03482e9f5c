import DatabaseTypes.Files
import DatabaseTypes.Proofs.Outcome

/-!
# What becomes of files

Making directories changes no regular file, and writing a file changes that one alone.  A path keeps its
meaning as long as the directories stay.

* `Files.bytesAt?`           the bytes of the regular file at a location
* `Files.Kept`               the regular files outside some locations are the same, and no directory is gone
* `Files.kept_makeDirectories`   making directories keeps all regular files
* `Files.exists_of_write`    what writing a file does
* `Files.Grown`              every entry is still there as it was
-/

namespace DatabaseTypes.Files

/-- the bytes of the regular file at a location, if there is one -/
def bytesAt? (files : Files) (l : Location) : Option Bytes :=
  match files.find? l with
  | some (.file bytes) => some bytes
  | _ => none

theorem find?_set (files : Files) {l : Location} (hl : l ≠ []) (e : Entry) (m : Location) :
    (files.set l e).find? m = if m = l then some e else files.find? m := by
  have hamong : ∀ xs, ((setAmong l e xs).find? (·.1 == m)).map (·.2)
      = if m = l then some e else (xs.find? (·.1 == m)).map (·.2) := by
    intro xs
    induction xs with
    | nil =>
      by_cases h : m = l
      · simp [setAmong, h]
      · simp [setAmong, h, Ne.symm h]
    | cons x xs ih =>
      rw [setAmong]
      by_cases hx : x.1 = l
      · by_cases h : m = l
        · simp [hx, h]
        · simp [hx, h, Ne.symm h]
      · rw [if_neg hx]
        by_cases h : x.1 = m
        · simp [h, show m ≠ l from fun e => hx (h.trans e)]
        · simpa [h] using ih
  unfold find?
  by_cases h : m = []
  · rw [if_pos h, if_pos h, if_neg]
    rintro rfl
    exact hl h
  · rw [if_neg h, if_neg h]
    exact hamong files.entries

/-- a way through directories leads to the same place -/
theorem walk_of_directories {files files' : Files}
    (h : ∀ l, files.find? l = some .directory → files'.find? l = some .directory) {l m : Location}
    {parts : List Text} (hw : files.walk l parts = .ok m) : files'.walk l parts = .ok m := by
  induction parts generalizing l with
  | nil => exact hw
  | cons part rest ih =>
    rw [Files.walk] at hw ⊢
    cases hf : files.find? l with
    | none =>
      rw [hf] at hw
      cases hw
    | some e =>
      cases e with
      | file bytes =>
        rw [hf] at hw
        cases hw
      | directory =>
        rw [hf] at hw
        rw [h l hf]
        dsimp only at hw ⊢
        split at hw
        · rw [if_pos ‹_›]
          exact ih hw
        · rw [if_neg ‹_›]
          split at hw
          · cases hw
          · rw [if_neg ‹_›]
            exact ih hw

theorem locate_of_directories {files files' : Files}
    (h : ∀ l, files.find? l = some .directory → files'.find? l = some .directory) {here l : Location}
    {p : Path} (hl : files.locate here p = .ok l) : files'.locate here p = .ok l := by
  unfold Files.locate at hl ⊢
  split at hl
  · cases hl
  · rw [if_neg ‹_›]
    exact walk_of_directories h hl

/-! ## files that are kept -/

/-- the regular files but for those at some locations are the same, and no directory is gone -/
structure Kept (ls : List Location) (files files' : Files) : Prop where
  bytes : ∀ l, l ∉ ls → files'.bytesAt? l = files.bytesAt? l
  directories : ∀ l, files.find? l = some .directory → files'.find? l = some .directory

namespace Kept

variable {ls : List Location} {files files' files'' : Files}

theorem refl (ls : List Location) (files : Files) : Kept ls files files :=
  ⟨fun _ _ => rfl, fun _ h => h⟩

theorem trans (h : Kept ls files files') (h' : Kept ls files' files'') : Kept ls files files'' where
  bytes l hl := (h'.bytes l hl).trans (h.bytes l hl)
  directories l hl := h'.directories l (h.directories l hl)

theorem mono {ms : List Location} (h : Kept ls files files') (hs : ls ⊆ ms) : Kept ms files files' where
  bytes l hl := h.bytes l fun hm => hl (hs hm)
  directories := h.directories

theorem locate (h : Kept ls files files') {here l : Location} {p : Path}
    (hl : files.locate here p = .ok l) : files'.locate here p = .ok l :=
  locate_of_directories h.directories hl

end Kept

/-- an entry set where there is no directory -/
theorem kept_set {files : Files} {l : Location} (h : files.find? l ≠ some .directory) (bytes : Bytes) :
    Kept [l] files (files.set l (.file bytes)) := by
  have hl : l ≠ [] := by
    rintro rfl
    exact h rfl
  constructor
  · intro m hm
    rw [bytesAt?, find?_set files hl, if_neg fun e => hm (List.mem_singleton.mpr e), bytesAt?]
  · intro m hm
    rw [find?_set files hl, if_neg, hm]
    rintro rfl
    exact h hm

theorem bytesAt?_set {files : Files} {l : Location} (h : files.find? l ≠ some .directory)
    (bytes : Bytes) : (files.set l (.file bytes)).bytesAt? l = some bytes := by
  have hl : l ≠ [] := by
    rintro rfl
    exact h rfl
  rw [bytesAt?, find?_set files hl, if_pos rfl]

theorem kept_extend (files : Files) (l : Location) (bytes : Bytes) :
    Kept [l] files (files.extend l bytes) := by
  unfold extend
  split
  · rename_i old hold
    exact kept_set (by rw [hold]; simp) _
  · exact .refl _ _

/-! ## making directories -/

theorem kept_makeDirectory {files files' : Files} {here : Location} {p : Path}
    (h : files.makeDirectory here p = .ok files') : Kept [] files files' := by
  obtain ⟨l, _, h⟩ := Outcome.bind_eq_ok_iff.mp h
  split at h
  · cases h
  · rename_i hthere
    have hnone : files.find? l = none := by
      rw [← Option.not_isSome_iff_eq_none]
      exact fun hs => hthere (.inr hs)
    have hl : l ≠ [] := by
      rintro rfl
      cases hnone
    split at h
    · cases h
    · cases h
    · cases h
      constructor
      · intro m _
        rw [bytesAt?, find?_set files hl, bytesAt?]
        by_cases e : m = l
        · rw [if_pos e, e, hnone]
        · rw [if_neg e]
      · intro m hm
        rw [find?_set files hl, if_neg, hm]
        rintro rfl
        rw [hnone] at hm
        cases hm

/-- directories that are made on the way to one that cannot be made stay, but no regular file changes -/
theorem kept_makeDirectoriesFrom (here : Location) (depth : Nat) (files : Files) (p : Path) :
    Kept [] files (makeDirectoriesFrom here depth files p).1 := by
  induction depth generalizing files p with
  | zero =>
    unfold makeDirectoriesFrom
    split
    · exact .refl _ _
    · split
      · exact kept_makeDirectory ‹_›
      · exact .refl _ _
      · exact .refl _ _
  | succ depth ih =>
    unfold makeDirectoriesFrom
    split
    · exact .refl _ _
    · split
      · exact kept_makeDirectory ‹_›
      · dsimp only
        split
        · exact .refl _ _
        -- the parents are made first, and then the directory is tried once more
        · have habove := ih files p.parent
          split
          · rename_i e
            rw [e] at habove
            exact habove
          · rename_i e
            rw [e] at habove
            split
            · exact habove.trans (kept_makeDirectory ‹_›)
            · exact habove
            · exact habove
      · exact .refl _ _

theorem kept_makeDirectories (files : Files) (here : Location) (p : Path) :
    Kept [] files (files.makeDirectories here p).1 :=
  kept_makeDirectoriesFrom here _ files p

/-! ## writing -/

/-- a file that is written is at the location of its path, where there was no directory -/
theorem exists_of_write {files files' : Files} {here : Location} {p : Path} {bytes : Bytes}
    (h : files.write here p bytes = .ok files') :
    ∃ l, files.locate here p = .ok l ∧ files.find? l ≠ some .directory
      ∧ files' = files.set l (.file bytes) := by
  unfold write update at h
  split at h
  · cases h
  · split at h
    · cases h
    · rename_i l hl
      refine ⟨l, hl, ?_⟩
      split at h
      · cases h
      · rename_i hold
        cases h
        exact ⟨by rw [hold]; simp, rfl⟩
      · rename_i hold
        cases h
        exact ⟨by rw [hold]; simp, rfl⟩

/-! ## files that grow -/

/-- every entry is still there as it was -/
def Grown (files files' : Files) : Prop := ∀ l e, files.find? l = some e → files'.find? l = some e

section
variable {files files' files'' : Files} {here : Location} {p : Path}

theorem Grown.refl (files : Files) : Grown files files := fun _ _ h => h

theorem Grown.trans (h : Grown files files') (h' : Grown files' files'') : Grown files files'' :=
  fun l e he => h' l e (h l e he)

theorem Kept.grown (h : Kept [] files files') : Grown files files' := by
  intro l e he
  cases e with
  | directory => exact h.directories l he
  | file bytes =>
    have hbytes := h.bytes l List.not_mem_nil
    rw [bytesAt?, bytesAt?, he] at hbytes
    split at hbytes
    · rename_i hfound
      cases hbytes
      exact hfound
    · cases hbytes

theorem grown_set {l : Location} {bytes : Bytes}
    (h : ∀ e, files.find? l = some e → e = .file bytes) : Grown files (files.set l (.file bytes)) := by
  have hl : l ≠ [] := by
    rintro rfl
    cases h .directory rfl
  intro m e he
  rw [find?_set files hl]
  split
  · rename_i hm
    rw [h e (hm ▸ he)]
  · exact he

theorem grown_append_nil (h : files.append here p [] = .ok files') : Grown files files' := by
  unfold append update at h
  split at h
  · cases h
  · split at h
    · cases h
    · split at h
      · cases h
      · rename_i old hold
        cases h
        refine grown_set fun e he => ?_
        rw [hold] at he
        cases he
        exact congrArg Entry.file (List.append_nil old).symm
      · rename_i hnone
        cases h
        refine grown_set fun e he => ?_
        rw [hnone] at he
        cases he

/-- an entry is still where it was -/
theorem Grown.entry (h : Grown files files') {e : Entry} (he : files.entry here p = .ok e) :
    files'.entry here p = .ok e := by
  unfold Files.entry at he ⊢
  obtain ⟨l, hl, hfound⟩ := Outcome.bind_eq_ok_iff.mp he
  rw [locate_of_directories (fun l => h l .directory) hl]
  dsimp only [bind, Except.bind]
  split at hfound
  · rename_i e' he'
    rw [h l e' he']
    exact hfound
  · cases hfound

end

end DatabaseTypes.Files
