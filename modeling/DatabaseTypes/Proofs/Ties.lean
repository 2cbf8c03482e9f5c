import Mathlib.Tactic.MkIffOfInductiveProp
import DatabaseTypes.Proofs.Outline

/-!
# Ties

The sort key of a name is the name folded and the name with its case exchanged.  Exchanging the case of a letter twice
gives the letter back, but for a few: the long s, say, has the capital of the short one.  These are blurred, and each
of them alone is a name that sorts like another one.  Names without them never sort alike, and what is sorted does not
depend on the order in which it comes exactly if no two of its names are alike.

* `Text.CaseRun.Opposite`      how the runs of two mappings lie that take each other back
* `Text.twins`, `Text.IsTwin`  the blurred characters, each with a text that it sorts like
* `Text.map_unswap_swapCaseAfter`   a text without them, read off its exchanged case
* `SortKey.ofText_inj_of_isPlain`   such texts do not sort alike
* `Order.ties`                 when what is sorted depends on the order in which it comes
-/

namespace DatabaseTypes

/-! ## runs -/

namespace Text

namespace CaseRun

variable {runs : List CaseRun} {r s : CaseRun} {n m : Nat}

/-- every run ends before the next one begins -/
def Ordered (runs : List CaseRun) : Prop := runs.IsChain fun r s => r.first ≤ r.last ∧ r.last < s.first

instance (runs : List CaseRun) : Decidable (Ordered runs) := inferInstanceAs (Decidable (List.IsChain _ runs))

/-- does a run take back all that another one takes somewhere? -/
def undoes (s r : CaseRun) : Bool :=
  s.first == r.first + r.distance && s.last == r.last + r.distance && s.step == r.step && s.distance == -r.distance

/-- have two runs no code point in common? They may lie between each other. -/
def apart (r s : CaseRun) : Bool :=
  r.last.blt s.first || s.last.blt r.first || (r.step == 2 && s.step == 2 && r.first % 2 != s.first % 2)

theorem image?_eq_some_iff : r.image? n = some m
    ↔ r.first ≤ n ∧ n ≤ r.last ∧ (n - r.first) % r.step = 0 ∧ (n + r.distance).toNat = m := by
  unfold image?
  split
  · rename_i h
    simp [h]
  · rename_i h
    simp only [false_iff, reduceCtorEq]
    exact fun hn => h ⟨hn.1, hn.2.1, hn.2.2.1⟩

theorem Ordered.pairwise (h : Ordered runs) : runs.Pairwise fun r s => r.first ≤ r.last ∧ r.last < s.first := by
  let before (r s : CaseRun) : Prop := r.first ≤ r.last ∧ r.last < s.first
  have htrans : Trans before before before := ⟨fun {r s t} hrs hst => ⟨hrs.1, hrs.2.trans (hst.1.trans_lt hst.2)⟩⟩
  exact List.isChain_iff_pairwise.mp h

theorem find?_eq_none (h : ∀ r ∈ runs, r.image? n = none) : find? runs n = none :=
  List.findSome?_eq_none_iff.mpr h

theorem exists_of_find? (h : find? runs n = some m) : ∃ r ∈ runs, r.image? n = some m :=
  List.exists_of_findSome?_eq_some h

/-- of ordered runs no other one holds the code point -/
theorem find?_eq_some (h : Ordered runs) (hr : r ∈ runs) (hn : r.image? n = some m) : find? runs n = some m := by
  obtain ⟨before, after, rfl⟩ := List.append_of_mem hr
  refine List.findSome?_eq_some_iff.mpr ⟨before, r, after, rfl, hn, fun x hx => ?_⟩
  have hlast := ((List.pairwise_append.mp h.pairwise).2.2 x hx r List.mem_cons_self).2
  have hfirst := (image?_eq_some_iff.mp hn).1
  exact if_neg fun hx => by omega

/-- ordered runs are searched no further than to the first one that does not end before the code point -/
theorem find?_eq (h : Ordered runs) (n : Nat) :
    find? runs n = (runs.find? fun r => n.ble r.last).bind (·.image? n) := by
  have hp := h.pairwise
  clear h
  induction runs with
  | nil => rfl
  | cons r runs ih =>
    obtain ⟨hr, hruns⟩ := List.pairwise_cons.mp hp
    rw [find?, List.findSome?_cons, List.find?_cons]
    by_cases hlast : n ≤ r.last
    · rw [Nat.ble_eq_true_of_le hlast]
      cases himage : r.image? n with
      | some m => exact himage.symm
      | none =>
        refine (find?_eq_none fun s hs => if_neg fun hs' => ?_).trans himage.symm
        have hfirst := (hr s hs).2
        omega
    · have himage : r.image? n = none := if_neg fun hr' => hlast hr'.2.1
      rw [Bool.eq_false_iff.mpr fun h => hlast (Nat.le_of_ble_eq_true h), himage]
      exact ih hruns

theorem image?_of_undoes (hs : s.undoes r = true) (hn : r.image? n = some m) : s.image? m = some n := by
  simp only [undoes, Bool.and_eq_true, beq_iff_eq] at hs
  obtain ⟨⟨⟨hfirst, hlast⟩, hstep⟩, hdistance⟩ := hs
  obtain ⟨hn₁, hn₂, hmod, hm⟩ := image?_eq_some_iff.mp hn
  have hoffset : m - s.first = n - r.first := by omega
  refine image?_eq_some_iff.mpr ⟨by omega, by omega, ?_, by omega⟩
  rw [hoffset, hstep, hmod]

theorem image?_of_apart (hrs : r.apart s = true) (hn : s.image? n = some m) : r.image? n = none := by
  obtain ⟨hfirst, hlast, hmod, _⟩ := image?_eq_some_iff.mp hn
  refine if_neg fun ⟨hfirst', hlast', hmod'⟩ => ?_
  simp only [apart, Bool.or_eq_true, Nat.blt_eq, Bool.and_eq_true, beq_iff_eq, bne_iff_ne] at hrs
  rcases hrs with (h | h) | ⟨⟨hr, hs⟩, h⟩
  · omega
  · omega
  · rw [hs] at hmod
    rw [hr] at hmod'
    omega

end CaseRun

/-! ## blurred characters -/

/-- the code points whose case cannot be exchanged back, each with the code points of a text that it sorts like -/
def twins : List (Nat × List Nat) :=
  [(181, [956]), (223, [115, 115]), (304, [73, 775]), (329, [700, 110]), (383, [115]), (496, [106, 780]),
   (837, [953]), (912, [953, 776, 769]), (944, [965, 776, 769]), (962, [963]), (976, [946]), (977, [952]),
   (981, [966]), (982, [960]), (1008, [954]), (1009, [961]), (1012, [920]), (1013, [949]), (1415, [1381, 1410]),
   (7296, [1074]), (7297, [1076]), (7298, [1086]), (7299, [1089]), (7300, [1090]), (7301, [1090]), (7302, [1098]),
   (7303, [1123]), (7304, [42571]), (7830, [104, 817]), (7831, [116, 776]), (7832, [119, 778]), (7833, [121, 778]),
   (7834, [97, 702]), (7835, [7777]), (8016, [965, 787]), (8018, [965, 787, 768]), (8020, [965, 787, 769]),
   (8022, [965, 787, 834]), (8064, [7936, 953]), (8065, [7937, 953]), (8066, [7938, 953]), (8067, [7939, 953]),
   (8068, [7940, 953]), (8069, [7941, 953]), (8070, [7942, 953]), (8071, [7943, 953]), (8080, [7968, 953]),
   (8081, [7969, 953]), (8082, [7970, 953]), (8083, [7971, 953]), (8084, [7972, 953]), (8085, [7973, 953]),
   (8086, [7974, 953]), (8087, [7975, 953]), (8096, [8032, 953]), (8097, [8033, 953]), (8098, [8034, 953]),
   (8099, [8035, 953]), (8100, [8036, 953]), (8101, [8037, 953]), (8102, [8038, 953]), (8103, [8039, 953]),
   (8114, [8048, 953]), (8115, [945, 953]), (8116, [940, 953]), (8118, [945, 834]), (8119, [945, 834, 953]),
   (8126, [953]), (8130, [8052, 953]), (8131, [951, 953]), (8132, [942, 953]), (8134, [951, 834]),
   (8135, [951, 834, 953]), (8146, [953, 776, 768]), (8147, [953, 776, 769]), (8150, [953, 834]),
   (8151, [953, 776, 834]), (8162, [965, 776, 768]), (8163, [965, 776, 769]), (8164, [961, 787]), (8166, [965, 834]),
   (8167, [965, 776, 834]), (8178, [8060, 953]), (8179, [969, 953]), (8180, [974, 953]), (8182, [969, 834]),
   (8183, [969, 834, 953]), (8486, [937]), (8490, [75]), (8491, [197]), (64256, [102, 102]), (64257, [102, 105]),
   (64258, [102, 108]), (64259, [102, 102, 105]), (64260, [102, 102, 108]), (64261, [115, 116]), (64262, [115, 116]),
   (64275, [1396, 1398]), (64276, [1396, 1381]), (64277, [1396, 1387]), (64278, [1406, 1398]), (64279, [1396, 1389])]

/-- is the case of a character not exchanged back? -/
def isBlurred (c : Char) : Bool := twins.any fun e => e.1 == c.toNat

/-- a text without blurred characters -/
def IsPlain (t : Text) : Prop := ∀ c ∈ t, isBlurred c = false

instance (t : Text) : Decidable t.IsPlain := List.decidableBAll (fun c => isBlurred c = false) t

/-! ## tables -/

theorem ordered_foldRuns : CaseRun.Ordered foldRuns := by decide +kernel

/-- beside the blurred characters the dotless i and the capital sharp s are not given back by the opposite mapping -/
def isLone (n : Nat) : Bool := n == 0x131 || n == 0x1e9e || twins.any fun e => e.1 == n

/-- is every run taken back by one of the others, or does it hold lone code points only? -/
def areUndone (runs others : List CaseRun) : Bool :=
  runs.all fun r => (others.find? fun s => (r.first + r.distance).toNat.ble s.last).any (·.undoes r)
    || (List.range' r.first (r.last + 1 - r.first)).all isLone

/-- the runs of two mappings that take each other back.  None of them has to do with ASCII or with surrogates, the
sharp s and the dotted capital i are in no run, and the final sigma has the capital of the other one. -/
@[mk_iff]
structure CaseRun.Opposite (lower upper : List CaseRun) : Prop where
  ordered_lower : Ordered lower
  ordered_upper : Ordered upper
  undone_lower : areUndone lower upper = true
  undone_upper : areUndone upper lower = true
  apart : (lower.all fun r => upper.all r.apart) = true
  bounds : ∀ r ∈ lower ++ upper, 128 ≤ r.first ∧ (r.last < 0xd800 ∨ 0xdfff < r.first ∧ r.last < 0x110000)
  special : ∀ r ∈ lower ++ upper, r.image? 223 = none ∧ r.image? 304 = none ∧ (r.image? 962).all (· == 931) = true

instance (lower upper : List CaseRun) : Decidable (CaseRun.Opposite lower upper) :=
  decidable_of_iff' _ (CaseRun.opposite_iff lower upper)

theorem opposite_runs : CaseRun.Opposite lowerRuns upperRuns := by decide +kernel

theorem blurred_upperFull : (upperFull.all fun e => twins.any fun b => b.1 == e.1) = true := by decide +kernel

theorem exists_image?_of_areUndone {runs others : List CaseRun} {r : CaseRun} {n m : Nat}
    (h : areUndone runs others = true) (hr : r ∈ runs) (hn : r.image? n = some m) (hlone : isLone n = false) :
    ∃ s ∈ others, s.image? m = some n := by
  rcases (Bool.or_eq_true _ _).mp (List.all_eq_true.mp h r hr) with h | h
  · obtain ⟨s, hs, hundoes⟩ := (Option.any_eq_true _ _).mp h
    exact ⟨s, List.mem_of_find?_eq_some hs, CaseRun.image?_of_undoes hundoes hn⟩
  · obtain ⟨hfirst, hlast, _⟩ := CaseRun.image?_eq_some_iff.mp hn
    have hmem : n ∈ List.range' r.first (r.last + 1 - r.first) := List.mem_range'_1.mpr ⟨hfirst, by omega⟩
    rw [List.all_eq_true.mp h n hmem] at hlone
    cases hlone

theorem toNat_ofNat {n : Nat} (h : n.isValidChar) : (Char.ofNat n).toNat = n := by
  rw [Char.ofNat, dif_pos h]
  rfl

/-- a code point that a run holds is a character beyond ASCII -/
theorem isValidChar_of_image? {r : CaseRun} {n m : Nat} (hr : r ∈ lowerRuns ++ upperRuns) (hn : r.image? n = some m) :
    128 ≤ n ∧ n.isValidChar := by
  obtain ⟨hfirst, hlast, _⟩ := CaseRun.image?_eq_some_iff.mp hn
  have hbounds := opposite_runs.bounds r hr
  simp only [Nat.isValidChar]
  omega

/-! ## reading a text off its exchanged case -/

/-- the character that has become another one -/
def unswap (d : Char) : Char :=
  if d = 'ς' then 'Σ' else if d = 'ß' then 'ẞ' else (swapChar d).headD d

/-- the dotless i has the capital of the dotted one -/
def dotted (c : Char) : Char := if c = 'ı' then 'i' else c

theorem swapChar_eq {c : Char} (h : 128 ≤ c.toNat) (hne : c ≠ 'İ') :
    swapChar c = match CaseRun.find? lowerRuns c.toNat with
      | some m => [Char.ofNat m]
      | none => match CaseRun.find? upperRuns c.toNat with
        | some m => [Char.ofNat m]
        | none => (fullMapping? upperFull c.toNat).getD [c] := by
  unfold swapChar
  rewrite [if_neg (by omega), if_neg hne]
  rfl

theorem unswap_swapAscii {c : Char} (h : c.toNat < 128) : unswap (swapAscii c) = c := by
  have hascii := toNat_swapAscii_lt h
  have hne {d : Char} (hd : 128 ≤ d.toNat) : swapAscii c ≠ d := by
    rintro rfl
    omega
  have hswap : swapChar (swapAscii c) = [swapAscii (swapAscii c)] := if_pos hascii
  rw [unswap, if_neg (hne (by decide)), if_neg (hne (by decide)), hswap, swapAscii_swapAscii h]
  rfl

/-- a character that a run takes back is the one that has become what it takes back -/
theorem unswap_image {r : CaseRun} {m : Nat} {c : Char} (hsigma : c ≠ 'Σ') (hr : r ∈ lowerRuns ++ upperRuns)
    (hm : r.image? m = some c.toNat) : unswap (Char.ofNat m) = c := by
  obtain ⟨hm₁, hvalid⟩ := isValidChar_of_image? hr hm
  have htoNat : (Char.ofNat m).toNat = m := toNat_ofNat hvalid
  have hne {d : Char} (hd : r.image? d.toNat ≠ some c.toNat) : Char.ofNat m ≠ d := by
    rintro rfl
    exact hd (htoNat.symm ▸ hm)
  obtain ⟨hsharp, hdot, hfinal⟩ := opposite_runs.special r hr
  have hsigma' : Char.ofNat m ≠ 'ς' := hne fun h => by
    have hsome : r.image? 962 = some c.toNat := h
    rw [hsome] at hfinal
    have hcode : c.toNat = 'Σ'.toNat := eq_of_beq hfinal
    exact hsigma (Char.toNat_inj.mp hcode)
  have hsmall : Char.ofNat m ≠ 'ß' := hne fun h => by cases hsharp.symm.trans h
  have hcapital : Char.ofNat m ≠ 'İ' := hne fun h => by cases hdot.symm.trans h
  have hswap : swapChar (Char.ofNat m) = [c] := by
    rw [swapChar_eq (by omega) hcapital, htoNat]
    rcases List.mem_append.mp hr with hr | hr
    · rw [CaseRun.find?_eq_some opposite_runs.ordered_lower hr hm]
      simp
    · have hnone : CaseRun.find? lowerRuns m = none := by
        refine CaseRun.find?_eq_none fun l hl => ?_
        exact CaseRun.image?_of_apart (List.all_eq_true.mp (List.all_eq_true.mp opposite_runs.apart l hl) r hr) hm
      rw [hnone, CaseRun.find?_eq_some opposite_runs.ordered_upper hr hm]
      simp
  rw [unswap, if_neg hsigma', if_neg hsmall, hswap]
  rfl

/-- a character that is not blurred becomes one character, and is read off that -/
theorem unswap_swapChar {c : Char} (hplain : isBlurred c = false) (hsigma : c ≠ 'Σ') :
    ∃ d, swapChar c = [d] ∧ unswap d = dotted c := by
  by_cases hdotless : c = 'ı'
  · subst hdotless
    exact ⟨'I', rfl, rfl⟩
  by_cases hsharp : c = 'ẞ'
  · subst hsharp
    exact ⟨'ß', rfl, rfl⟩
  have hdotted : dotted c = c := if_neg hdotless
  rw [hdotted]
  by_cases hascii : c.toNat < 128
  · exact ⟨swapAscii c, if_pos hascii, unswap_swapAscii hascii⟩
  have hlone : isLone c.toNat = false := by
    have h₁ : c.toNat ≠ 'ı'.toNat := fun h => hdotless (Char.toNat_inj.mp h)
    have h₂ : c.toNat ≠ 'ẞ'.toNat := fun h => hsharp (Char.toNat_inj.mp h)
    simp only [isLone, Bool.or_eq_false_iff, beq_eq_false_iff_ne]
    exact ⟨⟨h₁, h₂⟩, hplain⟩
  have hcapital : c ≠ 'İ' := by
    rintro rfl
    cases hplain
  have hswap := swapChar_eq (by omega) hcapital
  -- a run that holds the character, or none
  cases hlower : CaseRun.find? lowerRuns c.toNat with
  | some m =>
    rw [hlower] at hswap
    obtain ⟨r, hr, hm⟩ := CaseRun.exists_of_find? hlower
    obtain ⟨s, hs, hback⟩ := exists_image?_of_areUndone opposite_runs.undone_lower hr hm hlone
    exact ⟨_, hswap, unswap_image hsigma (List.mem_append_right _ hs) hback⟩
  | none =>
    rw [hlower] at hswap
    cases hupper : CaseRun.find? upperRuns c.toNat with
    | some m =>
      rw [hupper] at hswap
      obtain ⟨r, hr, hm⟩ := CaseRun.exists_of_find? hupper
      obtain ⟨s, hs, hback⟩ := exists_image?_of_areUndone opposite_runs.undone_upper hr hm hlone
      exact ⟨_, hswap, unswap_image hsigma (List.mem_append_left _ hs) hback⟩
    | none =>
      rw [hupper] at hswap
      have hfull : fullMapping? upperFull c.toNat = none := by
        rw [fullMapping?, Option.map_eq_none_iff, List.find?_eq_none]
        intro e he hcode
        have hblurred := List.all_eq_true.mp blurred_upperFull e he
        rw [eq_of_beq hcode] at hblurred
        exact Bool.noConfusion (hblurred.symm.trans hplain)
      rw [hfull] at hswap
      refine ⟨c, hswap, ?_⟩
      have hfinal : c ≠ 'ς' := by
        rintro rfl
        cases hupper
      have hsmall : c ≠ 'ß' := by
        rintro rfl
        cases hplain
      rw [unswap, if_neg hfinal, if_neg hsmall, hswap]
      rfl

section
variable {s t : Text}

/-- a text without blurred characters is read off its exchanged case, up to the dots -/
theorem map_unswap_swapCaseAfter (hs : s.IsPlain) (before : Text) :
    (swapCaseAfter before s).map unswap = s.map dotted := by
  induction s generalizing before with
  | nil => rfl
  | cons c s ih =>
    obtain ⟨hc, hs⟩ := List.forall_mem_cons.mp hs
    rw [swapCaseAfter, List.map_append, ih hs]
    by_cases hsigma : c = 'Σ'
    · subst hsigma
      have hlowered : unswap (loweredSigma before s) = 'Σ' := by
        unfold loweredSigma
        split
        · rfl
        · rfl
      rw [if_pos rfl, List.map_singleton, hlowered]
      rfl
    · obtain ⟨d, hswap, hback⟩ := unswap_swapChar hc hsigma
      rw [if_neg hsigma, hswap, List.map_singleton, hback]
      rfl

/-- the folded texts tell the dots -/
theorem eq_of_map_dotted (hdots : s.map dotted = t.map dotted) (hfold : s.foldCase = t.foldCase) : s = t := by
  induction s generalizing t with
  | nil => exact (List.map_eq_nil_iff.mp hdots.symm).symm
  | cons c s ih =>
    cases t with
    | nil => cases hdots
    | cons d t =>
      obtain ⟨hcd, hst⟩ := List.cons.inj hdots
      rw [foldCase_cons, foldCase_cons] at hfold
      have hdotless : foldChar 'ı' = ['ı'] := rfl
      have hi : foldChar 'i' = ['i'] := rfl
      have heq : c = d := by
        unfold dotted at hcd
        split at hcd
        · rename_i hc
          split at hcd
          · rename_i hd
            rw [hc, hd]
          · rw [hc, ← hcd, hdotless, hi] at hfold
            cases hfold
        · split at hcd
          · rename_i hd
            rw [hd, hcd, hdotless, hi] at hfold
            cases hfold
          · exact hcd
      subst heq
      rw [ih hst (List.append_cancel_left hfold)]

end
end Text

/-! ## twins -/

namespace Text

/-- what a character with a code point is folded to, found in ordered runs -/
def foldCode (n : Nat) : Text :=
  if n < 128 then [(Char.ofNat n).toLower]
  else match (foldRuns.find? fun r => n.ble r.last).bind (·.image? n) with
    | some m => [Char.ofNat m]
    | none => (fullMapping? foldFull n).getD [Char.ofNat n]

/-- what a character with a code point becomes when its case is exchanged, found in ordered runs -/
def swapCode (n : Nat) : Text :=
  if n < 128 then [swapAscii (Char.ofNat n)]
  else if Char.ofNat n = 'İ' then ['i', '\u0307']
  else match (lowerRuns.find? fun r => n.ble r.last).bind (·.image? n) with
    | some m => [Char.ofNat m]
    | none => match (upperRuns.find? fun r => n.ble r.last).bind (·.image? n) with
      | some m => [Char.ofNat m]
      | none => (fullMapping? upperFull n).getD [Char.ofNat n]

theorem foldChar_ofNat {n : Nat} (h : n.isValidChar) : foldChar (Char.ofNat n) = foldCode n := by
  rewrite [foldChar, foldCode, toNat_ofNat h, CaseRun.find?_eq ordered_foldRuns]
  rfl

theorem swapChar_ofNat {n : Nat} (h : n.isValidChar) : swapChar (Char.ofNat n) = swapCode n := by
  rewrite [swapChar, swapCode, toNat_ofNat h, CaseRun.find?_eq opposite_runs.ordered_lower,
    CaseRun.find?_eq opposite_runs.ordered_upper]
  rfl

/-- the code points of a text that sorts like a character, but is not it and has no blurred characters -/
@[mk_iff]
structure IsTwin (n : Nat) (text : List Nat) : Prop where
  valid : n.isValidChar ∧ ∀ m ∈ text, m.isValidChar
  ne : text ≠ [n]
  not_sigma : ∀ m ∈ n :: text, m ≠ 931
  plain : ∀ m ∈ text, (twins.any fun e => e.1 == m) = false
  fold : text.flatMap foldCode = foldCode n
  swap : text.flatMap swapCode = swapCode n

instance (n : Nat) (text : List Nat) : Decidable (IsTwin n text) := decidable_of_iff' _ (isTwin_iff n text)

theorem isTwin_twins : ∀ e ∈ twins, IsTwin e.1 e.2 := by decide +kernel

theorem swapCaseAfter_eq_flatMap {t : Text} (h : ∀ c ∈ t, c ≠ 'Σ') (before : Text) :
    swapCaseAfter before t = t.flatMap swapChar := by
  induction t generalizing before with
  | nil => rfl
  | cons c t ih =>
    rw [swapCaseAfter, if_neg (h c List.mem_cons_self), ih fun d hd => h d (List.mem_cons_of_mem _ hd)]
    rfl

/-- a blurred character alone is a name that sorts like another one -/
theorem exists_twin {c : Char} (h : isBlurred c = true) :
    ∃ t : Text, t.IsPlain ∧ t ≠ [c] ∧ SortKey.ofText t = SortKey.ofText [c] := by
  obtain ⟨e, he, hcode⟩ := List.any_eq_true.mp h
  have htwin := isTwin_twins e he
  obtain ⟨hvalid, hvalids⟩ := htwin.valid
  have hc : e.1 = c.toNat := eq_of_beq hcode
  have hback : (e.2.map Char.ofNat).map Char.toNat = e.2 := by
    rw [List.map_map]
    exact (List.map_congr_left fun n hn => toNat_ofNat (hvalids n hn)).trans (List.map_id _)
  have hcodes {d : Char} (hd : d ∈ e.2.map Char.ofNat) : d.toNat ∈ e.2 := by
    rw [← hback]
    exact List.mem_map_of_mem hd
  have hsigmas : ∀ d ∈ c :: e.2.map Char.ofNat, d ≠ 'Σ' := by
    intro d hd heq
    refine htwin.not_sigma d.toNat ?_ (congrArg Char.toNat heq)
    rcases List.mem_cons.mp hd with rfl | hd
    · exact hc ▸ List.mem_cons_self
    · exact List.mem_cons_of_mem _ (hcodes hd)
  -- one character after the other
  have heach {f : Char → Text} {g : Nat → Text} (hfg : ∀ n, n.isValidChar → f (Char.ofNat n) = g n)
      (hg : e.2.flatMap g = g e.1) : (e.2.map Char.ofNat).flatMap f = [c].flatMap f := by
    rw [List.flatMap_map, List.flatMap_singleton, ← Char.ofNat_toNat c, ← hc, hfg _ hvalid, ← hg]
    exact List.flatMap_congr fun n hn => hfg n (hvalids n hn)
  refine ⟨e.2.map Char.ofNat, fun d hd => htwin.plain _ (hcodes hd), fun heq => htwin.ne ?_, ?_⟩
  · rw [← hback, heq, hc]
    rfl
  · have hfold : foldCase (e.2.map Char.ofNat) = foldCase [c] :=
      heach (fun _ => foldChar_ofNat) htwin.fold
    have hswap : swapCase (e.2.map Char.ofNat) = swapCase [c] := by
      rw [swapCase, swapCase, swapCaseAfter_eq_flatMap fun d hd => hsigmas d (List.mem_cons_of_mem _ hd),
        swapCaseAfter_eq_flatMap fun d hd => hsigmas d (List.mem_singleton.mp hd ▸ List.mem_cons_self)]
      exact heach (fun _ => swapChar_ofNat) htwin.swap
    rw [SortKey.ofText, SortKey.ofText, hfold, hswap]

end Text

/-- different names without blurred characters have different sort keys -/
theorem SortKey.ofText_inj_of_isPlain {s t : Text} (hs : s.IsPlain) (ht : t.IsPlain)
    (h : SortKey.ofText s = SortKey.ofText t) : s = t := by
  have hfold : s.foldCase = t.foldCase := congrArg SortKey.folded h
  have hswap : s.swapCase = t.swapCase := congrArg SortKey.swapped h
  refine Text.eq_of_map_dotted ?_ hfold
  rw [← Text.map_unswap_swapCaseAfter hs [], ← Text.map_unswap_swapCaseAfter ht []]
  exact congrArg (List.map Text.unswap) hswap

/-! ## the order of the output -/

/-- **What is sorted depends on the order in which it comes if two of its names are alike.** No two texts without
blurred characters have the same sort key, and every blurred character alone has that of another text.  What is sorted
by texts or names is the same for every order in which it comes exactly if no two different items have the same sort
key. -/
theorem Order.ties {α : Type} (text : α → Text) (name : α → Json) (xs : List α) :
    (∀ s t : Text, s.IsPlain → t.IsPlain → SortKey.ofText s = SortKey.ofText t → s = t)
    ∧ (∀ c, Text.isBlurred c = true →
      ∃ t : Text, t.IsPlain ∧ t ≠ [c] ∧ SortKey.ofText t = SortKey.ofText [c])
    ∧ ((∀ ys, xs.Perm ys → byText text ys = byText text xs)
      ↔ ∀ x ∈ xs, ∀ y ∈ xs, SortKey.ofText (text x) = SortKey.ofText (text y) → x = y)
    ∧ ∀ zs, byName name xs = .ok zs → ((∀ ys, xs.Perm ys → byName name ys = .ok zs)
      ↔ ∀ x ∈ xs, ∀ y ∈ xs, (name x).sortKey = (name y).sortKey → x = y) :=
  ⟨fun _ _ => SortKey.ofText_inj_of_isPlain, fun _ => Text.exists_twin, byText_perm_iff, fun _ => byName_perm_iff⟩

/-- names that differ in the case of a letter beyond ASCII -/
def Text.umlauts : List Text := ["Äpfel", "äpfel"]

theorem Order.ties_umlauts : (∀ s ∈ Text.umlauts, s.IsPlain)
    ∧ byName Json.text Text.umlauts = .ok Text.umlauts.reverse
    ∧ ∀ ys, Text.umlauts.Perm ys → byName Json.text ys = .ok Text.umlauts.reverse := by
  have hplain : ∀ s ∈ Text.umlauts, s.IsPlain := by decide
  have hsorted : byName Json.text Text.umlauts = .ok Text.umlauts.reverse := rfl
  obtain ⟨hinj, _, _, hname⟩ := Order.ties id Json.text Text.umlauts
  refine ⟨hplain, hsorted, (hname _ hsorted).mpr fun s hs t ht hst => ?_⟩
  exact hinj s t (hplain s hs) (hplain t ht) (Except.ok.inj hst)

/-- a model of a table with a field that is named with a short s and one that is named with a long one -/
def Json.tied (arrange : List Json → List Json) : Json :=
  .object
    [("models", .list [.object [("name", "T"),
       ("fields", .list (arrange
         [.object [("name", "s"), ("kind", "scalar"), ("type", "Int")],
          .object [("name", "ſ"), ("kind", "scalar"), ("type", "Int")]]))]])]

theorem generateTypes_tied : SortKey.ofText "s" = SortKey.ofText "ſ"
    ∧ ∃ t t', generateTypes (.tied id) true = .ok t ∧ generateTypes (.tied List.reverse) true = .ok t' ∧ t ≠ t' := by
  refine ⟨rfl, _, _, rfl, rfl, ?_⟩
  decide +kernel

end DatabaseTypes
