import DatabaseTypes.Proofs.Path
import DatabaseTypes.Run

/-!
# Destinations

Where an output goes.  A path that is absolute stays as it is, one that begins at home is put below the home directory,
and any other one below the base directory.  What comes out is absolute, and it is the path of its own text, so that it
goes to the same place from every directory.

* `Text.IsCut`             a text, cut wherever a character stands
* `Path.below`             parts below a path
* `Path.BeginsAtHome`, `Path.BeginsElsewhere`   paths that begin at the own home directory, or at that of somebody else
* `Run.IsDestination`      what is true of a destination
* `Run.resolved_isDestination`   and is true of every one of them
-/

namespace DatabaseTypes

/-! ## texts that are cut -/

/-- a text is cut wherever a character stands -/
structure Text.IsCut (c : Char) (t : Text) (pieces : List Text) : Prop where
  whole : joined [c] pieces = t
  inner : ∀ u ∈ pieces, c ∉ u

theorem Text.isCut_split (c : Char) (t : Text) : IsCut c t (split c t) where
  whole := joined_split c t
  inner _ hu := notMem_of_mem_split hu

namespace Path

/-! ## parts below a path -/

/-- parts below a path -/
def below (base : Path) (parts : List Text) : Path := { base with parts := base.parts ++ parts }

theorem Normal.below {base : Path} (h : base.Normal) {parts : List Text} (hparts : ∀ t ∈ parts, IsPart t) :
    (base.below parts).Normal where
  slashes := h.slashes
  parts t ht := (List.mem_append.mp ht).elim (h.parts t) (hparts t)

theorem isAbsolute_below (base : Path) (parts : List Text) : (base.below parts).isAbsolute = base.isAbsolute := rfl

theorem under_of_isAbsolute {p : Path} (h : p.isAbsolute = true) (base : Path) : p.under base = p := by
  rw [under, if_pos h]

theorem under_of_not_isAbsolute {p : Path} (h : ¬ p.isAbsolute = true) (base : Path) :
    p.under base = base.below p.parts := by
  rw [under, if_neg h, Path.below]

theorem isAbsolute_ofText {t : Text} (h : t.head? = some '/') : (ofText t).isAbsolute = true := by
  obtain ⟨u, rfl⟩ : ∃ u, t = '/' :: u := by
    cases t with
    | nil => cases h
    | cons c u => exact ⟨u, by rw [Option.some.inj h]⟩
  -- at least one slash is counted
  have hcount : (('/' :: u).takeWhile (· == '/')).length ≠ 0 := by
    rw [List.takeWhile_cons_of_pos (by rfl), List.length_cons]
    exact Nat.succ_ne_zero _
  have hslashes : slashesOf ('/' :: u) ≠ 0 := by
    unfold slashesOf
    split
    · contradiction
    · decide
    · decide
  exact bne_iff_ne.mpr hslashes

/-! ## homes -/

/-- the path begins at the home directory of the user -/
def BeginsAtHome (p : Path) : Prop := p.isAbsolute = false ∧ p.parts.head? = some ['~']

/-- the path begins at the home directory of somebody else, who is named -/
def BeginsElsewhere (p : Path) : Prop :=
  p.isAbsolute = false ∧ ∃ name, name ≠ [] ∧ p.parts.head? = some ('~' :: name)

/-- the home directory of the user is absolute if it is given as absolute -/
theorem Homes.find?_own {homes : Homes} (h : homes.own.head? = some '/') :
    ∃ home, homes.find? ['~'] = some home ∧ home.head? = some '/' := by
  have hfind : homes.find? ['~'] = some (if ((homes.own.reverse.dropWhile (· == '/')).reverse).isEmpty then ['/']
      else (homes.own.reverse.dropWhile (· == '/')).reverse) := rfl
  refine ⟨_, hfind, ?_⟩
  -- without the slashes at its end it is still a beginning of what is given
  have hprefix : (homes.own.reverse.dropWhile (· == '/')).reverse <+: homes.own := by
    rw [← List.reverse_reverse homes.own, List.reverse_prefix, List.reverse_reverse]
    exact List.dropWhile_suffix _
  generalize (homes.own.reverse.dropWhile (· == '/')).reverse = home at hprefix
  cases home with
  | nil => rfl
  | cons c home =>
    obtain ⟨rest, hrest⟩ := hprefix
    rw [← hrest] at h
    exact h

theorem expanded_of_beginsAtHome {homes : Homes} {p : Path} {home : Text} (h : p.BeginsAtHome)
    (hfind : homes.find? ['~'] = some home) (hhome : home.head? = some '/') :
    p.expanded homes = .ok ((ofText home).below p.parts.tail) := by
  obtain ⟨slashes, parts⟩ := p
  obtain ⟨habs, hhead⟩ := h
  obtain rfl : slashes = 0 := by simpa [isAbsolute] using habs
  cases parts with
  | nil => cases hhead
  | cons first rest =>
    obtain rfl : first = ['~'] := Option.some.inj hhead
    have hne : home.head? ≠ some '~' := by
      rw [hhome]
      decide
    unfold expanded
    simp only [List.head?_cons, if_true, hfind, if_neg hne]
    rfl

theorem expanded_of_not_begins {p : Path} (hhome : ¬ p.BeginsAtHome) (hother : ¬ p.BeginsElsewhere) (homes : Homes) :
    p.expanded homes = .ok p := by
  by_cases habs : p.isAbsolute = true
  · exact expanded_of_isAbsolute habs homes
  have hrelative := Bool.eq_false_iff.mpr habs
  unfold expanded
  split
  · rename_i first rest _ hparts
    split
    · rename_i htilde
      obtain ⟨name, rfl⟩ : ∃ name, first = '~' :: name := by
        cases first with
        | nil => cases htilde
        | cons c name => exact ⟨name, by rw [Option.some.inj htilde]⟩
      have hhead : p.parts.head? = some ('~' :: name) := by
        rw [hparts]
        rfl
      cases name with
      | nil => exact absurd ⟨hrelative, hhead⟩ hhome
      | cons c name => exact absurd ⟨hrelative, c :: name, List.cons_ne_nil _ _, hhead⟩ hother
    · rfl
  · rfl

end Path

namespace Run

open DatabaseTypes.Path

/-! ## resolving -/

theorem resolved_some {t : Text} (h : t ≠ []) (host : Host) (base : Option Path) : resolved host (some t) base
    = ((ofText t).expanded host.homes).map fun p => p.under (base.getD host.directory) := by
  have hfilter : (some t).filter (fun t => !t.isEmpty) = some t := by
    cases t with
    | nil => exact absurd rfl h
    | cons c t => rfl
  rw [resolved, hfilter]
  dsimp only
  cases (ofText t).expanded host.homes <;> rfl

/-- what is expanded to an absolute path goes there from every directory -/
theorem resolved_of_isAbsolute {t : Text} {p : Path} {host : Host} (h : t ≠ [])
    (hp : (ofText t).expanded host.homes = .ok p) (habs : p.isAbsolute = true) (base : Option Path) :
    resolved host (some t) base = .ok p := by
  rw [resolved_some h, hp]
  exact congrArg Except.ok (under_of_isAbsolute habs _)

/-- a normal absolute path is where its text goes -/
theorem resolved_path_text {p : Path} (hp : p.Normal) (habs : p.isAbsolute = true) (host : Host) (base : Option Path) :
    resolved host (some p.text) base = .ok p := by
  refine resolved_of_isAbsolute (text_ne_nil hp) ?_ habs base
  rw [ofText_text hp]
  exact expanded_of_isAbsolute habs host.homes

/-- where an output goes that is given as a text, from a base directory -/
structure IsDestination (host : Host) (t : Text) (base p : Path) : Prop where
  absolute : p.isAbsolute = true
  /-- it does not depend on the directory if the text begins at the root or at home -/
  fixed : (ofText t).isAbsolute = true ∨ (ofText t).BeginsAtHome → ∀ other, resolved host (some t) other = .ok p
  rooted : (ofText t).isAbsolute = true → p = ofText t
  home : (ofText t).BeginsAtHome →
    ∃ home, host.homes.find? ['~'] = some home ∧ p = (ofText home).below (ofText t).parts.tail
  /-- otherwise what stands between the slashes is put below the directory, without what is empty or a dot -/
  relative : ¬ (ofText t).isAbsolute = true → ¬ (ofText t).BeginsAtHome → ∃ pieces, Text.IsCut '/' t pieces
    ∧ p = base.below (pieces.filter fun u => u ≠ [] ∧ u ≠ ['.'])
  /-- its text goes there from every directory -/
  stable : ∀ other, resolved host (some p.text) other = .ok p

section
variable {host : Host} {t : Text} {base : Path}

theorem isDestination_rooted (h : t ≠ []) (habs : (ofText t).isAbsolute = true) :
    IsDestination host t base (ofText t) where
  absolute := habs
  fixed _ := resolved_of_isAbsolute h (expanded_of_isAbsolute habs host.homes) habs
  rooted _ := rfl
  home hhome := absurd habs (Bool.eq_false_iff.mp hhome.1)
  relative hnot := absurd habs hnot
  stable := resolved_path_text (normal_ofText t) habs host

theorem isDestination_home (h : t ≠ []) (hbegins : (ofText t).BeginsAtHome) {home : Text}
    (hfind : host.homes.find? ['~'] = some home) (hhome : home.head? = some '/') :
    IsDestination host t base ((ofText home).below (ofText t).parts.tail) := by
  have habs : ((ofText home).below (ofText t).parts.tail).isAbsolute = true := isAbsolute_ofText hhome
  have hnormal : ((ofText home).below (ofText t).parts.tail).Normal :=
    (normal_ofText home).below fun u hu => (normal_ofText t).parts u (List.mem_of_mem_tail hu)
  exact {
    absolute := habs
    fixed := fun _ => resolved_of_isAbsolute h (expanded_of_beginsAtHome hbegins hfind hhome) habs
    rooted := fun hrooted => absurd hrooted (Bool.eq_false_iff.mp hbegins.1)
    home := fun _ => ⟨home, hfind, rfl⟩
    relative := fun _ hnot => absurd hbegins hnot
    stable := resolved_path_text hnormal habs host }

theorem isDestination_relative (habs : ¬ (ofText t).isAbsolute = true) (hhome : ¬ (ofText t).BeginsAtHome)
    (hbase : base.Normal) (hbaseAbs : base.isAbsolute = true) :
    IsDestination host t base (base.below (ofText t).parts) where
  absolute := hbaseAbs
  fixed hfixed := absurd hfixed (not_or.mpr ⟨habs, hhome⟩)
  rooted hrooted := absurd hrooted habs
  home hbegins := absurd hbegins hhome
  relative _ _ := by
    refine ⟨Text.split '/' t, Text.isCut_split '/' t, ?_⟩
    have hparts : (ofText t).parts = (Text.split '/' t).filter fun u => u ≠ [] ∧ u ≠ ['.'] := by
      refine List.filter_congr fun u _ => Bool.eq_iff_iff.mpr ?_
      rw [Bool.and_eq_true, Bool.not_eq_true', List.isEmpty_eq_false_iff, bne_iff_ne, decide_eq_true_iff]
    rw [hparts]
  stable := resolved_path_text (hbase.below (normal_ofText t).parts) hbaseAbs host

/-- **Destinations.** A text that is not empty and does not begin at the home directory of somebody else has a destination
from every absolute directory. -/
theorem resolved_isDestination (h : t ≠ []) (hother : ¬ (ofText t).BeginsElsewhere)
    (hown : host.homes.own.head? = some '/') (hbase : base.Normal) (hbaseAbs : base.isAbsolute = true) :
    ∃ p, resolved host (some t) (some base) = .ok p ∧ IsDestination host t base p := by
  by_cases habs : (ofText t).isAbsolute = true
  · have hd : IsDestination host t base (ofText t) := isDestination_rooted h habs
    exact ⟨_, hd.fixed (.inl habs) _, hd⟩
  by_cases hhome : (ofText t).BeginsAtHome
  · obtain ⟨home, hfind, hhead⟩ := Homes.find?_own hown
    have hd : IsDestination host t base _ := isDestination_home h hhome hfind hhead
    exact ⟨_, hd.fixed (.inr hhome) _, hd⟩
  · refine ⟨_, ?_, isDestination_relative habs hhome hbase hbaseAbs⟩
    rw [resolved_some h, expanded_of_not_begins hhome hother]
    exact congrArg Except.ok (under_of_not_isAbsolute habs base)

end

/-- a home directory below a root of two slashes, and an output in it that is given with a dot before the tilde -/
theorem resolved_isDestination_tilde :
    let host : Host := { homes := { own := "//h/" } }
    let t : Text := "./~//a/./.."
    t ≠ [] ∧ ¬ (ofText t).BeginsElsewhere ∧ host.homes.own.head? = some '/'
      ∧ (ofText "/b").Normal ∧ (ofText "/b").isAbsolute = true
      ∧ IsDestination host t (ofText "/b") ⟨2, ["h", "a", ".."]⟩ := by
  intro host t
  have hother : ¬ (ofText t).BeginsElsewhere := by
    rintro ⟨-, name, hne, hhead⟩
    have htilde : (ofText t).parts.head? = some ['~'] := rfl
    rw [htilde] at hhead
    exact hne (List.cons.inj (Option.some.inj hhead)).2.symm
  have hne : t ≠ [] := by decide
  have hown : host.homes.own.head? = some '/' := rfl
  refine ⟨hne, hother, hown, normal_ofText _, rfl, ?_⟩
  obtain ⟨p, hp, hd⟩ := resolved_isDestination hne hother hown (normal_ofText "/b") rfl
  have hvalue : resolved host (some t) (some (ofText "/b")) = .ok ⟨2, ["h", "a", ".."]⟩ := rfl
  rwa [Except.ok.inj (hp.symm.trans hvalue)] at hd

end Run
end DatabaseTypes
