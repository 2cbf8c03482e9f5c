import DatabaseTypes.Json.Writer
import DatabaseTypes.Proofs.Numeral
import DatabaseTypes.Proofs.Sorted

/-!
# Where characters come from

A text that is made from a JSON value has the characters of the value and ASCII ones, and no others.

* `Drawn`               a text of ASCII characters and of characters with a property
* `Json.chars`          the characters of all texts in a value
* `Json.drawn_display`, `Json.drawn_written`   the texts of a value
* `Key.drawn_ofName`    the key of a name
-/

namespace DatabaseTypes

/-- a text of ASCII characters and of characters with a property -/
def Drawn (P : Char → Prop) (t : Text) : Prop := ∀ c ∈ t, c.toNat < 128 ∨ P c

variable {P : Char → Prop}

/-! ## texts -/

theorem drawn_nil : Drawn P [] := fun _ hc => absurd hc List.not_mem_nil

theorem drawn_of_isAscii {t : Text} (h : t.IsAscii) : Drawn P t := fun c hc => .inl (h c hc)

/-- a constant, given by its characters -/
theorem drawn_constant {l : List Char} (h : (l.all fun c => decide (c.toNat < 128)) = true) :
    Drawn P (String.ofList l).toList := by
  rw [String.toList_ofList]
  exact drawn_of_isAscii fun c hc => of_decide_eq_true (List.all_eq_true.mp h c hc)

theorem Drawn.append {t u : Text} (ht : Drawn P t) (hu : Drawn P u) : Drawn P (t ++ u) :=
  List.forall_mem_append.mpr ⟨ht, hu⟩

theorem Drawn.cons {c : Char} {t : Text} (hc : c.toNat < 128) (ht : Drawn P t) : Drawn P (c :: t) :=
  List.forall_mem_cons.mpr ⟨.inl hc, ht⟩

theorem Drawn.subset {t u : Text} (hu : Drawn P u) (h : t ⊆ u) : Drawn P t := fun c hc => hu c (h hc)

theorem drawn_flatMap {α : Type} {f : α → Text} {xs : List α} (h : ∀ x ∈ xs, Drawn P (f x)) :
    Drawn P (xs.flatMap f) := by
  intro c hc
  obtain ⟨x, hx, hc⟩ := List.mem_flatMap.mp hc
  exact h x hx c hc

theorem drawn_joined {sep : Text} (hsep : Drawn P sep) {ts : List Text} (h : ∀ t ∈ ts, Drawn P t) :
    Drawn P (Text.joined sep ts) := by
  cases ts with
  | nil => exact drawn_nil
  | cons t ts =>
    rw [Text.joined_cons_eq_flatMap]
    refine (h t List.mem_cons_self).append (drawn_flatMap fun u hu => ?_)
    exact hsep.append (h u (List.mem_cons_of_mem _ hu))

theorem drawn_spaces (n : Nat) : Drawn P (Text.spaces n) := by
  refine drawn_of_isAscii fun c hc => ?_
  rw [List.eq_of_mem_replicate hc]
  decide

theorem drawn_hexadecimal (n code : Nat) : Drawn P (Text.hexadecimal n code) := by
  have hdigit : ∀ m < 16, (Nat.digitChar m).toNat < 128 := by decide
  refine drawn_of_isAscii fun c hc => ?_
  obtain ⟨m, rfl⟩ := Text.exists_of_mem_hexadecimal hc
  exact hdigit _ (Nat.mod_lt _ (by decide))

theorem drawn_numeral {t : Text} (h : Numeral t) : Drawn P t := by
  refine drawn_of_isAscii fun c hc => ?_
  have hn := h c hc
  simp only [Text.isNumeral, Bool.or_eq_true, decide_eq_true_eq] at hn
  rcases hn with ((hn | rfl) | rfl) | rfl
  · exact (Key.toNat_of_isTail hn).2
  · decide
  · decide
  · decide

/-! ## quotation -/

theorem drawn_literalChar {c : Char} (h : c.toNat < 128 ∨ P c) : Drawn P (Json.literalChar false c) := by
  have hescapes : ∀ p ∈ Json.escapes, p.2.toNat < 128 := by decide
  rcases Json.literalChar_eq c with ⟨d, hd, e⟩ | ⟨_, e⟩ | ⟨_, _, _, e⟩
  · rw [e]
    exact .cons (by decide) (.cons (hescapes _ hd) drawn_nil)
  · rw [e]
    exact .cons (by decide) (.cons (by decide) (drawn_hexadecimal 4 _))
  · rw [e]
    exact List.forall_mem_singleton.mpr h

theorem Drawn.literal {t : Text} (h : Drawn P t) : Drawn P (Json.literal false t) := by
  have hchars : Drawn P (t.flatMap (Json.literalChar false)) :=
    drawn_flatMap fun c hc => drawn_literalChar (h c hc)
  exact (hchars.append (.cons (by decide) drawn_nil)).cons (by decide)

theorem drawn_codeEscape (c : Char) : Drawn P (Text.codeEscape c) := by
  unfold Text.codeEscape
  dsimp only
  split
  · exact .cons (by decide) (.cons (by decide) (drawn_hexadecimal 2 _))
  split
  · exact .cons (by decide) (.cons (by decide) (drawn_hexadecimal 4 _))
  · exact .cons (by decide) (.cons (by decide) (drawn_hexadecimal 8 _))

theorem Drawn.quoted {t : Text} (h : Drawn P t) : Drawn P t.quoted := by
  have hquote : (Text.quote t).toNat < 128 := by
    unfold Text.quote
    split
    · decide
    · decide
  have hchar : ∀ c ∈ t, Drawn P (Text.quotedChar (Text.quote t) c) := by
    intro c hc
    have hself : Drawn P [c] := List.forall_mem_singleton.mpr (h c hc)
    unfold Text.quotedChar
    split_ifs
    · exact hself.cons (by decide)
    · exact .cons (by decide) (.cons (by decide) drawn_nil)
    · exact .cons (by decide) (.cons (by decide) drawn_nil)
    · exact .cons (by decide) (.cons (by decide) drawn_nil)
    · exact hself
    · exact drawn_codeEscape c
  exact ((drawn_flatMap hchar).append (.cons hquote drawn_nil)).cons hquote

/-- the key of a name has the characters of the name -/
theorem Key.drawn_ofName {name : Text} (h : Drawn P name) : Drawn P (Key.ofName name) := by
  unfold Key.ofName
  split
  · exact h
  · exact h.literal

/-! ## JSON values -/

mutual

/-- the characters of all texts in a value, keys among them -/
def Json.chars : Json → List Char
  | .text t => t
  | .list items => itemChars items
  | .object members => memberChars members
  | _ => []

/-- the characters of the items of a list -/
def Json.itemChars : List Json → List Char
  | [] => []
  | v :: vs => chars v ++ itemChars vs

/-- the characters of the members of an object -/
def Json.memberChars : List (Text × Json) → List Char
  | [] => []
  | (k, v) :: ms => k ++ chars v ++ memberChars ms

end

mutual

theorem Json.drawn_quotedDisplay {v : Json} (h : Drawn P v.chars) : Drawn P v.quotedDisplay := by
  cases v with
  | null => exact drawn_constant rfl
  | bool b => cases b <;> exact drawn_constant rfl
  | int i => exact drawn_numeral (numeral_ofInt i)
  | float x => exact drawn_numeral (numeral_binaryText x)
  | text t => exact h.quoted
  | list items =>
    have hitems := drawn_joined (drawn_constant (l := [',', ' ']) rfl) (drawn_itemDisplays h)
    exact (hitems.append (.cons (by decide) drawn_nil)).cons (by decide)
  | object members =>
    have hmembers := drawn_joined (drawn_constant (l := [',', ' ']) rfl) (drawn_memberDisplays h)
    exact (hmembers.append (.cons (by decide) drawn_nil)).cons (by decide)

theorem Json.drawn_itemDisplays {vs : List Json} (h : Drawn P (itemChars vs)) :
    ∀ t ∈ itemDisplays vs, Drawn P t := by
  cases vs with
  | nil => exact fun t ht => absurd ht List.not_mem_nil
  | cons v vs =>
    obtain ⟨hv, hvs⟩ := List.forall_mem_append.mp h
    exact List.forall_mem_cons.mpr ⟨drawn_quotedDisplay hv, drawn_itemDisplays hvs⟩

theorem Json.drawn_memberDisplays {ms : List (Text × Json)} (h : Drawn P (memberChars ms)) :
    ∀ t ∈ memberDisplays ms, Drawn P t := by
  cases ms with
  | nil => exact fun t ht => absurd ht List.not_mem_nil
  | cons m ms =>
    obtain ⟨k, v⟩ := m
    obtain ⟨hkv, hms⟩ := List.forall_mem_append.mp h
    obtain ⟨hk, hv⟩ := List.forall_mem_append.mp hkv
    have hcolon : Drawn P [':', ' '] := .cons (by decide) (.cons (by decide) drawn_nil)
    have hm := ((Drawn.quoted hk).append hcolon).append (drawn_quotedDisplay hv)
    exact List.forall_mem_cons.mpr ⟨hm, drawn_memberDisplays hms⟩

end

theorem Json.drawn_display {v : Json} (h : Drawn P v.chars) : Drawn P v.display := by
  cases v with
  | text t => exact h
  | null | bool | int | float | list | object => exact drawn_quotedDisplay h

/-- a style that escapes only what it must, with ASCII between the parts -/
structure Json.Style.Faithful (style : Json.Style) : Prop where
  ascii : style.ascii = false
  separator : style.separator.IsAscii
  keySeparator : style.keySeparator.IsAscii

theorem Json.Style.faithful_plain : Json.Style.plain.Faithful := ⟨rfl, by decide, by decide⟩

theorem Json.Style.faithful_compact : Json.Style.compact.Faithful := ⟨rfl, by decide, by decide⟩

mutual

theorem Json.drawn_written {style : Json.Style} (hs : style.Faithful) {v : Json}
    (h : Drawn P v.chars) : Drawn P (v.written style) := by
  cases v with
  | null => exact drawn_constant rfl
  | bool b => cases b <;> exact drawn_constant rfl
  | int i => exact drawn_numeral (numeral_ofInt i)
  | float x => exact drawn_numeral (numeral_floatText x)
  | text t =>
    rw [written_text, hs.ascii]
    exact Drawn.literal h
  | list items =>
    have hitems := drawn_joined (drawn_of_isAscii hs.separator) (drawn_writtenItems hs h)
    exact (hitems.append (.cons (by decide) drawn_nil)).cons (by decide)
  | object members =>
    have hmembers := drawn_joined (drawn_of_isAscii hs.separator) (drawn_writtenMembers hs h)
    exact (hmembers.append (.cons (by decide) drawn_nil)).cons (by decide)

theorem Json.drawn_writtenItems {style : Json.Style} (hs : style.Faithful) {vs : List Json}
    (h : Drawn P (itemChars vs)) : ∀ t ∈ writtenItems style vs, Drawn P t := by
  cases vs with
  | nil => exact fun t ht => absurd ht List.not_mem_nil
  | cons v vs =>
    obtain ⟨hv, hvs⟩ := List.forall_mem_append.mp h
    exact List.forall_mem_cons.mpr ⟨drawn_written hs hv, drawn_writtenItems hs hvs⟩

theorem Json.drawn_writtenMembers {style : Json.Style} (hs : style.Faithful)
    {ms : List (Text × Json)} (h : Drawn P (memberChars ms)) :
    ∀ t ∈ writtenMembers style ms, Drawn P t := by
  cases ms with
  | nil => exact fun t ht => absurd ht List.not_mem_nil
  | cons m ms =>
    obtain ⟨k, v⟩ := m
    obtain ⟨hkv, hms⟩ := List.forall_mem_append.mp h
    obtain ⟨hk, hv⟩ := List.forall_mem_append.mp hkv
    have hkey : Drawn P (literal style.ascii k) := by
      rw [hs.ascii]
      exact Drawn.literal hk
    have hm := (hkey.append (drawn_of_isAscii hs.keySeparator)).append (drawn_written hs hv)
    exact List.forall_mem_cons.mpr ⟨hm, drawn_writtenMembers hs hms⟩

end

/-! ## parts of a value -/

theorem Json.drawn_itemChars_iff {vs : List Json} :
    Drawn P (itemChars vs) ↔ ∀ v ∈ vs, Drawn P v.chars := by
  induction vs with
  | nil => exact ⟨fun _ v hv => absurd hv List.not_mem_nil, fun _ => drawn_nil⟩
  | cons v vs ih =>
    rw [itemChars, List.forall_mem_cons, ← ih]
    exact List.forall_mem_append

theorem Json.drawn_memberChars {ms : List (Text × Json)} (h : Drawn P (memberChars ms)) :
    ∀ m ∈ ms, Drawn P m.1 ∧ Drawn P m.2.chars := by
  induction ms with
  | nil => exact fun m hm => absurd hm List.not_mem_nil
  | cons m ms ih =>
    obtain ⟨k, v⟩ := m
    obtain ⟨hkv, hms⟩ := List.forall_mem_append.mp h
    exact List.forall_mem_cons.mpr ⟨List.forall_mem_append.mp hkv, ih hms⟩

end DatabaseTypes
