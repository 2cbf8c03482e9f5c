import DatabaseTypes.Proofs.Json.Literal
import DatabaseTypes.Proofs.Json.Number
import DatabaseTypes.Text.Lines

/-!
# Values are read back

A value that comes out of a JSON text is written in ASCII on one line, and reading the line gives the value again.  This
needs nothing of the value but that the halves of characters are apart in its texts: its integers are not too long to be
read, its numbers are those of their shortest decimals, it is not nested too deep, and no object has a key twice.

* `Json.Fits`              a value that can be read, nested so deep at most
* `Json.halvesApart`       the halves of characters are apart in all texts of a value
* `Json.fits_ofText`       what is read fits
* `Json.readValue_written`  and is read back where nothing follows that belongs to a number
* `Json.ofText_line`       a line that is a value
* `Json.plainAscii_written`  every character is a printable one of ASCII
-/

namespace DatabaseTypes.Json

/-! ## values that can be read -/

/-- a value that can be read where lists and objects may go so many levels deep -/
inductive Fits : Nat → Json → Prop where
  | null {d : Nat} : Fits d .null
  | bool {d : Nat} {b : Bool} : Fits d (.bool b)
  | int {d : Nat} {i : Int} (h : i.natAbs < 10 ^ Limit.digits) : Fits d (.int i)
  | float {d : Nat} {x : Binary64} (h : x.Normal) : Fits d (.float x)
  | text {d : Nat} {t : Text} : Fits d (.text t)
  | list {d : Nat} {items : List Json} (h : ∀ v ∈ items, Fits d v) : Fits (d + 1) (.list items)
  | object {d : Nat} {members : List (Text × Json)} (h : ∀ m ∈ members, Fits d m.2)
    (hkeys : (members.map Prod.fst).Nodup) : Fits (d + 1) (.object members)

theorem Fits.of_mem {d : Nat} {members : List (Text × Json)} (h : Fits (d + 1) (.object members)) {m : Text × Json}
    (hm : m ∈ members) : Fits d m.2 := by
  cases h with
  | object h _ => exact h m hm

/-! ## what is read fits -/

section
variable {d fuel : Nat} {t rest : Text} {v : Json}

theorem fits_integerOf {negative : Bool} {digits : Text} (hdigits : Decimal.Digits digits)
    (h : integerOf negative digits = .ok v) : Fits d v := by
  unfold integerOf at h
  split at h
  · cases h
  · rename_i hlength
    cases h
    refine .int (lt_of_eq_of_lt ?_ ((Decimal.digitsValue_lt hdigits).trans_le
      (Nat.pow_le_pow_right (by decide) (Nat.le_of_not_lt hlength))))
    split
    · exact Int.natAbs_neg _
    · rfl

theorem fits_readUnsigned {place : Text} {negative : Bool} (h : readUnsigned place negative t = .ok (v, rest)) :
    Fits d v := by
  unfold readUnsigned at h
  split at h
  · cases h
  · rename_i whole _ hwhole
    dsimp only at h
    split at h
    · cases h
      exact .float (Binary64.normal_ofDecimal _ _ _)
    · split at h
      · cases hi : integerOf negative whole with
        | error s => rw [hi] at h; cases h
        | ok w =>
          rw [hi] at h
          cases h
          exact fits_integerOf (digits_of_wholePart? hwhole) hi
      · cases h
        exact .float (Binary64.normal_ofDecimal _ _ _)

theorem fits_readNumber (h : readNumber t = .ok (v, rest)) : Fits d v := by
  unfold readNumber at h
  split at h
  · split at h
    · cases h
      exact .float trivial
    · exact fits_readUnsigned h
  · exact fits_readUnsigned h

theorem fits_readWord? (h : readWord? t = some (v, rest)) : Fits d v := by
  obtain ⟨w, hw, hread⟩ := List.exists_of_findSome?_eq_some h
  obtain ⟨u, _, hv⟩ := Option.map_eq_some_iff.mp hread
  obtain rfl := (Prod.mk.inj hv).1
  have hall : ∀ w ∈ words, w.2 = .null ∨ (∃ b, w.2 = .bool b) ∨ ∃ x, w.2 = .float x ∧ x.Normal := by
    simp [words, Binary64.Normal]
  rcases hall w hw with e | ⟨b, e⟩ | ⟨x, e, hx⟩
  · exact e ▸ .null
  · exact e ▸ .bool
  · exact e ▸ .float hx

/-- what reading in so many steps gives fits: values, and the items and members of one level -/
structure FitsWithin (fuel : Nat) : Prop where
  value {d : Nat} {t rest : Text} {v : Json} (h : readValue d fuel t = .ok (v, rest)) : Fits d v
  items {d : Nat} {t rest : Text} {read items : List Json} (hread : ∀ v ∈ read, Fits d v)
    (h : readItems d fuel read t = .ok (items, rest)) : ∀ v ∈ items, Fits d v
  members {d : Nat} {t rest : Text} {read members : List (Text × Json)} (hread : ∀ m ∈ read, Fits d m.2)
    (hkeys : (read.map Prod.fst).Nodup) (h : readMembers d fuel read t = .ok (members, rest)) :
    (∀ m ∈ members, Fits d m.2) ∧ (members.map Prod.fst).Nodup

theorem fitsWithin (fuel : Nat) : FitsWithin fuel := by
  induction fuel with
  | zero => exact ⟨(nomatch ·), fun _ => (nomatch ·), fun _ _ => (nomatch ·)⟩
  | succ fuel ih =>
    refine ⟨?_, ?_, ?_⟩
    · intro d t rest v h
      unfold readValue at h
      split at h
      · split at h
        · cases h
        · cases h
          exact .text
      · cases d with
        | zero => cases h
        | succ d =>
          dsimp only [deeper] at h
          split at h
          · cases h
            exact .list (List.forall_mem_nil _)
          · split at h
            · cases h
            · rename_i hitems
              cases h
              exact .list (ih.items (List.forall_mem_nil _) hitems)
      · cases d with
        | zero => cases h
        | succ d =>
          dsimp only [deeper] at h
          split at h
          · cases h
            exact .object (List.forall_mem_nil _) List.nodup_nil
          · split at h
            · cases h
            · rename_i hmembers
              cases h
              obtain ⟨hvalues, hkeys⟩ := ih.members (List.forall_mem_nil _) List.nodup_nil hmembers
              exact .object hvalues hkeys
      · split at h
        · rename_i hword
          cases h
          exact fits_readWord? hword
        · exact fits_readNumber h
    · intro d t rest read items hread h
      unfold readItems at h
      split at h
      · cases h
      · rename_i v _ hvalue
        have hread' : ∀ w ∈ v :: read, Fits d w := List.forall_mem_cons.mpr ⟨ih.value hvalue, hread⟩
        split at h
        · cases h
          exact fun w hw => hread' w (List.mem_reverse.mp hw)
        · exact ih.items hread' h
        · cases h
    · intro d t rest read members hread hkeys h
      unfold readMembers at h
      split at h
      · split at h
        · cases h
        · rename_i key _ _
          split at h
          · split at h
            · cases h
            · rename_i v _ hvalue
              have hread' : ∀ m ∈ Members.put key v read, Fits d m.2 := by
                intro m hm
                rcases Members.mem_put hm with rfl | hm
                · exact ih.value hvalue
                · exact hread m hm
              split at h
              · cases h
                exact ⟨hread', Members.nodup_put hkeys key v⟩
              · exact ih.members hread' (Members.nodup_put hkeys key v) h
              · cases h
          · cases h
      · cases h

/-- the value of a text is nested no deeper than may be read -/
theorem fits_ofText (h : ofText t = .ok v) : Fits Limit.depth v := by
  unfold ofText at h
  split at h
  · cases h
  · split at h
    · cases h
    · rename_i hwhole
      cases h
      unfold readWhole at hwhole
      split at hwhole
      · cases hwhole
      · rename_i hvalue
        split at hwhole
        · cases hwhole
          exact (fitsWithin _).value hvalue
        · cases hwhole

end

/-! ## texts whose halves are apart -/

mutual

/-- are the halves of characters apart in all texts of a value, keys among them? -/
def halvesApart : Json → Bool
  | .text t => t.halvesApart
  | .list items => itemsApart items
  | .object members => membersApart members
  | _ => true

/-- are they apart in the items of a list? -/
def itemsApart : List Json → Bool
  | [] => true
  | v :: vs => halvesApart v && itemsApart vs

/-- are they apart in the members of an object? -/
def membersApart : List (Text × Json) → Bool
  | [] => true
  | (k, v) :: ms => k.halvesApart && halvesApart v && membersApart ms

end

theorem halvesApart_list {items : List Json} (h : (list items).halvesApart = true) :
    ∀ v ∈ items, v.halvesApart = true := by
  have hitems : itemsApart items = true := h
  induction items with
  | nil => exact List.forall_mem_nil _
  | cons v vs ih =>
    obtain ⟨hv, hvs⟩ := Bool.and_eq_true_iff.mp hitems
    exact List.forall_mem_cons.mpr ⟨hv, ih hvs hvs⟩

theorem halvesApart_object {members : List (Text × Json)} (h : (object members).halvesApart = true) :
    ∀ m ∈ members, m.1.halvesApart = true ∧ m.2.halvesApart = true := by
  have hmembers : membersApart members = true := h
  induction members with
  | nil => exact List.forall_mem_nil _
  | cons m ms ih =>
    obtain ⟨hm, hms⟩ := Bool.and_eq_true_iff.mp hmembers
    exact List.forall_mem_cons.mpr ⟨Bool.and_eq_true_iff.mp hm, ih hms hms⟩

/-! ## reading one value -/

section
variable {d fuel : Nat} {t rest : Text} {v : Json}

/-- a number begins with a digit or with a minus sign -/
theorem head_of_readNumber {r : Json × Text} (h : readNumber t = .ok r) :
    ∃ c u, t = c :: u ∧ (c = '-' ∨ Text.isDigit c = true) := by
  cases t with
  | nil => cases h
  | cons c u =>
    refine ⟨c, u, rfl, ?_⟩
    by_cases hc : c = '-'
    · exact .inl hc
    · refine .inr ?_
      by_contra hd
      have hzero : c ≠ '0' := by
        rintro rfl
        exact hd rfl
      have hwhole : wholePart? (c :: u) = none := by
        unfold wholePart?
        split
        · rename_i e
          exact absurd (List.cons.inj e).1 hzero
        · rw [Decimal.spanDigits, List.takeWhile_cons_of_neg hd]
      have hread : readNumber (c :: u) = readUnsigned (c :: u) false (c :: u) := by
        unfold readNumber
        split
        · rename_i e
          exact absurd (List.cons.inj e).1 hc
        · rfl
      rw [hread, readUnsigned, hwhole] at h
      cases h

/-- a number is a value -/
theorem readValue_number {r : Json × Text} (h : readNumber t = .ok r) : readValue d (fuel + 1) t = .ok r := by
  obtain ⟨c, u, rfl, hc⟩ := head_of_readNumber h
  have hne : ∀ x, Text.isDigit x = false → x ≠ '-' → c ≠ x := by
    rintro x hx hminus rfl
    rcases hc with hc | hc
    · exact hminus hc
    · rw [hx] at hc
      cases hc
  have hafter {x : Char} (w : Text) (hx : Text.isDigit x = false) (hminus : x ≠ '-') :
      (Text.after? (x :: w) (c :: u)) = none := if_neg (hne x hx hminus).symm
  have hword : readWord? (c :: u) = none := by
    rw [readWord?, List.findSome?_eq_none_iff]
    intro w hw
    rw [Option.map_eq_none_iff]
    simp only [words, List.mem_cons, List.not_mem_nil, or_false] at hw
    rcases hw with rfl | rfl | rfl | rfl | rfl <;> exact hafter _ rfl (by decide)
  unfold readValue
  split
  · rename_i e
    exact absurd (List.cons.inj e).1 (hne _ (by decide) (by decide))
  · rename_i e
    exact absurd (List.cons.inj e).1 (hne _ (by decide) (by decide))
  · rename_i e
    exact absurd (List.cons.inj e).1 (hne _ (by decide) (by decide))
  · rw [hword]
    exact h

/-- a value begins with no white space -/
theorem skipSpace_of_readValue {r : Json × Text} (h : readValue d fuel t = .ok r) : skipSpace t = t := by
  cases fuel with
  | zero => cases h
  | succ fuel => cases t with
    | nil => rfl
    | cons c u =>
      refine List.dropWhile_cons_of_neg fun hc => ?_
      simp only [isSpace, Bool.or_eq_true, beq_iff_eq] at hc
      rcases hc with ((rfl | rfl) | rfl) | rfl <;> cases h

/-- nor with the bracket that ends a list -/
theorem ne_bracket_of_readValue {r : Json × Text} (h : readValue d fuel t = .ok r) (u : Text) : t ≠ ']' :: u := by
  rintro rfl
  cases fuel with
  | zero => cases h
  | succ fuel => cases h

/-- nor with any character that counts as blank -/
theorem head_of_readValue {r : Json × Text} (h : readValue d fuel t = .ok r) :
    ∃ c u, t = c :: u ∧ Text.isBlank c = false := by
  cases fuel with
  | zero => cases h
  | succ fuel =>
    unfold readValue at h
    split at h
    · exact ⟨_, _, rfl, by decide⟩
    · exact ⟨_, _, rfl, by decide⟩
    · exact ⟨_, _, rfl, by decide⟩
    · split at h
      · rename_i r' hword
        obtain ⟨w, hw, hread⟩ := List.exists_of_findSome?_eq_some hword
        obtain ⟨rest, hafter, _⟩ := Option.map_eq_some_iff.mp hread
        have hwords : ∀ w ∈ words, ∃ c u, w.1 = c :: u ∧ Text.isBlank c = false := by
          intro w hw
          simp only [words, List.mem_cons, List.not_mem_nil, or_false] at hw
          rcases hw with rfl | rfl | rfl | rfl | rfl <;> exact ⟨_, _, rfl, by decide⟩
        obtain ⟨c, u, e, hc⟩ := hwords w hw
        rw [e] at hafter
        cases t with
        | nil => cases hafter
        | cons x t =>
          have hstep : Text.after? (c :: u) (x :: t) = if c = x then Text.after? u t else none := rfl
          rw [hstep] at hafter
          split at hafter
          · rename_i hx
            exact ⟨x, t, rfl, hx ▸ hc⟩
          · cases hafter
      · obtain ⟨c, u, e, hc⟩ := head_of_readNumber h
        refine ⟨c, u, e, ?_⟩
        rcases hc with rfl | hc
        · decide
        · simp only [Text.isDigit, Bool.and_eq_true, decide_eq_true_eq, Char.le_def, UInt32.le_iff_toNat_le] at hc
          change 48 ≤ c.toNat ∧ c.toNat ≤ 57 at hc
          rw [Text.isBlank, if_pos (by omega), Bool.eq_false_iff]
          simp only [ne_eq, Bool.or_eq_true, Bool.and_eq_true, decide_eq_true_eq]
          omega

/-- a value is read back from its text, where no further character of a number follows -/
def ReadsBack (d : Nat) (v : Json) : Prop := ∀ ⦃fuel : Nat⦄ ⦃rest : Text⦄, EndsNumber rest →
  (v.written .wire).length ≤ fuel → readValue d fuel (v.written .wire ++ rest) = .ok (v, rest)

/-- a value that is neither a text nor in brackets is read in one step -/
theorem readsBack_of_step (h : ∀ (fuel : Nat) (rest : Text), EndsNumber rest →
    readValue d (fuel + 1) (v.written .wire ++ rest) = .ok (v, rest)) : ReadsBack d v := by
  intro fuel rest hrest hfuel
  cases fuel with
  | zero =>
    have hread := h 0 [] nofun
    rw [List.eq_nil_of_length_eq_zero (Nat.le_zero.mp hfuel)] at hread
    cases hread
  | succ fuel => exact h fuel rest hrest

theorem readsBack_float {x : Binary64} (h : x.Normal) : ReadsBack d (.float x) := by
  refine readsBack_of_step fun fuel rest hrest => ?_
  cases x with
  | notANumber => rfl
  | infinite negative => cases negative <;> rfl
  | finite negative m e => exact readValue_number (readNumber_float h hrest)

theorem length_le_flatMap (t : Text) : t.length ≤ (t.flatMap (literalChar true)).length := by
  induction t with
  | nil => exact Nat.le_refl 0
  | cons c t ih =>
    have hpos : 0 < (literalChar true c).length := by
      rcases literalChar_wire c with ⟨_, _, e⟩ | ⟨_, _, _, _, e⟩ | e
      · exact e ▸ Nat.zero_lt_succ _
      · exact e ▸ Nat.zero_lt_succ _
      · rw [e, unitEscapes]
        split <;> exact Nat.zero_lt_succ _
    rw [List.flatMap_cons, List.length_append, List.length_cons]
    omega

theorem readsBack_text {t : Text} (h : t.halvesApart = true) : ReadsBack d (.text t) := by
  intro fuel rest _ hfuel
  have htext : (text t).written .wire = '"' :: (t.flatMap (literalChar true) ++ ['"']) := rfl
  rw [htext, List.length_cons, List.length_append, List.length_singleton] at hfuel
  have hlength := length_le_flatMap t
  obtain ⟨fuel, rfl⟩ : ∃ n, fuel = n + 1 := ⟨fuel - 1, by omega⟩
  rw [htext, List.cons_append, List.append_assoc, List.singleton_append, readValue,
    readString_literal h rest (by omega)]

/-- the first item of a list ends before a comma or a bracket -/
theorem exists_items (v : Json) (items : List Json) (rest : Text) : ∃ after, EndsNumber after
    ∧ Text.joined [',', ' '] (writtenItems .wire (v :: items)) ++ ']' :: rest = v.written .wire ++ after := by
  cases items with
  | nil => exact ⟨_, endsNumber_cons (by decide), rfl⟩
  | cons w items =>
    refine ⟨',' :: ' ' :: (Text.joined [',', ' '] (writtenItems .wire (w :: items)) ++ ']' :: rest),
      endsNumber_cons (by decide), ?_⟩
    rw [writtenItems, writtenItems, Text.joined_cons_cons, ← writtenItems, List.append_assoc, List.append_assoc]
    rfl

/-- the items of a list from one on, each of which is read back -/
theorem readItems_written {v : Json} {items : List Json} (h : ∀ w ∈ v :: items, ReadsBack d w) (read : List Json)
    (hfuel : (Text.joined [',', ' '] (writtenItems .wire (v :: items))).length < fuel) :
    readItems d fuel read (Text.joined [',', ' '] (writtenItems .wire (v :: items)) ++ ']' :: rest)
      = .ok (read.reverse ++ v :: items, rest) := by
  induction items generalizing v read fuel with
  | nil =>
    obtain ⟨fuel, rfl⟩ : ∃ n, fuel = n + 1 := ⟨fuel - 1, by omega⟩
    have hv : readValue d fuel (v.written .wire ++ ']' :: rest) = .ok (v, ']' :: rest) :=
      h v List.mem_cons_self (endsNumber_cons (by decide)) (Nat.le_of_lt_succ hfuel)
    have htext : Text.joined [',', ' '] (writtenItems .wire [v]) = v.written .wire := rfl
    rw [htext, readItems, hv, ← List.reverse_cons]
    rfl
  | cons w items ih =>
    obtain ⟨fuel, rfl⟩ : ∃ n, fuel = n + 1 := ⟨fuel - 1, by omega⟩
    have htext : Text.joined [',', ' '] (writtenItems .wire (v :: w :: items))
        = v.written .wire ++ ',' :: ' ' :: Text.joined [',', ' '] (writtenItems .wire (w :: items)) := by
      rw [writtenItems, writtenItems, Text.joined_cons_cons, ← writtenItems, List.append_assoc]
      rfl
    rw [htext, List.length_append, List.length_cons, List.length_cons] at hfuel
    have hmore := List.forall_mem_cons.mp h
    have hv (after : Text) : readValue d fuel (v.written .wire ++ ',' :: ' ' :: after) = .ok (v, ',' :: ' ' :: after) :=
      hmore.1 (endsNumber_cons (by decide)) (by omega)
    -- the item after the comma begins with no white space, as it is read back
    have hnext : skipSpace (' ' :: (Text.joined [',', ' '] (writtenItems .wire (w :: items)) ++ ']' :: rest))
        = Text.joined [',', ' '] (writtenItems .wire (w :: items)) ++ ']' :: rest := by
      obtain ⟨after, hafter, e⟩ := exists_items w items rest
      rw [e]
      exact skipSpace_of_readValue (hmore.2 w List.mem_cons_self hafter le_rfl)
    have hread : readItems d (fuel + 1) read (v.written .wire ++ ',' :: ' '
        :: (Text.joined [',', ' '] (writtenItems .wire (w :: items)) ++ ']' :: rest))
        = readItems d fuel (v :: read)
          (skipSpace (' ' :: (Text.joined [',', ' '] (writtenItems .wire (w :: items)) ++ ']' :: rest))) := by
      rw [readItems, hv]
      rfl
    rw [htext, List.append_assoc, List.cons_append, List.cons_append, hread, hnext, ih hmore.2 (v :: read) (by omega),
      List.reverse_cons, List.append_assoc]
    rfl

theorem readValue_items {u : Text} {items : List Json} (hskip : skipSpace u = u) (hu : ∀ last, u ≠ ']' :: last)
    (h : readItems d fuel [] u = .ok (items, rest)) :
    readValue (d + 1) (fuel + 1) ('[' :: u) = .ok (.list items, rest) := by
  rw [readValue, deeper, hskip]
  split
  · exact absurd rfl (hu _)
  · rw [h]

theorem readsBack_list {items : List Json} (h : ∀ v ∈ items, ReadsBack d v) : ReadsBack (d + 1) (.list items) := by
  intro fuel rest _ hfuel
  have hseparator : Style.wire.separator = [',', ' '] := rfl
  rw [written_list, hseparator] at hfuel ⊢
  rw [List.cons_append, List.cons_append, List.append_assoc, List.singleton_append]
  rw [List.cons_append, List.length_cons, List.length_append, List.length_singleton] at hfuel
  obtain ⟨fuel, rfl⟩ : ∃ n, fuel = n + 1 := ⟨fuel - 1, by omega⟩
  cases items with
  | nil => rfl
  | cons v items =>
    obtain ⟨after, hafter, e⟩ := exists_items v items rest
    have hv := h v List.mem_cons_self hafter le_rfl
    exact readValue_items (e ▸ skipSpace_of_readValue hv) (fun last => e ▸ ne_bracket_of_readValue hv last)
      (readItems_written h [] (by omega))

/-- one member, from its quote on -/
theorem readMembers_member {key u w after : Text} (read : List (Text × Json))
    (hkey : readString fuel u = .ok (key, ':' :: w)) (hv : readValue d fuel (skipSpace w) = .ok (v, after)) :
    readMembers d (fuel + 1) read ('"' :: u) = match skipSpace after with
      | '\x7d' :: last => .ok (Members.put key v read, last)
      | ',' :: next => readMembers d fuel (Members.put key v read) (skipSpace next)
      | other => stop .comma other := by
  have hcolon : skipSpace (':' :: w) = ':' :: w := rfl
  rw [readMembers]
  simp only [hkey, hcolon, hv]
  all_goals rfl

/-- a member whose key and value are read back -/
theorem readMembers_written_member {m : Text × Json} (hkey : m.1.halvesApart = true) (hvalue : ReadsBack d m.2)
    {read : List (Text × Json)} (hnew : m.1 ∉ read.map Prod.fst) {after : Text} (hafter : EndsNumber after)
    (hfuel : (literal true m.1 ++ [':', ' '] ++ m.2.written .wire).length ≤ fuel) :
    readMembers d (fuel + 1) read (literal true m.1 ++ [':', ' '] ++ m.2.written .wire ++ after)
      = match skipSpace after with
        | '\x7d' :: last => .ok (read ++ [m], last)
        | ',' :: next => readMembers d fuel (read ++ [m]) (skipSpace next)
        | other => stop .comma other := by
  have htext : literal true m.1 ++ [':', ' '] ++ m.2.written .wire ++ after
      = '"' :: (m.1.flatMap (literalChar true) ++ '"' :: ':' :: ' ' :: (m.2.written .wire ++ after)) := by
    simp [literal]
  have hlength := length_le_flatMap m.1
  simp only [literal, List.length_append, List.length_cons, List.length_nil] at hfuel
  have hv : readValue d fuel (m.2.written .wire ++ after) = .ok (m.2, after) := hvalue hafter (by omega)
  have hskip : skipSpace (' ' :: (m.2.written .wire ++ after)) = m.2.written .wire ++ after := skipSpace_of_readValue hv
  rw [htext, readMembers_member read (readString_literal hkey _ (by omega)) (hskip ▸ hv), Members.put_of_not_mem hnew]

/-- the members of an object from one on, each of which is read back under a new key -/
theorem readMembers_written {m : Text × Json} {members : List (Text × Json)}
    (h : ∀ n ∈ m :: members, n.1.halvesApart = true ∧ ReadsBack d n.2) {read : List (Text × Json)}
    (hkeys : ((read ++ m :: members).map Prod.fst).Nodup)
    (hfuel : (Text.joined [',', ' '] (writtenMembers .wire (m :: members))).length < fuel) :
    readMembers d fuel read (Text.joined [',', ' '] (writtenMembers .wire (m :: members)) ++ '\x7d' :: rest)
      = .ok (read ++ m :: members, rest) := by
  have hnew : m.1 ∉ read.map Prod.fst := by
    intro hmem
    rw [List.map_append, List.map_cons] at hkeys
    exact (List.disjoint_of_nodup_append hkeys) hmem List.mem_cons_self
  induction members generalizing m read fuel with
  | nil =>
    obtain ⟨fuel, rfl⟩ : ∃ n, fuel = n + 1 := ⟨fuel - 1, by omega⟩
    obtain ⟨hkey, hvalue⟩ := h m List.mem_cons_self
    have htext : Text.joined [',', ' '] (writtenMembers .wire [m])
        = literal true m.1 ++ [':', ' '] ++ m.2.written .wire := rfl
    rw [htext] at hfuel ⊢
    rw [readMembers_written_member hkey hvalue hnew (endsNumber_cons (by decide)) (Nat.le_of_lt_succ hfuel)]
    rfl
  | cons n members ih =>
    obtain ⟨fuel, rfl⟩ : ∃ n, fuel = n + 1 := ⟨fuel - 1, by omega⟩
    obtain ⟨hm, hmembers⟩ := List.forall_mem_cons.mp h
    have htext : Text.joined [',', ' '] (writtenMembers .wire (m :: n :: members))
        = literal true m.1 ++ [':', ' '] ++ m.2.written .wire
          ++ ',' :: ' ' :: Text.joined [',', ' '] (writtenMembers .wire (n :: members)) := by
      simp only [writtenMembers, Text.joined_cons_cons, List.append_assoc]
      rfl
    rw [htext, List.length_append, List.length_cons, List.length_cons] at hfuel
    have hnext (after : Text) :
        skipSpace (' ' :: (Text.joined [',', ' '] (writtenMembers .wire (n :: members)) ++ after))
          = Text.joined [',', ' '] (writtenMembers .wire (n :: members)) ++ after := by
      cases members <;> rfl
    have happend : read ++ m :: n :: members = (read ++ [m]) ++ n :: members := by
      rw [List.append_assoc, List.singleton_append]
    rw [happend] at hkeys ⊢
    rw [htext, List.append_assoc, List.cons_append, List.cons_append,
      readMembers_written_member hm.1 hm.2 hnew (endsNumber_cons (by decide)) (by omega)]
    show readMembers d fuel (read ++ [m]) (skipSpace (' ' :: _)) = _
    rw [hnext]
    refine ih hmembers hkeys (by omega) fun hmem => ?_
    rw [List.map_append, List.map_cons] at hkeys
    exact (List.disjoint_of_nodup_append hkeys) hmem List.mem_cons_self

theorem readValue_member {u : Text} : readValue (d + 1) (fuel + 1) ('\x7b' :: '"' :: u)
    = match readMembers d fuel [] ('"' :: u) with
      | .error s => .error s
      | .ok (members, rest) => .ok (.object members, rest) :=
  rfl

theorem readsBack_object {members : List (Text × Json)}
    (h : ∀ m ∈ members, m.1.halvesApart = true ∧ ReadsBack d m.2) (hkeys : (members.map Prod.fst).Nodup) :
    ReadsBack (d + 1) (.object members) := by
  intro fuel rest _ hfuel
  have hseparator : Style.wire.separator = [',', ' '] := rfl
  rw [written_object, hseparator] at hfuel ⊢
  rw [List.cons_append, List.cons_append, List.append_assoc, List.singleton_append]
  rw [List.cons_append, List.length_cons, List.length_append, List.length_singleton] at hfuel
  obtain ⟨fuel, rfl⟩ : ∃ n, fuel = n + 1 := ⟨fuel - 1, by omega⟩
  cases members with
  | nil => rfl
  | cons m members =>
    have hmembers : readMembers d fuel []
        (Text.joined [',', ' '] (writtenMembers .wire (m :: members)) ++ '\x7d' :: rest)
        = .ok (m :: members, rest) := readMembers_written h hkeys (by omega)
    obtain ⟨u, hu⟩ : ∃ u, Text.joined [',', ' '] (writtenMembers .wire (m :: members)) ++ '\x7d' :: rest
        = '"' :: u := by
      cases members <;> exact ⟨_, rfl⟩
    rw [hu] at hmembers ⊢
    rw [readValue_member, hmembers]

/-- **A value that can be read is read back**, if the halves of characters are apart in its texts. -/
theorem readValue_written (h : Fits d v) (hapart : v.halvesApart = true) : ReadsBack d v := by
  induction h with
  | null => exact readsBack_of_step fun _ _ _ => rfl
  | @bool _ b =>
    refine readsBack_of_step fun _ _ _ => ?_
    cases b <;> rfl
  | int hi => exact readsBack_of_step fun _ _ hrest => readValue_number (readNumber_ofInt hi hrest)
  | float hx => exact readsBack_float hx
  | text => exact readsBack_text hapart
  | list _ ih => exact readsBack_list fun v hv => ih v hv (halvesApart_list hapart v hv)
  | object _ hkeys ih =>
    exact readsBack_object (fun m hm => ⟨(halvesApart_object hapart m hm).1,
      ih m hm (halvesApart_object hapart m hm).2⟩) hkeys

end

/-! ## lines -/

/-- a printable character of ASCII -/
def isPlainAscii (c : Char) : Bool := 32 ≤ c.toNat && c.toNat < 127

/-- a text of such characters -/
def PlainAscii (t : Text) : Prop := ∀ c ∈ t, isPlainAscii c = true

theorem plainAscii_nil : PlainAscii [] := fun _ hc => absurd hc List.not_mem_nil

theorem PlainAscii.append {t u : Text} (ht : PlainAscii t) (hu : PlainAscii u) : PlainAscii (t ++ u) :=
  List.forall_mem_append.mpr ⟨ht, hu⟩

theorem PlainAscii.cons {c : Char} {t : Text} (hc : isPlainAscii c = true) (ht : PlainAscii t) : PlainAscii (c :: t) :=
  List.forall_mem_cons.mpr ⟨hc, ht⟩

theorem plainAscii_flatMap {α : Type} {f : α → Text} {xs : List α} (h : ∀ x ∈ xs, PlainAscii (f x)) :
    PlainAscii (xs.flatMap f) := by
  intro c hc
  obtain ⟨x, hx, hc⟩ := List.mem_flatMap.mp hc
  exact h x hx c hc

theorem plainAscii_joined {sep : Text} (hsep : PlainAscii sep) {ts : List Text} (h : ∀ t ∈ ts, PlainAscii t) :
    PlainAscii (Text.joined sep ts) := by
  cases ts with
  | nil => exact plainAscii_nil
  | cons t ts =>
    rw [Text.joined_cons_eq_flatMap]
    exact (h t List.mem_cons_self).append
      (plainAscii_flatMap fun u hu => hsep.append (h u (List.mem_cons_of_mem _ hu)))

theorem plainAscii_numeral {t : Text} (h : Numeral t) : PlainAscii t := by
  intro c hc
  have hn := h c hc
  simp only [Text.isNumeral, Bool.or_eq_true, decide_eq_true_eq] at hn
  rcases hn with ((hn | rfl) | rfl) | rfl
  · have hrange := Key.toNat_of_isTail hn
    have hlast : c.toNat ≠ 127 := by
      intro e
      have hc : c = Char.ofNat 127 := by rw [← e, Char.ofNat_toNat]
      rw [hc] at hn
      cases hn
    simp only [isPlainAscii, Bool.and_eq_true, decide_eq_true_eq]
    omega
  · decide
  · decide
  · decide

theorem plainAscii_unitEscape (n : Nat) : PlainAscii (unitEscape n) := by
  have hdigit : ∀ m < 16, isPlainAscii (Nat.digitChar m) = true := by decide
  refine .cons (by decide) (.cons (by decide) fun c hc => ?_)
  obtain ⟨m, rfl⟩ := Text.exists_of_mem_hexadecimal hc
  exact hdigit _ (Nat.mod_lt _ (by decide))

theorem plainAscii_literalChar (c : Char) : PlainAscii (literalChar true c) := by
  have hescapes : ∀ p ∈ escapes, isPlainAscii p.2 = true := by decide
  rcases literalChar_wire c with ⟨d, hd, e⟩ | ⟨hge, hlt, _, _, e⟩ | e
  · rw [e]
    exact .cons (by decide) (.cons (hescapes _ hd) plainAscii_nil)
  · rw [e]
    refine .cons ?_ plainAscii_nil
    simp only [isPlainAscii, Bool.and_eq_true, decide_eq_true_eq]
    exact ⟨hge, hlt⟩
  · rw [e, unitEscapes]
    split
    · exact plainAscii_unitEscape _
    · exact (plainAscii_unitEscape _).append (plainAscii_unitEscape _)

theorem plainAscii_literal (t : Text) : PlainAscii (literal true t) :=
  ((plainAscii_flatMap fun c _ => plainAscii_literalChar c).append (.cons (by decide) plainAscii_nil)).cons (by decide)

theorem plainAscii_separator : PlainAscii Style.wire.separator :=
  .cons (by decide) (.cons (by decide) plainAscii_nil)

mutual

/-- **A value is written on one line**, in the printable characters of ASCII. -/
theorem plainAscii_written (v : Json) : PlainAscii (v.written .wire) := by
  cases v with
  | null => exact plainAscii_numeral (numeral_constant rfl)
  | bool b => cases b <;> exact plainAscii_numeral (numeral_constant rfl)
  | int i => exact plainAscii_numeral (numeral_ofInt i)
  | float x => exact plainAscii_numeral (numeral_floatText x)
  | text t => exact plainAscii_literal t
  | list items =>
    have hitems := plainAscii_joined plainAscii_separator (plainAscii_writtenItems items)
    exact (hitems.append (.cons (by decide) plainAscii_nil)).cons (by decide)
  | object members =>
    have hmembers := plainAscii_joined plainAscii_separator (plainAscii_writtenMembers members)
    exact (hmembers.append (.cons (by decide) plainAscii_nil)).cons (by decide)

theorem plainAscii_writtenItems (vs : List Json) : ∀ t ∈ writtenItems .wire vs, PlainAscii t := by
  cases vs with
  | nil => exact List.forall_mem_nil _
  | cons v vs => exact List.forall_mem_cons.mpr ⟨plainAscii_written v, plainAscii_writtenItems vs⟩

theorem plainAscii_writtenMembers (ms : List (Text × Json)) : ∀ t ∈ writtenMembers .wire ms, PlainAscii t := by
  cases ms with
  | nil => exact List.forall_mem_nil _
  | cons m ms =>
    have hcolon : PlainAscii Style.wire.keySeparator := .cons (by decide) (.cons (by decide) plainAscii_nil)
    exact List.forall_mem_cons.mpr
      ⟨((plainAscii_literal m.1).append hcolon).append (plainAscii_written m.2), plainAscii_writtenMembers ms⟩

end

/-- **A line that is a value is read as the value**, if the halves of characters are apart in it. -/
theorem ofText_line {v : Json} (h : Fits Limit.depth v) (hapart : v.halvesApart = true) :
    ofText (v.written .wire ++ ['\n']) = .ok v := by
  have hread : readValue Limit.depth (2 * (v.written .wire ++ ['\n']).length + 2) (v.written .wire ++ ['\n'])
      = .ok (v, ['\n']) :=
    readValue_written h hapart (endsNumber_cons (by decide)) (by rw [List.length_append]; omega)
  have hwhole : readWhole (v.written .wire ++ ['\n']) = .ok v := by
    rw [readWhole, skipSpace_of_readValue hread, hread]
    rfl
  unfold ofText
  split
  · rename_i u e
    cases hw : v.written .wire with
    | nil =>
      rw [hw] at e
      cases e
    | cons c w =>
      rw [hw] at e
      have hc := plainAscii_written v c (hw ▸ List.mem_cons_self)
      rw [(List.cons.inj e).1] at hc
      cases hc
  · rw [hwhole]

/-- a blank line is no value -/
theorem not_allBlank_of_ofText {t : Text} {v : Json} (h : ofText t = .ok v) : t.allBlank = false := by
  unfold ofText at h
  split at h
  · cases h
  · split at h
    · cases h
    · rename_i hwhole
      unfold readWhole at hwhole
      split at hwhole
      · cases hwhole
      · rename_i hvalue
        obtain ⟨c, u, e, hc⟩ := head_of_readValue hvalue
        have hmem : c ∈ skipSpace t := e ▸ List.mem_cons_self
        rw [Text.allBlank, List.all_eq_false]
        exact ⟨c, List.dropWhile_subset isSpace hmem, by rw [hc]; decide⟩

end DatabaseTypes.Json
