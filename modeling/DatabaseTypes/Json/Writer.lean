import DatabaseTypes.Decimal.Shortest
import DatabaseTypes.Json.Basic
import DatabaseTypes.Text.Basic
import DatabaseTypes.Text.Printable

/-!
# The texts of JSON values

A value is written as JSON text, or displayed in messages and in generated names: there a text stands for itself, and
inside a list or an object it is quoted.

* `Json.Style`           which characters are escaped, and what separates items
* `Json.literal`         a text as a string literal
* `Json.written`         a value as JSON text
* `Json.display`         the text of a value
* `Json.quotedDisplay`   the text of a value inside another one
-/

namespace DatabaseTypes.Json

/-- how JSON text is written -/
structure Style where
  /-- are the characters above ASCII written by their UTF-16 units? -/
  ascii : Bool := true
  /-- what stands between two items or members -/
  separator : Text := [',', ' ']
  /-- what stands between a key and its value -/
  keySeparator : Text := [':', ' ']

/-- every character but the necessary escapes stands for itself -/
def Style.plain : Style := { ascii := false }

/-- the same without any space between the parts -/
def Style.compact : Style := { ascii := false, separator := [','], keySeparator := [':'] }

/-- ASCII alone -/
def Style.wire : Style := {}

/-- a UTF-16 unit as an escape -/
def unitEscape (n : Nat) : Text := ['\\', 'u'] ++ Text.hexadecimal 4 n

/-- the escapes of a code point by its UTF-16 units: one, or a surrogate pair -/
def unitEscapes (n : Nat) : Text :=
  if n < 0x10000 then unitEscape n
  else unitEscape (0xd800 + (n - 0x10000) / 0x400) ++ unitEscape (0xdc00 + (n - 0x10000) % 0x400)

/-- one character of a string literal -/
def literalChar (ascii : Bool) (c : Char) : Text :=
  if c = '"' then ['\\', '"']
  else if c = '\\' then ['\\', '\\']
  else if c = '\n' then ['\\', 'n']
  else if c = '\r' then ['\\', 'r']
  else if c = '\t' then ['\\', 't']
  else if c = '\x08' then ['\\', 'b']
  else if c = '\x0c' then ['\\', 'f']
  else if c.toNat < 32 then unitEscape c.toNat
  else if ascii && 127 ≤ c.toNat then unitEscapes (charCode c)
  else [c]

/-- the characters that have an escape of their own, with the character that names them in it -/
def escapes : List (Char × Char) :=
  [('"', '"'), ('\\', '\\'), ('\n', 'n'), ('\r', 'r'), ('\t', 't'), ('\x08', 'b'), ('\x0c', 'f')]

/-- a character is written by the escape of its own, by its number, or as it is -/
theorem literalChar_eq (c : Char) :
    (∃ d, (c, d) ∈ escapes ∧ literalChar false c = ['\\', d])
      ∨ (c.toNat < 32 ∧ literalChar false c = '\\' :: 'u' :: Text.hexadecimal 4 c.toNat)
      ∨ (32 ≤ c.toNat ∧ c ≠ '"' ∧ c ≠ '\\' ∧ literalChar false c = [c]) := by
  generalize h : literalChar false c = l
  by_cases he : c ∈ escapes.map Prod.fst
  · obtain ⟨⟨c, d⟩, hd, rfl⟩ := List.mem_map.mp he
    have hall : ∀ p ∈ escapes, literalChar false p.1 = ['\\', p.2] := by decide
    exact .inl ⟨d, hd, h.symm.trans (hall _ hd)⟩
  · have hne : ∀ d ∈ escapes.map Prod.fst, c ≠ d := fun d hd e => he (e ▸ hd)
    rw [literalChar, if_neg (hne _ (by decide)), if_neg (hne _ (by decide)),
      if_neg (hne _ (by decide)), if_neg (hne _ (by decide)), if_neg (hne _ (by decide)),
      if_neg (hne _ (by decide)), if_neg (hne _ (by decide))] at h
    by_cases hc : c.toNat < 32
    · rw [if_pos hc] at h
      exact .inr (.inl ⟨hc, h.symm⟩)
    · rw [if_neg hc] at h
      exact .inr (.inr ⟨Nat.le_of_not_lt hc, hne _ (by decide), hne _ (by decide), h.symm⟩)

/-- a text as a string literal in double quotes -/
def literal (ascii : Bool) (t : Text) : Text := '"' :: t.flatMap (literalChar ascii) ++ ['"']

/-- a number; the values that JSON lacks have names -/
def floatText : Binary64 → Text
  | .notANumber => "NaN"
  | .infinite s => if s then "-Infinity" else "Infinity"
  | x => x.text

mutual

/-- a value as JSON text -/
def written (style : Style) : Json → Text
  | .null => "null"
  | .bool true => "true"
  | .bool false => "false"
  | .int i => Text.ofInt i
  | .float x => floatText x
  | .text t => literal style.ascii t
  | .list items => '[' :: Text.joined style.separator (writtenItems style items) ++ [']']
  | .object members =>
    '\x7b' :: Text.joined style.separator (writtenMembers style members) ++ ['\x7d']

/-- the items of a list as JSON texts -/
def writtenItems (style : Style) : List Json → List Text
  | [] => []
  | v :: vs => written style v :: writtenItems style vs

/-- the members of an object as JSON texts -/
def writtenMembers (style : Style) : List (Text × Json) → List Text
  | [] => []
  | (k, v) :: ms =>
    (literal style.ascii k ++ style.keySeparator ++ written style v) :: writtenMembers style ms

end

theorem written_text (style : Style) (t : Text) : (text t).written style = literal style.ascii t :=
  rfl

theorem written_list (style : Style) (items : List Json) : (list items).written style
    = '[' :: Text.joined style.separator (writtenItems style items) ++ [']'] := rfl

theorem written_object (style : Style) (members : List (Text × Json)) :
    (object members).written style
      = '\x7b' :: Text.joined style.separator (writtenMembers style members) ++ ['\x7d'] := rfl

theorem writtenItems_eq_map (style : Style) (vs : List Json) :
    writtenItems style vs = vs.map (written style) := by
  induction vs with
  | nil => rfl
  | cons v vs ih => exact congrArg (v.written style :: ·) ih

/-! ## display -/

mutual

/-- the text of a value inside another one -/
def quotedDisplay : Json → Text
  | .null => "None"
  | .bool true => "True"
  | .bool false => "False"
  | .int i => Text.ofInt i
  | .float x => x.text
  | .text t => t.quoted
  | .list items => '[' :: Text.joined ", " (itemDisplays items) ++ [']']
  | .object members => '\x7b' :: Text.joined ", " (memberDisplays members) ++ ['\x7d']

/-- the texts of the items of a list -/
def itemDisplays : List Json → List Text
  | [] => []
  | v :: vs => quotedDisplay v :: itemDisplays vs

/-- the texts of the members of an object -/
def memberDisplays : List (Text × Json) → List Text
  | [] => []
  | (k, v) :: ms => (k.quoted ++ [':', ' '] ++ quotedDisplay v) :: memberDisplays ms

end

/-- the text of a value -/
def display : Json → Text
  | .text t => t
  | v => quotedDisplay v

end DatabaseTypes.Json
