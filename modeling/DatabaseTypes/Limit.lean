import DatabaseTypes.Text.Basic

/-!
# Limits

What is well formed but too large to be worked on.

* `Limit.digits`     the most decimal digits of an integer
* `Limit.depth`, `Limit.nodes`   how deep collections may be nested
* `Limit`            the limits that can be exceeded
* `Limit.message`    which limit is exceeded, in words
-/

namespace DatabaseTypes

/-- a limit that is exceeded -/
inductive Limit where
  /-- an integer with so many decimal digits is read -/
  | digitsRead (count : Nat)
  /-- an integer with too many decimal digits is written -/
  | digitsWritten
  /-- lists are nested too deep -/
  | listDepth
  /-- objects are nested too deep -/
  | objectDepth
  /-- lists in brackets of a settings file are nested too deep -/
  | bracketDepth
  /-- other collections of a settings file are nested too deep -/
  | nodeDepth
  /-- settings that hold themselves override others without an end -/
  | endlessOverride
  /-- a text is looked for without an end in settings that hold themselves -/
  | endlessText
  deriving DecidableEq

namespace Limit

/-- the most decimal digits of an integer that is read or written -/
def digits : Nat := 4300

/-- how deep the lists and objects of a JSON text may be nested, and how deep settings may override
others -/
def depth : Nat := 980

/-- how deep the collections of a settings file may be nested -/
def nodes : Nat := 490

/-- how to allow more digits -/
def digitsAdvice : Text := "; use sys.set_int_max_str_digits() to increase the limit"

/-- the limit in words -/
def message : Limit → Text
  | .digitsRead count =>
    "Exceeds the limit (" ++ Text.ofNat digits ++ " digits) for integer string conversion: value has "
      ++ Text.ofNat count ++ " digits" ++ digitsAdvice
  | .digitsWritten =>
    "Exceeds the limit (" ++ Text.ofNat digits ++ " digits) for integer string conversion"
      ++ digitsAdvice
  | .listDepth =>
    "maximum recursion depth exceeded while decoding a JSON array from a unicode string"
  | .objectDepth =>
    "maximum recursion depth exceeded while decoding a JSON object from a unicode string"
  | .bracketDepth | .endlessOverride => "maximum recursion depth exceeded while calling a Python object"
  | .nodeDepth | .endlessText => "maximum recursion depth exceeded"

/-- is a limit about the number of digits? -/
def isAboutDigits : Limit → Bool
  | .digitsRead _ | .digitsWritten => true
  | _ => false

/-- does an integer have more decimal digits than may be written? -/
def exceedsDigits (i : Int) : Bool := decide (Nat.pow 10 digits ≤ i.natAbs)

end Limit
end DatabaseTypes
