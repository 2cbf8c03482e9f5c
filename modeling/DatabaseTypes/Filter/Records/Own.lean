import DatabaseTypes.Filter.Records.State

/-!
# The functions that there are without a script

* `Filter.Records.portion`      a part of a text, by its place and size
* `Filter.Records.Chances`      random numbers that follow from a number
* `Filter.Records.formatted`    values in a format
* `Filter.Records.ownResult`    the value of a function for values
-/

namespace DatabaseTypes.Filter.Records

/-! ## texts -/

/-- the whole number that is nearest to a number; of two the even one -/
def nearest (x : Binary64) : Int :=
  let bound : Int := (Nat.pow 2 62 : Nat)
  match x with
  | .infinite negative => if negative then -bound else bound
  | .notANumber => 0
  | x =>
    let (num, den) := x.magnitude
    let q := num / den
    let twice := 2 * (num % den)
    let n : Nat := if twice < den then q else if den < twice then q + 1 else if q % 2 = 0 then q else q + 1
    max (-bound) (min bound (if x.isNegative then -(n : Int) else n))

/-- the part of a text from a place on, up to another place if one is given -/
def portion (t : Text) (first : Binary64) (size : Option Binary64) : Text :=
  let begins := nearest first
  let final : Int := match size with
    | some n => nearest (first.plus n)
    | none => t.length + 1
  let skipped := (begins - 1).toNat
  (t.take (final - 1).toNat).drop skipped

/-- the place of a text in another one, or zero; nothing is at the front -/
def placeIn (t : Text) : Text → Nat → Nat
  | [], n => if t.isEmpty then n else 0
  | c :: u, n => if Text.startsWith t (c :: u) then n else placeIn t u (n + 1)

/-! ## random numbers -/

/-- thirty-one numbers, the newest one last, of which the next one is made -/
abbrev Chances := Array Nat

/-- the number after others -/
def Chances.next (cs : Chances) : Nat := ((cs[0]?).getD 0 + (cs[28]?).getD 0) % Nat.pow 2 32

/-- the numbers after the next one is made -/
def Chances.further (c : Chances) : Chances := (c.extract 1 c.size).push c.next

/-- one number more does not change how many are kept -/
theorem Chances.size_further (c : Chances) (h : 0 < c.size) : c.further.size = c.size := by
  simp [further]; omega

/-- the numbers that follow from a number -/
def Chances.ofSeed (seed : Nat) : Chances :=
  let word (w : Int) : Int :=
    let next := 16807 * w.tmod 127773 - 2836 * w.tdiv 127773
    if next < 0 then next + 2147483647 else next
  let first : Int := if seed = 0 then 1 else if seed < Nat.pow 2 31 then seed else seed - (Nat.pow 2 32 : Nat)
  let words := (List.range 30).foldl (fun (ws : List Int) _ => word (ws.headD 1) :: ws) [first]
  let own : Chances := (words.reverse.map fun (w : Int) => (w % ((Nat.pow 2 32 : Nat) : Int)).toNat).toArray
  (List.range 310).foldl (fun (c : Chances) _ => c.further) own

/-- a number between zero and one -/
def chance : Step Value := fun s =>
  let c : Chances := if s.chances.isEmpty then Chances.ofSeed 1 else s.chances
  let x := Binary64.ofQuotient false (c.next / 2) (Nat.pow 2 31 - 1)
  (.ok (.number x), { s with chances := c.further })

/-- random numbers begun anew; the value is what they were begun with before -/
def beginChances (v : Value) : Step Value := fun s =>
  let x := v.toNumber
  (.ok (.number s.seed),
    { s with seed := x, chances := Chances.ofSeed (wholePart x % ((Nat.pow 2 32 : Nat) : Int)).toNat })

/-! ## formats -/

/-- why values are not in a format, in words -/
def FormatFault.message (name format : Text) : FormatFault → Text
  | .tooFew => "not enough arguments passed to " ++ name ++ "(\"" ++ format ++ "\")"
  | .improper n => "improper conversion(number " ++ Text.ofNat n ++ ") in " ++ name ++ "(\"" ++ format ++ "\")"

/-- values in a format, of which the first one is the format, and what is wrong with it -/
def formatted (name : Text) (vs : List Value) : Step (Text × Option Text) := do
  match vs with
  | [] => pure ([], none)
  | v :: vs =>
    let format ← textOf v
    let numbers := (← get).format
    let reading : Reading := { number := Value.toNumber, text := Value.toText numbers }
    let (t, fault) := reading.formatted format vs
    pure (t, fault.map fun f => f.message name format)

/-! ## functions -/

/-- the functions of one number -/
def numberFunctions : List (Text × (Binary64 → Binary64)) := [
  ("sin", Binary64.through Float.sin), ("cos", Binary64.through Float.cos),
  ("exp", Binary64.through Float.exp), ("log", Binary64.through Float.log),
  ("sqrt", Binary64.through Float.sqrt), ("int", Binary64.truncated)]

/-- the status of a command that a shell carries out; it finds everything written -/
def runCommand (command : Text) : Step Value := do
  letAllGo
  let (t, status) ← carriedOut command none
  emit t
  pure (.ofNat status)

/-- what is held back for a name, let go; one below zero if nothing is open by it -/
def letGoBy (name : Text) : Step Value := do
  let s ← get
  let isIt (d : Drain) : Bool := d.name == name || (d.isOwn && ownOutputNames.contains name)
  if s.drains.any isIt then
    let drains ← s.drains.mapM fun d => if isIt d then letGo d else pure d
    modify fun s => { s with drains }
    pure (.ofNat 0)
  else pure (.number (.ofInt (-1)))

/-- the value of a function for values -/
def ownResult (name : Text) (vs : List Value) : Step Value := do
  let text (n : Nat) : Step Text := textOf ((vs[n]?).getD .unset)
  let number (n : Nat) : Binary64 := ((vs[n]?).getD .unset).toNumber
  match numberFunctions.lookup name with
  | some f => pure (.number (f (number 0)))
  | none =>
    if name = "length" then
      if vs.isEmpty then pure (.ofNat (← record).length) else pure (.ofNat (← text 0).length)
    else if name = "index" then pure (.ofNat (placeIn (← text 1) (← text 0) 1))
    else if name = "substr" then
      pure (.text (portion (← text 0) (number 1) (if vs.length < 3 then none else some (number 2))))
    else if name = "atan2" then pure (.number (Binary64.throughTwo Float.atan2 (number 0) (number 1)))
    else if name = "rand" then chance
    else if name = "srand" then beginChances ((vs[0]?).getD (.ofNat 0))
    else if name = "system" then runCommand (← text 0)
    else if name = "close" then pure (.number (.ofInt (← close (← text 0))))
    else if name = "fflush" then
      if vs.isEmpty then
        letAllGo
        pure (.ofNat 0)
      else letGoBy (← text 0)
    else if name = "tolower" then pure (.text ((← text 0).map Char.toLower))
    else if name = "toupper" then pure (.text ((← text 0).map Char.toUpper))
    else
      match ← formatted "sprintf" vs with
      | (_, some message) => refuse message
      | (t, none) => pure (.text t)

end DatabaseTypes.Filter.Records
