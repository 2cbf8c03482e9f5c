import DatabaseTypes.Filter.Records.State

/-!
# Reading record by record

Records are read from the operands of a script, from files, and from what commands write.  The input of
the program comes in blocks, and what lies behind the block that is read is left to commands.

* `Filter.Records.RecordEnd`     what ends records
* `Filter.Records.nextOfMain`    the next record of the operands
* `Filter.Records.nextOfSource`  the next record of a file or a command
-/

namespace DatabaseTypes.Filter.Records

/-! ## records -/

/-- what ends records: a character, what a pattern takes, or empty lines -/
inductive RecordEnd where
  | char (c : Char)
  | like (p : Pattern)
  | emptyLines

/-- a text up to an empty line; each step uses up a character -/
def upToEmptyLine : Text → Text
  | '\n' :: '\n' :: _ => []
  | c :: t => c :: upToEmptyLine t
  | [] => []

/-- a text up to an empty line is no longer than the text -/
theorem length_upToEmptyLine (t : Text) : (upToEmptyLine t).length ≤ t.length := by
  fun_induction upToEmptyLine t with
  | case1 => simp
  | case2 c t h ih => simp; exact ih
  | case3 => simp

/-- the record at the front of a text, what follows it, and whether it is ended there; there is none if
the text is empty -/
def RecordEnd.first? (e : RecordEnd) (t : Text) : Option (Text × Text × Bool) :=
  match e with
  | .char c =>
    let own := t.takeWhile (· != c)
    let rest := t.drop own.length
    if t.isEmpty then none else some (own, rest.drop 1, !rest.isEmpty)
  | .like p =>
    if t.isEmpty then none
    else match firstMatch? p (t.length + 1) { rest := t } with
      | some (before, after) => some (t.take before, t.drop after, after < t.length)
      | none => some (t, [], false)
  | .emptyLines =>
    let t := t.dropWhile (· == '\n')
    if t.isEmpty then none
    else
      let own := upToEmptyLine t
      let rest := t.drop own.length
      let after := rest.dropWhile (· == '\n')
      let own := if rest.isEmpty && own.getLast? == some '\n' then own.dropLast else own
      some (own, after, !after.isEmpty)

/-- what ends records now -/
def recordEnd : Step RecordEnd := do
  match (← get).textOf "RS" with
  | [] => pure .emptyLines
  | [c] => pure (.char c)
  | t => pure (.like (← patternFor t))

/-! ## operands -/

/-- how many bytes of the input are taken at once -/
def blockSize : Nat := 4096

/-- a text with its escapes as characters; each step uses up a character -/
def unescaped : Nat → Text → Text
  | 0, t => t
  | _ + 1, [] => []
  | fuel + 1, '\\' :: t => match escaped? t with
    | some (c, rest) => c :: unescaped fuel rest
    | none => '\\' :: unescaped fuel t
  | fuel + 1, c :: t => c :: unescaped fuel t

/-- the name and the value that a text gives to it -/
def givenValue? (t : Text) : Option (Text × Text) :=
  let name := t.takeWhile isNameChar
  match t.drop name.length with
  | '=' :: value =>
    if name.isEmpty || (name.head?.map Text.isDigit).getD true then none
    else some (name, unescaped value.length value)
  | _ => none

/-- a file of the operands is read from its front -/
def beginMain (name : Text) (t : Text) (isInput : Bool) : Step Unit := modify fun s =>
  { s.withValue "FILENAME" (.text name) |>.withValue "FNR" (.ofNat 0) with
    main := some t, mainIsInput := isInput, sawFile := true }

/-- the input of the program is read -/
def beginInput (name : Text) : Step Unit := beginMain name [] true

/-- the next operand taken; there is none after the last one, unless none was a file -/
def nextOperand : Step Bool := do
  let s ← get
  let count := wholePart (s.global "ARGC").toNumber
  if (s.operand : Int) < count then
    set { s with operand := s.operand + 1 }
    let t := match ((s.globals.get? "ARGV".toList).bind (·.table)) with
      | some n => ((s.table n).get (.whole s.operand)).toText s.format
      | none => []
    if t.isEmpty then pure true
    else if let some (name, value) := givenValue? (Text.ofBytesShowing (asBytes t)) then
      setValue name (.input (asText (Text.toBytes value)))
      pure true
    else if t = ['-'] ∨ Scene.inputPaths.contains t then
      beginInput t
      pure true
    else match s.scene.read (Text.ofBytesShowing (asBytes t)) with
      | .ok bytes =>
        beginMain t (asText bytes) false
        pure true
      | .error .isDirectory => throw (.fault "read error (Is a directory)")
      | .error cause => throw (.fault ("cannot open " ++ t ++ " (" ++ cause.message ++ ")"))
  else if s.sawFile then pure false
  else
    beginInput ['-']
    pure true

/-- the next record of the operands; each step takes a record, a block or an operand -/
def nextOfMain (e : RecordEnd) : Nat → Step (Option Text)
  | 0 => pure none
  | fuel + 1 => do
    let s ← get
    match s.main with
    | none => if ← nextOperand then nextOfMain e fuel else pure none
    | some t =>
      let found := e.first? t
      let isEnded := (found.map (·.2.2)).getD false
      if !isEnded && s.mainIsInput && !s.input.isEmpty then
        let block := s.input.take blockSize
        set { s with main := some (t ++ asText block), input := s.input.drop block.length }
        nextOfMain e fuel
      else match found with
        | some (t, rest, _) =>
          set { s with main := some rest }
          pure (some t)
        | none =>
          set { s with main := none }
          nextOfMain e fuel

/-- the next record of the operands, and its numbers -/
def nextRecord? : Step (Option Text) := do
  let e ← recordEnd
  let s ← get
  let count := (wholePart (s.global "ARGC").toNumber).toNat
  match ← nextOfMain e (2 * (count + s.operand + s.input.length) + 4) with
  | none => pure none
  | some t =>
    let more (s : State) (name : Text) : Value := .number ((s.global name).toNumber.plus (.ofInt 1))
    modify fun s => s.withValue "NR" (more s "NR") |>.withValue "FNR" (more s "FNR")
    pure (some t)

/-- what is left of the file that is read is passed over -/
def passFile : Step Unit := modify fun s =>
  { s with main := none, input := if s.main.isSome && s.mainIsInput then [] else s.input }

/-! ## files and commands -/

/-- the next record of what is read by a name; something that is not there yet is made -/
def nextOfSource (name : Text) (begun : Step (Option Source)) : Step (Option (Option Text)) := do
  let e ← recordEnd
  let source ← match (← get).sources.find? fun x => x.name == name with
    | some x => pure (some x)
    | none => begun
  match source with
  | none => pure none
  | some x =>
    let others := (← get).sources.filter fun x => x.name != name
    match e.first? x.rest with
    | some (t, rest, _) =>
      modify fun s => { s with sources := { x with rest } :: others }
      pure (some (some t))
    | none =>
      modify fun s => { s with sources := { x with rest := [] } :: others }
      pure (some none)

/-- a file to be read record by record, if it can be -/
def fileSource (name : Text) : Step (Option Source) := do
  let s ← get
  if name = ['-'] ∨ Scene.inputPaths.contains name then
    set { s with input := [] }
    pure (some { name, rest := asText s.input })
  else match s.scene.read (Text.ofBytesShowing (asBytes name)) with
    | .ok bytes => pure (some { name, rest := asText bytes })
    | .error .isDirectory => throw (.fault "read error (Is a directory)")
    | .error _ => pure none

/-- what a command writes, to be read record by record -/
def commandSource (name : Text) : Step (Option Source) := do
  letAllGo
  let (t, status) ← carriedOut name none
  pure (some { name, rest := t, status := some status })

end DatabaseTypes.Filter.Records
