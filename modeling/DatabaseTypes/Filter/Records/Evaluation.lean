import DatabaseTypes.Filter.Records.Intake
import DatabaseTypes.Filter.Records.Own

/-!
# What scripts about records do

* `Filter.Records.valueOfExpression`   the value of an expression
* `Filter.Records.perform`             a statement done
* `Filter.Records.Script.performed`    a script done from its beginning to its end

Each function has a bound on its depth and on the turns of loops; a script that needs more never ends.
-/

namespace DatabaseTypes.Filter.Records

/-! ## parts -/

/-- how many functions may run at once -/
def greatestDepth : Nat := 1000

/-- the greatest depth of what is done: a turn of a loop is in the depth of the one before -/
def greatestFuel : Nat := 4 * greatestTurns

/-- the field of a number -/
def placeOfField (v : Value) : Step Place := do
  let n := wholePart v.toNumber
  if n < 0 then refuse ("negative field index $" ++ Text.ofInt n)
  pure (.field n.toNat)

/-- what is written on the right of a tilde, or looked for, as a pattern -/
def patternOfValue (v : Value) : Step Pattern := do patternFor (← textOf v)

/-- what comes of a record that is read: its value goes into a place, or it is the record -/
def received (t : Text) (place : Option Place) : Step Unit :=
  match place with
  | some p => setAt (.input t) p
  | none => setRecord t

/-- a table with the pieces of a text, and how many there are -/
def splitInto (n : Nat) (t : Text) (separator : Separator) : Step Value := do
  let values := (pieces separator t).map Value.input
  modify fun s => s.withTable n fun _ => .ofValues values
  pure (.ofNat values.length)

/-- what replacing leaves in a place, and how often something was replaced -/
def replaceIn (p : Pattern) (new : Text) (once : Bool) (place : Place) : Step Value := do
  let t ← textOf (← valueAt place)
  let (t, n) := replaced p new once t
  if 0 < n then setAt (.text t) place
  pure (.ofNat n)

/-- the place of a pattern in a text, which is noted with its size -/
def locate (t : Text) (p : Pattern) : Step Value := do
  let (first, size) : Nat × Int := match p.found? t with
    | some (b, e) => (b.taken + 1, e.taken - b.taken)
    | none => (0, -1)
  setValue "RSTART" (.ofNat first)
  setValue "RLENGTH" (.number (.ofInt size))
  pure (.ofNat first)

/-- the text that is printed for values -/
def lineOf (vs : List Value) : Step Text := do
  let t ← if vs.isEmpty then record else do
    pure (Text.joined ((← get).textOf "OFS") (← vs.mapM printedText))
  pure (t ++ (← get).textOf "ORS")

/-- a text written where it is asked for -/
def put (t : Text) (target : Option (Sink × Text)) : Step Unit :=
  match target with
  | none => write t
  | some (sink, name) => writeTo sink name t

/-! ## values and statements -/

mutual

/-- the value of an expression -/
def valueOfExpression : Nat → Expression → Step Value
  | 0, _ => throw .never
  | fuel + 1, e => do
    let number (e : Expression) : Step Binary64 := do pure (← valueOfExpression fuel e).toNumber
    let isTrue (e : Expression) : Step Bool := do pure (← valueOfExpression fuel e).isTrue
    match e with
    | .number x => pure (.number x)
    | .text t => pure (.text t)
    | .pattern p => pure (.ofBool (p.occursIn (← record)))
    | .variable name => valueOf name
    | .field e => valueAt (← placeOfField (← valueOfExpression fuel e))
    | .element array subscripts => valueAt (← placeOf fuel (.element array subscripts))
    | .assign target e =>
      let place ← placeOf fuel target
      let v ← valueOfExpression fuel e
      setAt v place
      pure v
    | .update o target e =>
      let place ← placeOf fuel target
      let y ← number e
      let v := Value.number (o.applied (← valueAt place).toNumber y)
      setAt v place
      pure v
    | .step new up target =>
      let place ← placeOf fuel target
      let old := (← valueAt place).toNumber
      let v := Value.number (old.plus (.ofInt (if up then 1 else -1)))
      setAt v place
      pure (if new then v else .number old)
    | .choice test yes no =>
      if ← isTrue test then valueOfExpression fuel yes else valueOfExpression fuel no
    | .both a b => if ← isTrue a then do pure (.ofBool (← isTrue b)) else pure (.ofBool false)
    | .either a b => if ← isTrue a then pure (.ofBool true) else do pure (.ofBool (← isTrue b))
    | .not e => do pure (.ofBool !(← isTrue e))
    | .signed negative e =>
      let x ← number e
      pure (.number (if negative then x.negated else x))
    | .arithmetic o a b =>
      let x ← number a
      let y ← number b
      pure (.number (o.applied x y))
    | .relation r a b =>
      let v ← valueOfExpression fuel a
      let w ← valueOfExpression fuel b
      pure (.ofBool (v.stands (← get).format r w))
    | .joined a b =>
      let v ← valueOfExpression fuel a
      let w ← valueOfExpression fuel b
      pure (.text ((← textOf v) ++ (← textOf w)))
    | .matching inverted e p =>
      let v ← valueOfExpression fuel e
      let p ← patternOfExpression fuel p
      pure (.ofBool (p.occursIn (← textOf v) != inverted))
    | .within subscripts array =>
      let key ← keyOfAll (← valuesOf fuel subscripts)
      let n ← tableOf array
      modify fun s => s.withTable n fun t => t.asked key false
      pure (.ofBool (((← get).table n).has key))
    | .call name arguments => call fuel name arguments
    | .own name arguments => ownValue fuel name arguments
    | .nextRecord target =>
      let place ← target.mapM (placeOf fuel)
      match ← nextRecord? with
      | some t =>
        received t place
        pure (.ofNat 1)
      | none => pure (.ofNat 0)
    | .nextOfFile file target =>
      let name ← textOf (← valueOfExpression fuel file)
      readFrom fuel (nextOfSource name (fileSource name)) target
    | .nextOfCommand command target =>
      let name ← textOf (← valueOfExpression fuel command)
      readFrom fuel (nextOfSource name (commandSource name)) target
    | .group es =>
      let vs ← valuesOf fuel es
      match vs with
      | [v] => pure v
      | vs => pure (.text (← keyOfAll vs).toText)

/-- the values of expressions -/
def valuesOf : Nat → List Expression → Step (List Value)
  | 0, _ => throw .never
  | _ + 1, [] => pure []
  | fuel + 1, e :: es => do
    let v ← valueOfExpression fuel e
    pure (v :: (← valuesOf fuel es))

/-- a record of what is read by a name, and the value of reading it -/
def readFrom : Nat → Step (Option (Option Text)) → Option Expression → Step Value
  | 0, _, _ => throw .never
  | fuel + 1, next, target => do
    let place ← target.mapM (placeOf fuel)
    match ← next with
    | none => pure (.number (.ofInt (-1)))
    | some none => pure (.ofNat 0)
    | some (some t) =>
      received t place
      pure (.ofNat 1)

/-- the place that an expression stands for -/
def placeOf : Nat → Expression → Step Place
  | 0, _ => throw .never
  | fuel + 1, e => do
    match e with
    | .variable name => pure (.variable name)
    | .element array subscripts =>
      let key ← keyOfAll (← valuesOf fuel subscripts)
      let n ← tableOf array
      modify fun s => s.withTable n fun t => t.asked key true
      pure (.element n key)
    | .field e => placeOfField (← valueOfExpression fuel e)
    | .group [e] => placeOf fuel e
    | _ => throw .never

/-- the pattern that an expression stands for -/
def patternOfExpression : Nat → Expression → Step Pattern
  | 0, _ => throw .never
  | fuel + 1, e => do
    match e with
    | .pattern p => pure p
    | e => patternOfValue (← valueOfExpression fuel e)

/-- the value of a function that there is without a script -/
def ownValue : Nat → Text → List Expression → Step Value
  | 0, _, _ => throw .never
  | fuel + 1, name, arguments => do
    match arguments with
    | [.variable v] =>
      let slot := (← get).slot v
      match name == "length", slot.table, slot.value with
      | true, some n, .unset => pure (.ofNat ((← get).table n).values.size)
      | _, _, _ => ownResult name (← valuesOf fuel arguments)
    | e :: .variable array :: more =>
      if name = "split" then
        let t ← textOf (← valueOfExpression fuel e)
        let separator ← match more with
          | .pattern p :: _ => pure (Separator.like p)
          | e :: _ => separatorFor (← textOf (← valueOfExpression fuel e))
          | [] => separatorFor ((← get).textOf "FS")
        splitInto (← tableOf array) t separator
      else otherValue fuel name arguments
    | _ => otherValue fuel name arguments

/-- the value of a function that there is without a script, but for those about tables -/
def otherValue : Nat → Text → List Expression → Step Value
  | 0, _, _ => throw .never
  | fuel + 1, name, arguments => do
    match arguments with
    | p :: e :: more =>
      if name = "sub" ∨ name = "gsub" then
        let p ← patternOfExpression fuel p
        let new ← textOf (← valueOfExpression fuel e)
        let place ← match more with
          | target :: _ => if target.isTarget then placeOf fuel target else do
            let _ ← valueOfExpression fuel target
            pure (.field 0)
          | [] => pure (.field 0)
        replaceIn p new (name = "sub") place
      else if name = "match" then
        let t ← textOf (← valueOfExpression fuel p)
        locate t (← patternOfExpression fuel e)
      else ownResult name (← valuesOf fuel arguments)
    | _ => ownResult name (← valuesOf fuel arguments)

/-- what arguments stand for: a name without a value brings along its table, which may be a new one -/
def slotsOf : Nat → List Expression → Step (List Slot)
  | 0, _ => throw .never
  | _ + 1, [] => pure []
  | fuel + 1, e :: es => do
    let slot : Slot ← match e with
      | .variable name =>
        match ← valueOf name with
        | .unset =>
          let n ← tableOf name
          pure { table := some n }
        | v => pure { value := v }
      | e => do pure { value := ← valueOfExpression fuel e }
    pure (slot :: (← slotsOf fuel es))

/-- the value that a function gives back -/
def call : Nat → Text → List Expression → Step Value
  | 0, _, _ => throw .never
  | fuel + 1, name, arguments => do
    let s ← get
    match s.functions.find? fun f => f.name == name with
    | none => pure .unset
    | some f =>
      spend
      if greatestDepth ≤ s.depth then throw (.fault "program limit exceeded: eval stack size=1024")
      let slots ← slotsOf fuel arguments
      let own := f.parameters.mapIdx fun i p => (p, (slots[i]?).getD {})
      modify fun t => { t with locals := own, depth := s.depth + 1 }
      let ended ← (perform fuel f.body).attempt
      modify fun t => { t with locals := s.locals, depth := s.depth }
      match ended with
      | .ok () => pure .unset
      | .error (.giveBack v) => pure v
      | .error t => throw t

/-- a statement done -/
def perform : Nat → Statement → Step Unit
  | 0, _ => throw .never
  | fuel + 1, s => do
    match s with
    | .print isFormatted arguments target =>
      let vs ← valuesOf fuel arguments
      let named : Option (Sink × Text) ← match target with
        | some (sink, e) => do
          let v ← valueOfExpression fuel e
          pure (some (sink, ← textOf v))
        | none => pure none
      if isFormatted then
        let (t, fault) ← formatted "printf" vs
        put t named
        if let some message := fault then refuse message
      else put (← lineOf vs) named
    | .value e =>
      let _ ← valueOfExpression fuel e
    | .block ss => performAll fuel ss
    | .conditional test yes no =>
      if (← valueOfExpression fuel test).isTrue then perform fuel yes
      else match no with
        | some no => perform fuel no
        | none => pure ()
    | .loop test body => turns fuel (some test) none body
    | .loopAfter body test =>
      match ← (perform fuel body).attempt with
      | .ok () | .error .goOn => turns fuel (some test) none body
      | .error .stop => pure ()
      | .error t => throw t
    | .counted first test step body =>
      if let some s := first then perform fuel s
      turns fuel test step body
    | .each name array body =>
      let n ← tableOf array
      let (keys, table) := ((← get).table n).keys
      modify fun s => s.withTable n fun _ => table
      turnsOver fuel name keys body
    | .next => throw .next
    | .nextFile => throw .nextFile
    | .leave status =>
      if let some e := status then
        let x := (← valueOfExpression fuel e).toNumber
        modify fun s => { s with status := (wholePart x % 256).toNat }
      throw .leave
    | .giveBack value =>
      match value with
      | some e => throw (.giveBack (← valueOfExpression fuel e))
      | none => throw (.giveBack .unset)
    | .stop => throw .stop
    | .goOn => throw .goOn
    | .erase array subscripts =>
      match subscripts with
      | some es =>
        let key ← keyOfAll (← valuesOf fuel es)
        let n ← tableOf array
        modify fun s => s.withTable n fun t => t.erased key
      | none =>
        let n ← tableOf array
        modify fun s => s.withTable n fun _ => {}

/-- statements done one after the other -/
def performAll : Nat → List Statement → Step Unit
  | 0, _ => throw .never
  | _ + 1, [] => pure ()
  | fuel + 1, s :: ss => do
    perform fuel s
    performAll fuel ss

/-- the turns of a loop while its test is true; each one uses up a unit of fuel -/
def turns : Nat → Option Expression → Option Statement → Statement → Step Unit
  | 0, _, _, _ => throw .never
  | fuel + 1, test, step, body => do
    spend
    let goesOn ← match test with
      | some e => do pure (← valueOfExpression fuel e).isTrue
      | none => pure true
    if goesOn then
      match ← (perform fuel body).attempt with
      | .ok () | .error .goOn =>
        if let some s := step then perform fuel s
        turns fuel test step body
      | .error .stop => pure ()
      | .error t => throw t
    else pure ()

/-- the turns of a loop over keys -/
def turnsOver : Nat → Text → List Text → Statement → Step Unit
  | 0, _, _, _ => throw .never
  | _ + 1, _, [], _ => pure ()
  | fuel + 1, name, k :: ks, body => do
    setValue name (.text k)
    match ← (perform fuel body).attempt with
    | .ok () | .error .goOn => turnsOver fuel name ks body
    | .error .stop => pure ()
    | .error t => throw t

end

/-! ## scripts -/

/-- is a rule for the record? -/
def isChosen (c : Choice) : Step Bool := do
  let isTrue (e : Expression) : Step Bool := do pure (← valueOfExpression greatestFuel e).isTrue
  match c with
  | .always => pure true
  | .when e => isTrue e
  | .range n first final =>
    let begun := (← get).within.contains n
    if !begun && !(← isTrue first) then pure false
    else
      let others := (← get).within.filter (· != n)
      let ends ← isTrue final
      modify fun s => { s with within := if ends then others else n :: others }
      pure true

/-- the rules for a record done one after the other -/
def applyRules : List (Choice × Statement) → Step Unit
  | [] => pure ()
  | (c, s) :: rules => do
    if ← isChosen c then perform greatestFuel s
    applyRules rules

/-- the rules done for all records; each step takes one record -/
def applyToAll (rules : List (Choice × Statement)) : Nat → Step Unit
  | 0 => throw .never
  | fuel + 1 => do
    match ← nextRecord? with
    | none => pure ()
    | some t =>
      setRecord t
      match ← (applyRules rules).attempt with
      | .ok () | .error .next => applyToAll rules fuel
      | .error .nextFile =>
        passFile
        applyToAll rules fuel
      | .error t => throw t

/-- something done that may end everything before the last part -/
def upToLeaving (x : Step Unit) : Step Bool := do
  match ← x.attempt with
  | .ok () => pure true
  | .error .leave => pure false
  | .error t => throw t

/-- a script done from its beginning to its end -/
def Script.performed (s : Script) : Step Unit := do
  let goesOn ← upToLeaving (performAll greatestFuel s.before)
  if goesOn && !(s.rules.isEmpty && s.after.isEmpty) then
    let _ ← upToLeaving (applyToAll s.rules greatestFuel)
  let _ ← upToLeaving (performAll greatestFuel s.after)

end DatabaseTypes.Filter.Records
