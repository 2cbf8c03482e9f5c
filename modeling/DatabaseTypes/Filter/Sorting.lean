import DatabaseTypes.Filter.Arguments
import DatabaseTypes.Filter.Joining
import DatabaseTypes.Filter.Orders

/-!
# Lines in order

* `Filter.SortKey`      a part of a line by which lines are compared
* `Filter.SortOrder`    an order of lines
* `Filter.sorting`      sort lines
-/

namespace DatabaseTypes.Filter

/-! ## comparing -/

/-- a text as it is compared: letters may leave out some of its characters, or their case -/
def comparedText (letters t : Text) : Text :=
  let t := if letters.contains 'd'
    then t.filter fun c => c == ' ' || c == '\t' || Text.isLetter c || Text.isDigit c else t
  let t := if letters.contains 'i' && !letters.contains 'd' then t.filter fun c => ' ' ≤ c && c ≤ '~' else t
  if letters.contains 'f' then t.map Char.toUpper else t

/-- the letters for orders by what a text means -/
def meaningOrders : List (Char × (Text → Text → Ordering)) := [('n', numberOrder), ('g', generalOrder),
  ('h', unitOrder), ('M', monthOrder), ('V', versionOrder)]

/-- how texts stand to each other, as letters ask for it -/
def letterOrder (letters s t : Text) : Ordering :=
  let own := ((meaningOrders.find? fun m => letters.contains m.1).map (·.2)).getD textOrder
  let o := own (comparedText letters s) (comparedText letters t)
  if letters.contains 'r' then o.swap else o

/-- the letters that cannot be asked for together, if any are: two orders by what a text means, or one of
these with characters left out, but for versions -/
def incompatible? (letters : Text) : Option Text :=
  let orders := "nghM".toList.countP letters.contains
  let more := "dVRi".toList.any letters.contains
  if orders + (if more then 1 else 0) < 2 then none
  else
    let shown := if letters.contains 'd' then letters.filter (· != 'i') else letters
    some ("dfghiMnRV".toList.filter shown.contains)

/-! ## keys -/

/-- a part of a line: from a field and a character in it, to a field and a character in it, where no
character means all of the field; and letters that say how it is compared, and where blanks are left
out -/
structure SortKey where
  field : Nat := 0
  character : Nat := 0
  last : Option (Nat × Nat) := none
  letters : Text := []
  skipsFirst : Bool := false
  skipsLast : Bool := false

/-- why a text is no key -/
def keyFault (what t : Text) : Text := what ++ ": invalid field specification '" ++ t ++ "'"

/-- a number in a key, and what follows it -/
def keyNumber (what t : Text) : Except Text (Nat × Text) :=
  match count? (t.takeWhile Text.isDigit) with
  | some n => .ok (n, t.dropWhile Text.isDigit)
  | none => .error (what ++ ": invalid count at start of '" ++ t ++ "'")

/-- the letters that say how lines are compared -/
def orderLetters : Text := "bdfghiMnrRV"

/-- the key that a text means -/
def SortKey.ofText (t : Text) : Except Text SortKey := do
  let letters (t : Text) : Text := t.takeWhile orderLetters.contains
  let (field, rest) ← keyNumber "invalid number at field start" t
  if field = 0 then throw (keyFault "field number is zero" t)
  let (character, rest) ← match rest with
    | '.' :: rest => keyNumber "invalid number after '.'" rest
    | rest => pure (1, rest)
  if character = 0 then throw (keyFault "character offset is zero" t)
  let first := letters rest
  let key : SortKey := {
    field := field - 1, character := character - 1, letters := first, skipsFirst := first.contains 'b' }
  match rest.drop first.length with
  | [] => pure key
  | ',' :: rest =>
    let (field, rest) ← keyNumber "invalid number after ','" rest
    if field = 0 then throw (keyFault "field number is zero" t)
    let (character, rest) ← match rest with
      | '.' :: rest => keyNumber "invalid number after '.'" rest
      | rest => pure (0, rest)
    let last := letters rest
    if last.length < rest.length then throw (keyFault "stray character in field spec" t)
    pure { key with
      last := some (field - 1, character), letters := first ++ last, skipsLast := last.contains 'b' }
  | _ => throw (keyFault "stray character in field spec" t)

/-- what follows some fields of a line; without a delimiter a field is blanks and what follows them -/
def afterFields (delimiter : Option Char) : Nat → Text → Text
  | 0, t => t
  | n + 1, t => match delimiter with
    | some c => afterFields delimiter n ((t.dropWhile (· != c)).drop 1)
    | none => afterFields delimiter n ((t.dropWhile isBlankByte).dropWhile fun c => !isBlankByte c)

/-- the part of a line that a key means -/
def SortKey.part (k : SortKey) (delimiter : Option Char) (l : Text) : Text :=
  let unblanked (skips : Bool) (t : Text) : Text := if skips then t.dropWhile isBlankByte else t
  let start := (unblanked k.skipsFirst (afterFields delimiter k.field l)).drop k.character
  let rest : Text := match k.last, delimiter with
    | none, _ => []
    | some (field, 0), some c => (afterFields delimiter field l).dropWhile (· != c)
    | some (field, 0), none => afterFields none (field + 1) l
    | some (field, n), _ => (unblanked k.skipsLast (afterFields delimiter field l)).drop n
  start.take (start.length - rest.length)

/-! ## orders -/

/-- an order of lines: letters for all of it, keys, and what stands between fields -/
structure SortOrder where
  letters : Text := []
  keys : List SortKey := []
  delimiter : Option Char := none

namespace SortOrder

/-- the letters of the options that have none of their own -/
def wordLetter : Char := '\x01'
def checkLetter : Char := '\x02'
def bufferLetter : Char := '\x03'
def parallelLetter : Char := '\x04'
def batchLetter : Char := '\x05'
def packerLetter : Char := '\x06'
def listLetter : Char := '\x07'
def randomLetter : Char := '\x08'

/-- the keys, each with its letters; a line is its own key if there are letters but no key -/
def fullKeys (o : SortOrder) : List SortKey :=
  let own := o.letters.filter orderLetters.contains
  let skips := own.contains 'b'
  if o.keys.isEmpty then
    if own.all (· == 'r') then [] else [{ letters := own, skipsFirst := skips }]
  else o.keys.map fun k =>
    if k.letters.isEmpty then { k with letters := own, skipsFirst := skips, skipsLast := skips } else k

/-- how one line stands to another -/
def order (o : SortOrder) (s t : Text) : Ordering :=
  let keys := o.fullKeys
  let byKeys := keys.foldl (fun (r : Ordering) k => r.then
    (letterOrder k.letters (k.part o.delimiter s) (k.part o.delimiter t))) .eq
  if byKeys != .eq || (!keys.isEmpty && (o.letters.contains 'u' || o.letters.contains 's')) then byKeys
  else letterOrder (o.letters.filter (· == 'r')) s t

/-- the letters that words mean for an order -/
def orderWords : List (Text × Char) := [("general-numeric", 'g'), ("human-numeric", 'h'), ("month", 'M'),
  ("numeric", 'n'), ("random", 'R'), ("version", 'V')]

/-- the letters that words mean for a check -/
def checkWords : List (Text × Char) := [("quiet", 'C'), ("silent", 'C'), ("diagnose-first", 'c')]

/-- what is wrong with a number for an option, which is called by its word or its letter -/
def amountFault (option t : Text) : AmountFault → Text
  | .noNumber => "invalid " ++ option ++ " argument '" ++ t ++ "'"
  | .noUnit => "invalid suffix in " ++ option ++ " argument '" ++ t ++ "'"
  | .tooLarge => option ++ " argument '" ++ t ++ "' too large"

/-- why an option asks for nothing, if it does not: what is wrong, how the program ends, and whether help is
named after it -/
abbrev Refusal := Text × Nat × Bool

/-- a refusal without a hint at help -/
def refusal (t : Text) : Refusal := (t, 2, false)

/-- is a number for an option one that it takes? -/
def checkAmount (option units t : Text) : Except Refusal Nat :=
  (amountOf false units t).mapError fun f => refusal (amountFault option t f)

/-- the size of a buffer; a number may have a sign for bytes or parts of a hundred after it -/
def checkBuffer (option t : Text) : Except Refusal Unit :=
  let digits := t.takeWhile Text.isDigit
  let rest := t.drop digits.length
  if !digits.isEmpty && (rest = ['b'] || rest = ['%']) then .ok ()
  else (checkAmount option "EgGkKmMPtTYZ" t).map fun _ => ()

/-- how many files are merged at a time -/
def checkBatch (t : Text) : Except Refusal Unit := do
  let n ← checkAmount "--batch-size" [] t
  if n < 2 then
    let least : Text := "\nsort: minimum --batch-size argument is '2'"
    throw (refusal ("invalid --batch-size argument '" ++ t ++ "'" ++ least))

/-- the letter that an option means, where a word stands for it -/
def letterOf (o : Char × Text) : Except Refusal Char :=
  let word (option : Text) (rows : List (List Text)) (words : List (Text × Char)) : Except Refusal Char :=
    ((chosenWord option rows o.2).mapError fun t => (t, 1, true)).map fun w => (words.lookup w).getD 'c'
  if o.1 = wordLetter then word "--sort" (orderWords.map fun w => [w.1]) orderWords
  else if o.1 = checkLetter then
    if o.2.isEmpty then .ok 'c' else word "--check" [["quiet", "silent"], ["diagnose-first"]] checkWords
  else .ok o.1

/-- the delimiter of fields that a text means -/
def delimiterOf : Text → Except Refusal Char
  | [] => .error (refusal "empty tab")
  | [c] => .ok c
  | ['\\', '0'] => .ok '\x00'
  | t => .error (refusal ("multi-character tab '" ++ t ++ "'"))

/-- does an option that may be given once have another value than one before it? -/
def differs (a : Arguments) (o : Char × Text) : Bool := (a.value? o.1).any (· != o.2)

/-- what is asked for with one more option, and the options so far, or why it asks for nothing -/
def withOption (so : SortOrder × Arguments) (o : Char × Text) : Except Refusal (SortOrder × Arguments) := do
  let letter ← letterOf o
  let a := so.2
  let next : SortOrder := { so.1 with letters := so.1.letters ++ [letter] }
  let next ← match letter with
    | 'k' => ((SortKey.ofText o.2).mapError refusal).map fun k => { next with keys := next.keys ++ [k] }
    | 't' => do
      let c ← delimiterOf o.2
      if next.delimiter.any (· != c) then throw (refusal "incompatible tabs")
      pure { next with delimiter := some c }
    | 'o' => if differs a o then throw (refusal "multiple output files specified") else pure next
    | 'c' | 'C' =>
      if a.has (if letter = 'c' then 'C' else 'c') then throw (refusal "options '-cC' are incompatible")
      else pure next
    | 'S' => (checkBuffer "-S" o.2).map fun _ => next
    | _ =>
      if letter = bufferLetter then (checkBuffer "--buffer-size" o.2).map fun _ => next
      else if letter = batchLetter then (checkBatch o.2).map fun _ => next
      else if letter = packerLetter && differs a o then
        throw (refusal "multiple compress programs specified")
      else if letter = parallelLetter then do
        let n ← checkAmount "--parallel" [] o.2
        if n = 0 then throw (refusal "number in parallel must be nonzero")
        pure next
      else pure next
  pure (next, { a with options := a.options ++ [(letter, o.2)] })

/-- the order that arguments ask for, with letters in the place of words, or what is wrong with it -/
def ofArguments (a : Arguments) : Except Refusal (SortOrder × Arguments) := do
  let (o, own) ← a.options.foldlM withOption ({}, { a with options := [] })
  match o.fullKeys.findSome? fun k => incompatible? k.letters with
  | some letters => throw (refusal ("options '-" ++ letters ++ "' are incompatible"))
  | none => pure (o, own)

/-- the first line that is not where it belongs, and its number -/
def firstMisplaced? (o : SortOrder) (number : Nat) : List Text → Option (Nat × Text)
  | l :: m :: ls =>
    let r := o.order l m
    if r == .gt || (r == .eq && o.letters.contains 'u') then some (number + 1, m)
    else firstMisplaced? o (number + 1) (m :: ls)
  | _ => none

end SortOrder

/-! ## the filters -/

/-- lines without those that are like the line before them -/
def distinct (like : Text → Text → Bool) : List Text → List Text
  | [] => []
  | l :: ls => l :: (match distinct like ls with
    | m :: ms => if like l m then ms else m :: ms
    | [] => [])

/-- the options of sorting -/
def sortLetters : Letters where
  plain := "bcCdfghiMmnrRsuVz"
  valued := ['k', 'o', 't', 'S', 'T', SortOrder.wordLetter, SortOrder.bufferLetter, SortOrder.parallelLetter,
    SortOrder.batchLetter, SortOrder.packerLetter, SortOrder.listLetter, SortOrder.randomLetter]
  optional := [SortOrder.checkLetter]
  failure := 2
  words := [("ignore-leading-blanks", 'b'), ("check", SortOrder.checkLetter), ("dictionary-order", 'd'),
    ("ignore-case", 'f'), ("general-numeric-sort", 'g'), ("ignore-nonprinting", 'i'), ("key", 'k'),
    ("merge", 'm'), ("numeric-sort", 'n'), ("human-numeric-sort", 'h'), ("month-sort", 'M'), ("output", 'o'),
    ("random-sort", 'R'), ("reverse", 'r'), ("sort", SortOrder.wordLetter), ("stable", 's'),
    ("field-separator", 't'), ("temporary-directory", 'T'), ("unique", 'u'), ("version-sort", 'V'),
    ("zero-terminated", 'z'), ("parallel", SortOrder.parallelLetter),
    ("buffer-size", SortOrder.bufferLetter), ("batch-size", SortOrder.batchLetter),
    ("compress-program", SortOrder.packerLetter), ("files0-from", SortOrder.listLetter),
    ("random-source", SortOrder.randomLetter)]

/-- a field and a character in it, both of which are counted from zero, and the letters after them -/
def oldPlace (t : Text) : Nat × Nat × Text :=
  let number (t : Text) : Nat := Decimal.digitsValue (t.takeWhile Text.isDigit)
  let rest := t.dropWhile Text.isDigit
  if rest.head? = some '.' then (number t, number (rest.drop 1), (rest.drop 1).dropWhile Text.isDigit)
  else (number t, 0, rest)

/-- the beginning of a key that a place after a plus means -/
def oldKeyFront? : Text → Option Text
  | '+' :: c :: t =>
    let (field, character, letters) := oldPlace (c :: t)
    if Text.isDigit c && letters.all orderLetters.contains then
      some (Text.ofNat (field + 1) ++ ['.'] ++ Text.ofNat (character + 1) ++ letters)
    else none
  | _ => none

/-- the end of a key that a place after a minus means -/
def oldKeyBack? : Text → Option Text
  | '-' :: c :: t =>
    let (field, character, letters) := oldPlace (c :: t)
    if !Text.isDigit c then none
    else if character = 0 then some (Text.ofNat field ++ letters)
    else some (Text.ofNat (field + 1) ++ ['.'] ++ Text.ofNat character ++ letters)
  | _ => none

/-- arguments with keys in the place of numbers after signs that stand for them; `front` is the key begun -/
def withKeysFrom (front : Option Text) : List Text → List Text
  | [] => (front.map fun k => ["-k".toList, k]).getD []
  | t :: ts =>
    let begun := (front.map fun k => ["-k".toList, k]).getD []
    match front, oldKeyBack? t, oldKeyFront? t with
    | some k, some back, _ => ['-', 'k'] :: (k ++ [','] ++ back) :: withKeysFrom none ts
    | _, _, some next => begun ++ withKeysFrom (some next) ts
    | _, _, none => begun ++ (if t = ['-', '-'] then t :: ts else t :: withKeysFrom none ts)

/-- tell whether lines are in order -/
def checkedOrder (o : SortOrder) (a : Arguments) (s : Scene) (input : Bytes) : Outcome :=
  let letter := if a.has 'C' then 'C' else 'c'
  match a.operands with
  | _ :: extra :: _ =>
    s.complaint ("extra operand '" ++ extra ++ "' not allowed with -" ++ [letter]) input 2
  | _ =>
    if a.has 'o' then s.complaint ("options '-" ++ [letter] ++ "o' are incompatible") input 2
    else
      let (os, left) := s.operands a.operands input
      match os with
      | (t, .ok bytes) :: _ => match o.firstMisplaced? 1 (bareLinesBy (feedOf a) bytes) with
        | none => { left }
        | some (n, l) =>
          let place := (s.called ++ ": " ++ t ++ ":" ++ Text.ofNat n ++ ": disorder: ").toBytes
          { ending := .status 1, left, errors := if a.has 'C' then [] else place ++ asBytes l ++ asBytes [feedOf a] }
      | (t, .error cause) :: _ =>
        let what : Text := if cause = .isDirectory then "read failed: " else "open failed: "
        s.complaint (what ++ t ++ ": " ++ cause.message) left 2
      | [] => { left }

/-- the lines of files, in order -/
def sortedLines (o : SortOrder) (a : Arguments) (files : List Bytes) : Bytes :=
  let texts := files.map (bareLinesBy (feedOf a))
  let atMost (s t : Text) : Bool := o.order s t != .gt
  let sorted := if a.has 'm' then texts.foldl (fun ls ms => ls.merge ms atMost) []
    else texts.flatten.mergeSort atMost
  let like (s t : Text) : Bool := o.order s t == .eq
  withFeedsOf (feedOf a) (if a.has 'u' then distinct like sorted else sorted)

/-- sort the lines of operands: what cannot be opened is told first, then whether the output can be opened -/
def sortedOperands (o : SortOrder) (a : Arguments) (s : Scene) (input : Bytes) : Outcome :=
  let (os, left) := s.operands a.operands input
  let cause? (o : Scene.Operand) : Option (Text × SystemCause) := match o.2 with
    | .ok _ => none
    | .error cause => some (o.1, cause)
  let causes := os.filterMap cause?
  let opened := (a.value? 'o').map fun t => (t, s.written t id)
  match causes.find? fun c => c.2 != .isDirectory, opened, causes with
  | some (t, cause), _, _ => s.complaint ("cannot read: " ++ t ++ ": " ++ cause.message) left 2
  | none, some (t, .error cause), _ => s.complaint ("open failed: " ++ t ++ ": " ++ cause.message) left 2
  | none, opened, (t, cause) :: _ =>
    let files := opened.bind fun o => o.2.toOption
    { s.complaint ("read failed: " ++ t ++ ": " ++ cause.message) left 2 with files }
  | none, opened, [] =>
    let output := sortedLines o a (os.filterMap fun o => o.2.toOption)
    match opened with
    | none => { output, left }
    | some (t, _) => { left, files := (s.written t fun _ => output).toOption }

/-- the names of files in a file, or what is wrong with them -/
def namesForSorting (s : Scene) (source : Text) (input : Bytes) : Except Text (List Text × Bytes) :=
  match s.operands [source] input with
  | ((_, .ok bytes) :: _, left) =>
    let names := listedNames bytes
    match names.findIdx? fun t => t.isEmpty || t == ['-'] with
    | some i =>
      .error (if names[i]? = some ['-']
        then "when reading file names from stdin, no file name of '-' allowed"
        else source ++ [':'] ++ Text.ofNat (i + 1) ++ ": invalid zero-length file name")
    | none => if names.isEmpty then .error ("no input from '" ++ source ++ "'") else .ok (names, left)
  | ((_, .error cause) :: _, _) =>
    .error (if cause = .isDirectory then "cannot read file names from '" ++ source ++ "'"
      else "open failed: " ++ source ++ ": " ++ cause.message)
  | ([], _) => .ok ([], input)

/-- sort lines by their bytes, or as options ask for -/
def sorting : Program := fun s args input =>
  let go (a : Arguments) : Outcome :=
    match SortOrder.ofArguments a with
    | .error (t, status, helps) => if helps then s.misuse t input status else s.complaint t input status
    | .ok (o, a) => match a.value? SortOrder.listLetter, a.operands with
      | some _, extra :: _ => s.misuse ("extra operand '" ++ extra
        ++ "'\nfile operands cannot be combined with --files0-from") input 2
      | some source, [] => match namesForSorting s source input with
        | .error t => s.complaint t input 2
        | .ok (operands, left) => sortedOperands o { a with operands } s left
      | none, _ =>
        if a.has 'c' || a.has 'C' then checkedOrder o a s input else sortedOperands o a s input
  withArguments sortLetters (fun _ a _ => go a) s (withKeysFrom none args) input

end DatabaseTypes.Filter
