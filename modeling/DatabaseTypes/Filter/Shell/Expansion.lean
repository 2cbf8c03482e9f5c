import DatabaseTypes.Filter.Entries
import DatabaseTypes.Filter.Shell.Reading
import DatabaseTypes.Filter.Shell.State
import DatabaseTypes.Filter.Shell.Sum

/-!
# Words in full

Variables, outputs of commands and sums take their places in a word.  Where a word is one of several,
what they bring along outside quotes is divided at blanks, and wildcards stand for the names of
entries; where it is a text of its own it stays whole.  A wildcard is a star for anything, a question mark
for one character, or brackets for one of several.  What is quoted stands for itself.

* `Shell.Marked`      text of which some is quoted
* `Shell.isMatch`     does a text match?
* `Shell.namesLike`   the names of entries that match
* `Shell.Mark`        a character of a word in full, or an edge
* `Shell.Capture`     what commands write when they run in a shell inside
* `Shell.State.textOf`, `Shell.State.markedOf`   a word in full as one text
* `Shell.State.fieldsOf`   words in full, divided
* `Shell.State.commandOf`  the words of a command in full
-/

namespace DatabaseTypes.Filter.Shell

/-! ## wildcards -/

/-- text whose characters are quoted or not -/
abbrev Marked := List (Bool × Char)

/-- marked text without its marks -/
def Marked.text (m : Marked) : Text := m.map (·.2)

/-- text that is quoted all through -/
def Marked.ofText (t : Text) : Marked := t.map fun c => (true, c)

/-- the names of the classes of characters -/
def classOf (name : Text) (c : Char) : Bool :=
  let table : List (Text × (Char → Bool)) := [
    ("alpha", Text.isLetter), ("digit", Text.isDigit),
    ("alnum", fun c => Text.isLetter c || Text.isDigit c),
    ("upper", fun c => 'A' ≤ c && c ≤ 'Z'), ("lower", fun c => 'a' ≤ c && c ≤ 'z'),
    ("space", fun c => c == ' ' || (9 ≤ c.toNat && c.toNat ≤ 13)),
    ("blank", fun c => c == ' ' || c == '\t'),
    ("punct", fun c => 32 < c.toNat && c.toNat < 127 && !Text.isLetter c && !Text.isDigit c),
    ("xdigit", fun c => (Text.hexDigit? c).isSome)]
  (table.lookup name).any (· c)

/-- one of several characters -/
inductive Member where
  | range (low high : Char)
  | class_ (name : Text)

/-- is a character the member? -/
def Member.holds (c : Char) : Member → Bool
  | .range low high => low ≤ c && c ≤ high
  | .class_ name => classOf name c

/-- what stands in brackets after the first of them, and what follows; each step uses up a
character -/
def members? (first : Bool) : Nat → Marked → Option (List Member × Marked)
  | 0, _ => none
  | _ + 1, [] => none
  | fuel + 1, (q, c) :: m =>
    if c = ']' && !q && !first then some ([], m)
    else
      let name := (Marked.text (m.drop 1)).takeWhile Text.isLetter
      if c = '[' && !q && m.head?.map (·.2) == some ':'
          && Text.startsWith [':', ']'] (Marked.text (m.drop (1 + name.length))) then
        (members? false fuel (m.drop (3 + name.length))).map fun r => (.class_ name :: r.1, r.2)
      else match m with
        | (false, '-') :: (p, d) :: more =>
          if d = ']' && !p then (members? false fuel m).map fun r => (.range c c :: r.1, r.2)
          else (members? false fuel more).map fun r => (.range c d :: r.1, r.2)
        | m => (members? false fuel m).map fun r => (.range c c :: r.1, r.2)

/-- does a text match? Each step uses up a character of one of them. -/
def matchesFrom : Nat → Marked → Text → Bool
  | 0, _, _ => false
  | _ + 1, [], t => t.isEmpty
  | fuel + 1, (q, c) :: m, t =>
    if c = '*' && !q then
      matchesFrom fuel m t || (!t.isEmpty && matchesFrom fuel ((q, c) :: m) (t.drop 1))
    else match t with
      | [] => false
      | d :: t =>
        if c = '?' && !q then matchesFrom fuel m t
        else
          let inverts := m.head? == some (false, '!') || m.head? == some (false, '^')
          let inner := if inverts then m.drop 1 else m
          match if c = '[' && !q then members? true (inner.length + 1) inner else none with
          | some (ms, rest) => (ms.any (·.holds d)) != inverts && matchesFrom fuel rest t
          | none => c == d && matchesFrom fuel m t

/-- does a text match? A question mark stands for one byte. -/
def isMatch (m : Marked) (t : Text) : Bool :=
  let m : Marked := m.flatMap fun (q, c) => (asText (Text.toBytes [c])).map fun d => (q, d)
  let t := asText t.toBytes
  matchesFrom (m.length + t.length + 1) m t

/-- does marked text hold a wildcard? -/
def hasWildcard (m : Marked) : Bool :=
  m.any fun (q, c) => !q && (c == '*' || c == '?' || c == '[')

/-- a name matches; a leading dot matches only itself -/
def isNameMatch (m : Marked) (name : Text) : Bool :=
  isMatch m name && (name.head? != some '.' || m.head?.map (·.2) == some '.')

/-- the parts of marked text between slashes -/
def partsBetweenSlashes (m : Marked) : List Marked :=
  m.foldr (fun x parts => match parts with
    | p :: ps => if x.2 = '/' then [] :: p :: ps else (x :: p) :: ps
    | [] => [[x]]) [[]]

/-- the paths that match parts, from a directory on; `front` is the path so far -/
def pathsLike (files : Files) (base : Location) (front : Text) : List Marked → List Text
  | [] => [front]
  | [p] =>
    if !hasWildcard p then
      let there := p.isEmpty || (files.find? (base ++ [p.text])).isSome
      if there then [front ++ p.text] else []
    else ((namesIn files base).filter (isNameMatch p)).map (front ++ ·)
  | p :: ps =>
    if p.isEmpty || p.text == ['.'] then pathsLike files base (front ++ p.text ++ ['/']) ps
    else if p.text = ['.', '.'] then pathsLike files base.dropLast (front ++ "../") ps
    else
      let names := if hasWildcard p then (namesIn files base).filter (isNameMatch p) else [p.text]
      (names.filter fun n => files.find? (base ++ [n]) == some .directory).flatMap fun n =>
        pathsLike files (base ++ [n]) (front ++ n ++ ['/']) ps

/-- the names of entries that match, if there is a wildcard and something matches -/
def namesLike (files : Files) (here : Location) (m : Marked) : List Text :=
  if !hasWildcard m then [m.text]
  else
    let base := if m.head?.map (·.2) == some '/' then [] else here
    match pathsLike files base [] (partsBetweenSlashes m) with
    | [] => [m.text]
    | names => names

/-! ## words in full -/

/-- a character of a word in full, a place where there is a field even if it is empty, an edge between
fields, or an edge that ends a field even if it is empty -/
inductive Mark where
  | letter (quoted : Bool) (c : Char)
  | here
  | blank
  | cut

/-- what commands write when they run in a shell inside -/
abbrev Capture := State → Text → Bytes × State

/-! ## dividing -/

/-- a text divided at some characters; each step uses up a character -/
def divided (separators : Text) : Nat → Text → List Mark
  | 0, _ => []
  | _ + 1, [] => []
  | fuel + 1, c :: t =>
    let isWhite (c : Char) : Bool := separators.contains c && (c == ' ' || c == '\t' || c == '\n')
    let after := t.dropWhile isWhite
    if !separators.contains c then .letter false c :: divided separators fuel t
    else if !isWhite c then .cut :: divided separators fuel after
    else if after.head?.any separators.contains then divided separators fuel after
    else .blank :: divided separators fuel after

/-- marks with the letters outside quotes divided at some characters; `run` are the letters right
before the marks, reversed -/
def dividedLetters (separators run : Text) : List Mark → List Mark
  | [] => divided separators run.length run.reverse
  | .letter false c :: ms => dividedLetters separators (c :: run) ms
  | m :: ms => divided separators run.length run.reverse ++ m :: dividedLetters separators [] ms

/-- the fields of marks; `field` is the field begun -/
def fieldsFrom (field : Option Marked) : List Mark → List Marked
  | [] => (field.map List.reverse).toList
  | .letter q c :: ms => fieldsFrom (some ((q, c) :: field.getD [])) ms
  | .here :: ms => fieldsFrom (some (field.getD [])) ms
  | .blank :: ms => (field.map List.reverse).toList ++ fieldsFrom none ms
  | .cut :: ms => (field.getD []).reverse :: fieldsFrom none ms

/-- marks as one text -/
def markedFrom (ms : List Mark) : Marked :=
  ms.filterMap fun m => match m with
    | .letter q c => some (q, c)
    | .here => none
    | .blank => some (true, ' ')
    | .cut => some (true, ' ')

/-- quoted characters -/
def quotedMarks (t : Text) : List Mark := .here :: t.map (.letter true)

/-! ## variables -/

/-- the characters at which fields are divided -/
def State.separators (s : State) : Text := (s.value? "IFS").getD " \t\n"

/-- the letters of options in the order in which they are shown -/
def optionOrder : Text := "ubaCEVvxsnmiIfe"

/-- the value of a variable, or of what is called by a number or a mark -/
def State.lookup? (s : State) (name : Text) : Option Text :=
  match name with
  | ['#'] => some (Text.ofNat s.arguments.length)
  | ['?'] => some (Text.ofNat s.status)
  | ['$'] => some (Text.ofNat s.identifier)
  | ['-'] => some (optionOrder.filter s.options.contains)
  | ['!'] => none
  | ['0'] => some s.name
  | ['@'] | ['*'] =>
    if s.arguments.isEmpty then none else some (Text.joined (s.separators.take 1) s.arguments)
  | name =>
    if name.all Text.isDigit then s.arguments[Decimal.digitsValue name - 1]? else s.value? name

/-- a text that a variable brings along -/
def State.broughtAlong (s : State) (divides inQuotes : Bool) (t : Text) : List Mark :=
  if inQuotes then quotedMarks t
  else if divides then divided s.separators (t.length + 1) t
  else t.map (.letter false)

/-- the arguments that the shell was given, as fields -/
def State.argumentMarks (s : State) (inQuotes : Bool) : List Mark :=
  ((s.arguments.map (s.broughtAlong true inQuotes)).intersperse [.blank]).flatten

/-- a text without a beginning or an ending that matches: the shortest one, or the longest one if the
mark is doubled -/
def withoutMatch (mark : Text) (m : Marked) (t : Text) : Text :=
  let fromFront := mark.head? == some '#'
  let lengths := List.range (t.length + 1)
  let part (n : Nat) : Text := if fromFront then t.take n else t.drop (t.length - n)
  match (if mark.length = 2 then lengths.reverse else lengths).find? fun n => isMatch m (part n) with
  | some n => if fromFront then t.drop n else t.take (t.length - n)
  | none => t

/-! ## words -/

/-- pieces in their order, each in the state that the ones before it leave; nothing follows where
the shell ends -/
def inOrder (step : State → Piece → List Mark × State) (s : State) (w : Word) : List Mark × State :=
  let (parts, s) := w.foldl (fun (parts, s) p =>
    if s.flow != .on then (parts, s)
    else
      let (ms, s) := step s p
      (ms :: parts, s)) (([] : List (List Mark)), s)
  (parts.reverse.flatten, s)

/-- the marks of a piece, of a word that is divided or one that stays whole; each step goes down by one
word inside another -/
def marksOf (capture : Capture) (divides : Bool) : Nat → State → Piece → List Mark × State
  | 0, s, _ => ([], s)
  | fuel + 1, s, p =>
    let whole (s : State) (w : Word) : Marked × State :=
      let (ms, s) := inOrder (marksOf capture false fuel) s w
      (markedFrom ms, s)
    match p with
    | .plain c => ([.letter false c], s)
    | .quoted t => (quotedMarks t, s)
    | .output inQuotes script =>
      let (bytes, s) := capture s script
      let t := ((Text.ofBytesShowing bytes).reverse.dropWhile (· == '\n')).reverse
      (s.broughtAlong divides inQuotes (t.filter (· != '\x00')), s)
    | .sum inQuotes w =>
      let (m, s) := whole s w
      match Sum.value (fun name => (s.lookup? name).getD []) m.text with
      | .error t => ([], s.broken t)
      | .ok (n, assigned) =>
        let s := assigned.foldl (fun s v => if s.flow = .on then s.given v.1 (Text.ofInt v.2) else s) s
        (s.broughtAlong divides inQuotes (Text.ofInt n), s)
    | .parameter inQuotes name use =>
      let value := s.lookup? name
      let own (s : State) : List Mark :=
        if divides && (name = ['@'] || (name = ['*'] && !inQuotes)) then s.argumentMarks inQuotes
        else s.broughtAlong divides inQuotes ((s.lookup? name).getD [])
      match use with
      | .value =>
        if value.isNone && s.has 'u' && name != ['@'] && name != ['*'] then
          ([], s.broken (name ++ ": parameter not set"))
        else (own s, s)
      | .length =>
        let n := if name = ['@'] || name = ['*'] then s.arguments.length
          else (value.getD []).toBytes.length
        (s.broughtAlong divides inQuotes (Text.ofNat n), s)
      | .bad => ([], s.broken "Bad substitution")
      | .changed mark word =>
        let strict := mark.head? == some ':'
        let missing := value.isNone || (strict && value == some [])
        let full (s : State) : List Mark × State :=
          let (ms, s) := inOrder (marksOf capture divides fuel) s word
          (if divides && !inQuotes then dividedLetters s.separators [] ms else ms, s)
        match mark.getLast?.getD '-' with
        | '-' => if missing then full s else (own s, s)
        | '+' => if missing then ([], s) else full s
        | '=' =>
          if !missing then (own s, s)
          else
            let (m, s) := whole s word
            let s := s.given name m.text
            (own s, s)
        | '?' =>
          if !missing then (own s, s)
          else
            let (m, s) := whole s word
            let given := m.text
            let message : Text := if !given.isEmpty then given
              else if strict then "parameter not set or null" else "parameter not set"
            ([], s.broken (name ++ ": " ++ message))
        | _ =>
          let (m, s) := whole s word
          (s.broughtAlong divides inQuotes (withoutMatch mark m (value.getD [])), s)

/-- how deep words can stand inside others -/
def greatestDepth : Nat := 100

/-- a word with a tilde at its front replaced by the home directory; `isEnd` tells which characters
may follow it -/
def State.homeward (s : State) (isEnd : Char → Bool) (w : Word) : Word :=
  match w with
  | .plain '~' :: rest =>
    let atEnd := match rest with
      | [] => true
      | .plain c :: _ => isEnd c
      | _ => false
    match atEnd, s.value? "HOME" with
    | true, some home => .quoted home :: rest
    | _, _ => w
  | w => w

/-- the value of an assignment with tildes at its front and after colons replaced -/
def State.homewardParts (s : State) : Word → Word
  | [] => []
  | .plain ':' :: w => .plain ':' :: s.homeward (fun c => c == '/' || c == ':') (homewardParts s w)
  | p :: w => p :: homewardParts s w

/-- a word in full as marked text -/
def State.markedOf (s : State) (capture : Capture) (w : Word) : Marked × State :=
  let (ms, s) := inOrder (marksOf capture false greatestDepth) s (s.homeward (· == '/') w)
  (markedFrom ms, s)

/-- a word in full as one text -/
def State.textOf (s : State) (capture : Capture) (w : Word) : Text × State :=
  let (m, s) := s.markedOf capture w
  (m.text, s)

/-- the value of an assignment in full -/
def State.valueOf (s : State) (capture : Capture) (w : Word) : Text × State :=
  let w := (s.homewardParts (.plain ':' :: w)).drop 1
  let (ms, s) := inOrder (marksOf capture false greatestDepth) s w
  ((markedFrom ms).text, s)

/-- a word in full, divided into fields -/
def State.fieldsOfWord (s : State) (capture : Capture) (w : Word) : List Text × State :=
  let (ms, s) := inOrder (marksOf capture true greatestDepth) s (s.homeward (· == '/') w)
  let fields := (fieldsFrom none ms).flatMap fun m =>
    if s.has 'f' then [m.text] else namesLike s.scene.files s.scene.here m
  (fields, s)

/-- words in full, divided into fields -/
def State.fieldsOf (capture : Capture) : List Word → State → List Text × State
  | [], s => ([], s)
  | w :: ws, s =>
    let (own, s) := s.fieldsOfWord capture w
    let (more, s) := fieldsOf capture ws s
    (own ++ more, s)

/-- the commands whose arguments may be assignments -/
def assigning : List Text := ["alias", "export", "local", "readonly"]

/-- may arguments after these words be assignments? -/
def State.assigns (s : State) (words : List Text) : Bool :=
  let own (t : Text) : Bool := (s.functions.lookup t).isNone
  match words.dropWhile fun t => t == "command".toList && own t with
  | name :: _ => assigning.contains name && own name
  | [] => false

/-- the words of a command in full after those that are; they are divided into fields, but assignments
stay whole where the command takes them -/
def State.commandOf (capture : Capture) (before : List Text) :
    List Word → State → List Text × State
  | [], s => (before, s)
  | w :: ws, s =>
    match if s.assigns before then Shell.assignment? w else none with
    | some (name, value) =>
      let (t, s) := s.valueOf capture value
      commandOf capture (before ++ [name ++ '=' :: t]) ws s
    | none =>
      let (own, s) := s.fieldsOfWord capture w
      commandOf capture (before ++ own) ws s

end DatabaseTypes.Filter.Shell
