import DatabaseTypes.Yaml.Lexer
import DatabaseTypes.Yaml.Tag

/-!
# From tokens to nodes

* `Yaml.Node`            a text, a list or a mapping with its tag
* `Yaml.Nodes`           the nodes of a document
* `Yaml.Parser`            the tokens that are left, the nodes so far, and what has been declared
* `Yaml.Parse.node`        a node at a place
* `Yaml.Parse.document`    the only document of a text
* `Yaml.Document.ofText?`  its nodes
-/

namespace DatabaseTypes.Yaml

/-! ## nodes

Nodes are numbered as they are met, and a node holds others by their numbers, so that an alias is
the number of its anchor, and a node can hold itself.
-/

/-- what a node holds; other nodes are given by their numbers -/
inductive Content where
  | text (value : Text)
  | list (items : List Nat)
  | mapping (entries : List (Nat × Nat))
  deriving DecidableEq, Inhabited

/-- a text, a list or a mapping with its tag -/
structure Node where
  tag : Tag
  content : Content
  deriving DecidableEq

/-- the node of nothing -/
def Node.empty : Node := ⟨.null, .text []⟩

/-- nodes by their numbers -/
abbrev Nodes := Array Node

namespace Nodes

/-- the node of a number -/
def node (ns : Nodes) (n : Nat) : Node := ns[n]?.getD .empty

/-- the entries of a node that is a mapping -/
def entries (ns : Nodes) (n : Nat) : List (Nat × Nat) :=
  match (ns.node n).content with
  | .mapping entries => entries
  | _ => []

/-- the number of entries of all mappings -/
def entryCount (ns : Nodes) : Nat :=
  ns.foldl (fun count n => match n.content with
    | .mapping entries => count + entries.length
    | _ => count) 0

/-- the nodes with new entries for a mapping -/
def putEntries (n : Nat) (entries : List (Nat × Nat)) (ns : Nodes) : Nodes :=
  ns.modify n fun node => { node with content := .mapping entries }

/-- the nodes with a new tag for one of them -/
def putTag (n : Nat) (tag : Tag) (ns : Nodes) : Nodes := ns.modify n fun node => { node with tag }

theorem size_putEntries (n : Nat) (entries : List (Nat × Nat)) (ns : Nodes) :
    (ns.putEntries n entries).size = ns.size := Array.size_modify

theorem size_putTag (n : Nat) (tag : Tag) (ns : Nodes) : (ns.putTag n tag).size = ns.size :=
  Array.size_modify

end Nodes

/-! ## parsers -/

/-- the tokens that are left, the nodes so far, the handles that are declared, the anchors that are
set, and how many collections are open -/
structure Parser where
  lexer : Lexer
  nodes : Nodes := #[]
  handles : List (Text × Text) := []
  anchors : List (Text × Nat) := []
  depth : Nat := 0

/-- a step of parsing -/
abbrev Parse := StateT Parser (Except Stop)

namespace Parse

/-! ## tokens -/

/-- a step of cutting tokens -/
def lexing {α : Type} (step : Lexing α) : Parse α := fun p =>
  match step.run p.lexer with
  | .ok (a, lexer) => .ok (a, { p with lexer })
  | .error stop => .error stop

/-- a mistake at the next token -/
def fail {α : Type} (m : Mistake) : Parse α := fun p =>
  let line := (p.lexer.tokens.head?.map Lexeme.line).getD p.lexer.cursor.line
  .error ⟨.mistake line m, p.lexer.cursor.index⟩

/-- a step inside one more collection, unless too many are open -/
def deeper {α : Type} (l : Limit) (step : Parse α) : Parse α := do
  let p ← get
  if Limit.nodes ≤ p.depth then
    throw ⟨.fault (.beyond l), p.lexer.cursor.index⟩
  set { p with depth := p.depth + 1 }
  let a ← step
  modify fun q => { q with depth := p.depth }
  pure a

/-- the next token -/
def peek : Parse (Option Token) := do pure ((← lexing Lexing.front).map Lexeme.token)

/-- one token further -/
def skip : Parse Unit := lexing Lexing.take

/-- is the next token one of these? -/
def sees (ts : List Token) : Parse Bool := do
  pure ((← peek).any ts.contains)

/-- go beyond a token if it comes next; does it? -/
def accept (t : Token) : Parse Bool := do
  if (← peek) = some t then
    skip
    pure true
  else pure false

/-- go beyond a token, which must come next -/
def expect (t : Token) : Parse Unit := do
  if !(← accept t) then fail .unexpectedToken

/-! ## anchors and tags -/

/-- what is said about a node before it -/
structure Properties where
  anchor : Option Text := none
  tag : Option Text := none

/-- the tag that leaves the decision to how the node looks -/
def openTag : Text := ['!']

/-- the tag of a text -/
def Properties.ofText (p : Properties) (value : Text) (isPlain : Bool) : Tag :=
  match p.tag with
  | none => if isPlain then .ofPlain value else .text
  | some tag => if tag = openTag then .ofPlain value else .ofText tag

/-- the tag of a list or a mapping -/
def Properties.ofCollection (p : Properties) (standard : Tag) : Tag :=
  match p.tag with
  | none => standard
  | some tag => if tag = openTag then standard else .ofText tag

/-- an anchor, if there is one -/
def anchor? : Parse (Option Text) := do
  match ← peek with
  | some (.anchor name) =>
    skip
    pure (some name)
  | _ => pure none

/-- the full name of a tag, if there is one -/
def tag? : Parse (Option Text) := do
  match ← peek with
  | some (.tag none name) =>
    skip
    pure (some name)
  | some (.tag (some handle) name) =>
    match (← get).handles.lookup handle with
    | some beginning =>
      skip
      pure (some (beginning ++ name))
    | none => fail .undeclaredHandle
  | _ => pure none

/-- anchor and tag of a node, in either order -/
def properties : Parse Properties := do
  match ← anchor? with
  | some name => pure { anchor := some name, tag := ← tag? }
  | none =>
    let tag ← tag?
    pure { anchor := ← anchor?, tag }

/-- go on only if an anchor is not there already -/
def checkAnchor (p : Properties) : Parse Unit := do
  match p.anchor with
  | none => pure ()
  | some name => if ((← get).anchors.lookup name).isSome then fail .repeatedAnchor

/-- a new node under its anchor; its number -/
def add (p : Properties) (n : Node) : Parse Nat := do
  let s ← get
  let number := s.nodes.size
  let anchors := (p.anchor.map fun name => (name, number)).toList ++ s.anchors
  set { s with nodes := s.nodes.push n, anchors }
  pure number

/-- the node of nothing; its number -/
def addEmpty : Parse Nat := add {} .empty

/-- a list under its anchor, which its items may name -/
def addList (p : Properties) (items : Parse (List Nat)) : Parse Nat := do
  let number ← add p ⟨p.ofCollection .list, .list []⟩
  let items ← items
  modify fun s => { s with nodes := s.nodes.modify number fun n => { n with content := .list items } }
  pure number

/-- a mapping under its anchor, which its entries may name -/
def addMapping (p : Properties) (entries : Parse (List (Nat × Nat))) : Parse Nat := do
  let number ← add p ⟨p.ofCollection .mapping, .mapping []⟩
  let entries ← entries
  modify fun s => { s with nodes := s.nodes.putEntries number entries }
  pure number

/-- the node of an anchor -/
def anchored (name : Text) : Parse Nat := do
  match (← get).anchors.lookup name with
  | some n => pure n
  | none => fail .unknownAlias

/-! ## nodes -/

/-- where a node stands: may it be a block, and may it be a list whose items are not indented? -/
structure Place where
  block : Bool
  flush : Bool

/-- inside brackets -/
def Place.inBrackets : Place := ⟨false, false⟩
/-- in a list of a block, or on its own -/
def Place.inList : Place := ⟨true, false⟩
/-- in a mapping of a block -/
def Place.inMapping : Place := ⟨true, true⟩

mutual

/-- a node; the number bounds how deep the parser goes -/
def node (place : Place) : Nat → Parse Nat
  | 0 => fail .unexpectedToken
  | n + 1 => do
    match ← peek with
    | some (.alias name) =>
      skip
      anchored name
    | _ => content place (← properties) n

/-- a node after its anchor and tag -/
def content (place : Place) (p : Properties) : Nat → Parse Nat
  | 0 => fail .unexpectedToken
  | n + 1 => do
    match ← peek with
    | some (.text value isPlain) =>
      skip
      checkAnchor p
      add p ⟨p.ofText value isPlain, .text value⟩
    | some .openList =>
      checkAnchor p
      addList p (deeper .bracketDepth do
        skip
        bracketItems true n)
    | some .openMapping =>
      checkAnchor p
      addMapping p (deeper .nodeDepth do
        skip
        bracketEntries true n)
    | t =>
      if t = some .item ∧ place.flush then
        checkAnchor p
        addList p (deeper .nodeDepth (flushItems n))
      else if t = some .openBlockList ∧ place.block then
        checkAnchor p
        addList p (deeper .nodeDepth do
          skip
          blockItems n)
      else if t = some .openBlockMapping ∧ place.block then
        checkAnchor p
        addMapping p (deeper .nodeDepth do
          skip
          blockEntries n)
      else if p.anchor.isSome || p.tag.isSome then
        checkAnchor p
        add p ⟨p.ofText [] true, .text []⟩
      else fail .unexpectedToken

/-- a node, or nothing if one of the tokens `ends` comes next -/
def nodeUnless (ends : List Token) (place : Place) : Nat → Parse Nat
  | 0 => fail .unexpectedToken
  | n + 1 => do if ← sees ends then addEmpty else node place n

/-- the value after a key, or nothing -/
def valueUnless (ends : List Token) (place : Place) : Nat → Parse Nat
  | 0 => fail .unexpectedToken
  | n + 1 => do if ← accept .value then nodeUnless ends place n else addEmpty

/-- the items of an indented list -/
def blockItems : Nat → Parse (List Nat)
  | 0 => fail .unexpectedToken
  | n + 1 => do
    if ← accept .item then
      let a ← nodeUnless [.item, .closeBlock] .inList n
      pure (a :: (← blockItems n))
    else
      expect .closeBlock
      pure []

/-- the items of a list that is not indented -/
def flushItems : Nat → Parse (List Nat)
  | 0 => fail .unexpectedToken
  | n + 1 => do
    if ← accept .item then
      let a ← nodeUnless [.item, .key, .value, .closeBlock] .inList n
      pure (a :: (← flushItems n))
    else pure []

/-- the entries of a mapping of lines -/
def blockEntries : Nat → Parse (List (Nat × Nat))
  | 0 => fail .unexpectedToken
  | n + 1 => do
    if ← accept .key then
      let k ← nodeUnless [.key, .value, .closeBlock] .inMapping n
      let v ← valueUnless [.key, .value, .closeBlock] .inMapping n
      pure ((k, v) :: (← blockEntries n))
    else
      expect .closeBlock
      pure []

/-- the items of a list in brackets, `first` before the first one; a key among them makes a mapping
of one entry -/
def bracketItems (first : Bool) : Nat → Parse (List Nat)
  | 0 => fail .unexpectedToken
  | n + 1 => do
    if ← accept .closeList then pure []
    else
      if !first then expect .comma
      if ← sees [.key] then
        let a ← addMapping {} (deeper .nodeDepth do
          skip
          let k ← nodeUnless [.value, .comma, .closeList] .inBrackets n
          let v ← valueUnless [.comma, .closeList] .inBrackets n
          pure [(k, v)])
        pure (a :: (← bracketItems false n))
      else if ← accept .closeList then pure []
      else
        let a ← node .inBrackets n
        pure (a :: (← bracketItems false n))

/-- the entries of a mapping in brackets, `first` before the first one -/
def bracketEntries (first : Bool) : Nat → Parse (List (Nat × Nat))
  | 0 => fail .unexpectedToken
  | n + 1 => do
    if ← accept .closeMapping then pure []
    else
      if !first then expect .comma
      if ← accept .key then
        let k ← nodeUnless [.value, .comma, .closeMapping] .inBrackets n
        let v ← valueUnless [.comma, .closeMapping] .inBrackets n
        pure ((k, v) :: (← bracketEntries false n))
      else if ← accept .closeMapping then pure []
      else
        let k ← node .inBrackets n
        pure ((k, ← addEmpty) :: (← bracketEntries false n))

end

/-! ## documents -/

/-- the handles that every document has, unless it declares them itself -/
def standardHandles : List (Text × Text) := [(['!'], ['!']), (['!', '!'], Tag.standard)]

/-- the directives before a document; `versioned` after one for the version -/
def directives : Nat → Bool → Parse Unit
  | 0, _ => pure ()
  | n + 1, versioned => do
    match ← peek with
    | some (.directive d) =>
      match d with
      | .version major =>
        if versioned ∨ major ≠ 1 then fail .malformedDirective
        skip
        directives n true
      | .handle name beginning =>
        if ((← get).handles.lookup name).isSome then fail .malformedDirective
        skip
        modify fun s => { s with handles := s.handles ++ [(name, beginning)] }
        directives n versioned
      | .other =>
        skip
        directives n versioned
    | _ => pure ()

/-- the ends of a document -/
def documentEnds : Nat → Parse Unit
  | 0 => pure ()
  | n + 1 => do if ← accept .documentEnd then documentEnds n

/-- the node of a document after its beginning; `depth` bounds how deep it is -/
def documentNode (depth : Nat) : Parse Nat := do
  modify fun s => { s with handles := s.handles ++ standardHandles }
  node .inList depth

/-- does a document begin with directives or a line of its own? -/
def isExplicit : Token → Bool
  | .directive _ | .documentStart => true
  | _ => false

/-- is a document without content here? -/
def atDocumentEnd : Option Token → Bool
  | none | some .documentEnd => true
  | some t => isExplicit t

/-- the only document, if there is one -/
def document (depth : Nat) : Parse (Option Nat) := do
  match ← peek with
  | none => pure none
  | some t =>
    if isExplicit t then
      directives depth false
      expect .documentStart
    let n ← if isExplicit t && atDocumentEnd (← peek) then addEmpty else documentNode depth
    documentEnds depth
    if (← peek).isSome then fail .secondDocument
    pure (some n)

end Parse

/-- the nodes of a document, and the number of the one that holds all others -/
structure Document where
  nodes : Nodes
  root : Nat

/-- the only document of a text, if there is one -/
def Document.ofText? (t : Text) : Except Stop (Option Document) :=
  match (Parse.document (20 * t.length + 25)).run { lexer := .ofText t } with
  | .ok (root, p) => .ok (root.map fun n => ⟨p.nodes, n⟩)
  | .error stop => .error stop

end DatabaseTypes.Yaml
