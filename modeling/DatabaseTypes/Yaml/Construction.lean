import DatabaseTypes.Yaml.Number
import DatabaseTypes.Yaml.Parser
import DatabaseTypes.Yaml.Value

/-!
# The values of nodes

A node is made into a value once.  Texts become values at once, but a collection is filled only
when its turn comes: the collection of the document first, then those it holds, and so on, level by
level.  So of two failures the one that is nearer to the surface comes first.

* `Yaml.Part`              a value, or a collection by the number of its node
* `Yaml.Filling`           what a collection holds
* `Yaml.Making.part`       what a node is made into
* `Yaml.Making.merges`     the entries that a mapping merges into itself
* `Yaml.Making.fill`       what the collection of a node holds
* `Yaml.Document.filled`   what all collections of a document hold
-/

namespace DatabaseTypes.Yaml

/-- what a node is made into: a value, or a collection -/
inductive Part where
  | value (v : Value)
  | collection (node : Nat)

/-- what a collection holds -/
inductive Filling where
  | list (items : List Part)
  | pairs (items : List (Part × Part))
  | set (items : List Value)
  | mapping (entries : List (Value × Part))

/-- the nodes, what some of them are made into, the collections to be filled in reverse order, and
those that are filled -/
structure Workshop where
  nodes : Nodes
  made : Array (Option Part)
  waiting : List Nat := []
  filled : Array (Option Filling)

/-- a step of making values -/
abbrev Making := StateT Workshop (Except Failure)

namespace Making

/-- a mistake in a node; nodes have no lines -/
def fail {α : Type} (m : Mistake) : Making α := throw (.mistake 0 m)

/-- a value, or the fault of reading it -/
def orFault {α : Type} (r : Except Fault α) : Making α :=
  match r with
  | .ok a => pure a
  | .error f => throw (.fault f)

/-- a node -/
def node (n : Nat) : Making Node := do pure ((← get).nodes.node n)

/-- the entries of a mapping -/
def entries (n : Nat) : Making (List (Nat × Nat)) := do pure ((← get).nodes.entries n)

/-! ## texts -/

/-- the text that a node stands for: its own, or the one under the key for the plain value -/
def plainText : Nat → Nat → Making Text
  | 0, _ => throw (.fault (.beyond .endlessText))
  | fuel + 1, n => do
    match (← node n).content with
    | .text t => pure t
    | .list _ => fail .unfitTag
    | .mapping es =>
      let nodes := (← get).nodes
      match es.find? fun e => (nodes.node e.1).tag = .plainValue with
      | some e => plainText fuel e.2
      | none => fail .unfitTag

/-- the truth value of a word -/
def boolOf (t : Text) : Making Value :=
  let word := t.lowered
  if [("yes" : Text), "true", "on"].contains word then pure (.bool true)
  else if [("no" : Text), "false", "off"].contains word then pure (.bool false)
  else throw (.fault (.missing word))

/-- the number of a text; what is no number differs from node to node, unless the text has the word
for it -/
def floatOf (n : Nat) (t : Text) : Making Value := do
  match ← orFault (readFloat t) with
  | .notANumber => pure (if isNoNumberWord t then .float .notANumber else .noNumber n)
  | x => pure (.float x)

/-- the date or time of a text; a mapping cannot have one, even if it has a plain value -/
def timeOf (n : Nat) (t : Text) : Making Value := do
  match (← node n).content with
  | .text _ => match ← orFault (readTime t) with
    | .date d => pure (.date d)
    | .moment m => pure (.moment m)
  | _ => throw (.fault (.notText .list))

/-- the value of a text -/
def simple (n : Nat) (tag : Tag) : Making Value := do
  let t ← plainText ((← get).nodes.size + 1) n
  match tag with
  | .null => pure .null
  | .bool => boolOf t
  | .int => do pure (.int (← orFault (readInt t)))
  | .float => floatOf n t
  | .bytes => match readBytes t with
    | some bs => pure (.bytes bs)
    | none => fail .undecodableBytes
  | .time => timeOf n t
  | _ => pure (.text t)

/-! ## parts -/

/-- what a node is newly made into; a collection has to wait -/
def newPart (n : Nat) : Making Part := do
  match (← node n).tag with
  | .list | .mapping | .set | .orderedPairs | .pairs =>
    modify fun s => { s with waiting := n :: s.waiting }
    pure (.collection n)
  | .merge | .plainValue | .unknown => fail .unknownTag
  | tag => do pure (.value (← simple n tag))

/-- what a node is made into, which is decided once -/
def part (n : Nat) : Making Part := do
  match ((← get).made[n]?).join with
  | some p => pure p
  | none =>
    let p ← newPart n
    modify fun s => { s with made := s.made.setIfInBounds n (some p) }
    pure p

/-! ## merging -/

/-- take the first entry with the key for merging out of a mapping; the node under it -/
def takeMerge? (n : Nat) : Making (Option Nat) := do
  let s ← get
  let es := s.nodes.entries n
  let others := es.takeWhile fun e => (s.nodes.node e.1).tag != .merge
  match es.drop others.length with
  | [] => pure none
  | e :: more =>
    set { s with nodes := s.nodes.putEntries n (others ++ more) }
    pure (some e.2)

/-- let the keys for the plain value be texts in a mapping -/
def settlePlainKeys (n : Nat) : Making Unit := do
  for e in ← entries n do
    if (← node e.1).tag = .plainValue then
      modify fun s => { s with nodes := s.nodes.putTag e.1 .text }

/-- the entries of a mapping to merge, or of several, the first of which counts most; `flatten` puts
what a mapping merges into it -/
def mergedFrom (flatten : Nat → Making Unit) (n : Nat) : Making (List (Nat × Nat)) := do
  match (← node n).content with
  | .text _ => fail .unfitMerge
  | .mapping _ =>
    flatten n
    entries n
  | .list items =>
    let all ← items.mapM fun item => do
      match (← node item).content with
      | .mapping _ =>
        flatten item
        entries item
      | _ => fail .unfitMerge
    pure all.reverse.flatten

/-- put entries in front of those of a mapping -/
def putInFront (n : Nat) (merged : List (Nat × Nat)) : Making Unit := do
  if !merged.isEmpty then
    modify fun s => { s with nodes := s.nodes.putEntries n (merged ++ s.nodes.entries n) }

/-- the entries that a mapping merges into itself; the keys for merging are taken out of it, of which
there are at most so many -/
def merges : Nat → Nat → Making (List (Nat × Nat))
  | 0, _ => pure []
  | count + 1, n => do
    match ← takeMerge? n with
    | none =>
      settlePlainKeys n
      pure []
    | some source =>
      let first ← mergedFrom (fun m => do putInFront m (← merges count m)) source
      pure (first ++ (← merges count n))

/-! ## collections -/

/-- a node as a key; a collection is none -/
def key (n : Nat) : Making Value := do
  match ← part n with
  | .value v => pure v
  | .collection _ => fail .unfitKey

/-- the entries of a mapping with what is merged into it, the later ones overriding the earlier
ones -/
def mappingOf (n : Nat) : Making (List (Value × Part)) := do
  match (← node n).content with
  | .mapping _ =>
    putInFront n (← merges ((← get).nodes.entryCount + 1) n)
    (← entries n).foldlM (fun found e => do
      let k ← key e.1
      let v ← part e.2
      pure (Entries.put k v found)) []
  | _ => fail .unfitTag

/-- the pair of a mapping with one entry -/
def pairOf (n : Nat) : Making (Part × Part) := do
  match (← node n).content with
  | .mapping [(k, v)] => do
    let first ← part k
    pure (first, ← part v)
  | _ => fail .unfitTag

/-- the nodes in a list -/
def itemsOf (n : Nat) : Making (List Nat) := do
  match (← node n).content with
  | .list items => pure items
  | _ => fail .unfitTag

/-- what the collection of a node holds -/
def fill (n : Nat) : Making Filling := do
  match (← node n).tag with
  | .mapping => do pure (.mapping (← mappingOf n))
  | .set => do pure (.set ((← mappingOf n).map Prod.fst))
  | .pairs | .orderedPairs => do pure (.pairs (← (← itemsOf n).mapM pairOf))
  | _ => do pure (.list (← (← itemsOf n).mapM part))

/-- fill the collections that wait, level by level; there are at most so many levels -/
def fillAll : Nat → Making Unit
  | 0 => pure ()
  | fuel + 1 => do
    let waiting := (← get).waiting.reverse
    if !waiting.isEmpty then
      modify fun s => { s with waiting := [] }
      for n in waiting do
        let filling ← fill n
        modify fun s => { s with filled := s.filled.setIfInBounds n (some filling) }
      fillAll fuel

end Making

/-- what the node that holds all others is made into, and what all collections hold -/
def Document.filled (d : Document) : Except Failure (Part × Array (Option Filling)) := do
  let making : Making Part := do
    let p ← Making.part d.root
    Making.fillAll (d.nodes.size + 1)
    pure p
  let size := d.nodes.size
  let (p, s) ← making.run
    { nodes := d.nodes, made := Array.replicate size none, filled := Array.replicate size none }
  pure (p, s.filled)

end DatabaseTypes.Yaml
