import DatabaseTypes.Filter.Arguments
import DatabaseTypes.Filter.Scene
import DatabaseTypes.Order

/-!
# Words in order of precedence

Words come in pairs, and the first of a pair stands before the second.

* `Filter.Precedence`           words with what comes after them
* `Filter.Precedence.settled`   the words in an order, with the loops that had to be broken
* `Filter.preceding`            the filter
-/

namespace DatabaseTypes.Filter

/-- a word: how many words must come before it, the words that come after it, the last one first, and
whether it is placed -/
structure Ranked where
  word : Text
  awaits : Nat := 0
  after : List Text := []
  placed : Bool := false

/-- words in the order of their characters -/
structure Precedence where
  words : List Ranked := []

namespace Precedence

/-- the entry of a word -/
def find? (p : Precedence) (w : Text) : Option Ranked := p.words.find? (·.word == w)

/-- a word at its place, unless it is there -/
def adding (p : Precedence) (w : Text) : Precedence :=
  if (p.find? w).isSome then p
  else
    let front := p.words.takeWhile fun r => r.word.atMost w
    ⟨front ++ { word := w } :: p.words.drop front.length⟩

/-- a word changed -/
def changing (p : Precedence) (w : Text) (change : Ranked → Ranked) : Precedence :=
  ⟨p.words.map fun r => if r.word == w then change r else r⟩

/-- changing words does not add any -/
theorem length_changing (p : Precedence) (w : Text) (change : Ranked → Ranked) :
    (p.changing w change).words.length = p.words.length := by simp [changing]

/-- a word comes after another one; it does not come after itself -/
def relating (p : Precedence) (first second : Text) : Precedence :=
  let p := (p.adding first).adding second
  if first = second then p
  else (p.changing second fun r => { r with awaits := r.awaits + 1 }).changing first fun r =>
    { r with after := second :: r.after }

/-- words by pairs; nothing if one is left over -/
def ofPairs? : List Text → Precedence → Option Precedence
  | [], p => some p
  | [_], _ => none
  | a :: b :: ws, p => ofPairs? ws (p.relating a b)

/-- the words that wait for none and have no place yet -/
def free (p : Precedence) : List Text :=
  (p.words.filter fun r => r.awaits == 0 && !r.placed).map (·.word)

/-- words in a queue placed one after the other; those that wait for none then join the queue.  Each step
places a word. -/
def placing : Nat → List Text → Precedence → List Text × Precedence
  | 0, _, p | _ + 1, [], p => ([], p)
  | fuel + 1, w :: queue, p =>
    let after := ((p.find? w).map (·.after)).getD []
    let p := p.changing w fun r => { r with placed := true }
    let (p, more) := after.foldl (fun (p, more) v =>
      let p := p.changing v fun r => { r with awaits := r.awaits - 1 }
      let isFree := ((p.find? v).map (·.awaits == 0)).getD false
      (p, if isFree then more ++ [v] else more)) (p, [])
    let (ws, p) := placing fuel (queue ++ more) p
    (w :: ws, p)

/-- a relation broken: a word does not come after another one any more -/
def breaking (p : Precedence) (first second : Text) : Precedence :=
  (p.changing second fun r => { r with awaits := r.awaits - 1 }).changing first fun r =>
    { r with after := r.after.erase second }

/-- a step on the way to a loop: words that are chained backwards, the last one first.  A word joins the
chain if the front of it comes after the word, and closes a loop if it is in the chain. -/
def chaining (p : Precedence) : List Text → List Text → List Text ⊕ (List Text × Text × Text)
  | [], chain => .inl chain
  | w :: ws, chain =>
    match p.find? w, chain with
    | some r, [] => chaining p ws (if 0 < r.awaits then [w] else [])
    | some r, v :: _ =>
      if 0 < r.awaits && r.after.contains v then
        if chain.dropLast.contains w then
          .inr (chain.takeWhile (· != w) ++ [w], w, v)
        else chaining p ws (w :: chain)
      else chaining p ws chain
    | none, _ => chaining p ws chain

/-- a loop with the relation that is broken: the words are gone through until one closes it -/
def loopFrom? (p : Precedence) : Nat → List Text → Option (List Text × Text × Text)
  | 0, _ => none
  | fuel + 1, chain => match p.chaining (p.words.map (·.word)) chain with
    | .inl chain => loopFrom? p fuel chain
    | .inr found => some found

/-- the words in an order, with the loops that had to be broken for it; each step places words or breaks
a relation -/
def settled : Nat → Precedence → List Text × List (List Text)
  | 0, _ => ([], [])
  | fuel + 1, p =>
    let (ws, p) := placing (p.words.length + 1) p.free p
    if p.words.all (·.placed) then (ws, [])
    else match p.loopFrom? (p.words.length + 2) [] with
      | none => (ws, [])
      | some (loop, first, second) =>
        let (more, loops) := settled fuel (p.breaking first second)
        (ws ++ more, loop :: loops)

end Precedence

/-- the words of bytes between blanks -/
def wordsOf (bs : Bytes) : List Text :=
  ((asText bs).splitOnP fun c => c == ' ' || c == '\t' || c == '\n').filter (!·.isEmpty)

/-- write words in an order in which each stands before those that come after it -/
def preceding : Program := withArguments {} fun s a input =>
  let name := a.operands.headD ['-']
  match a.operands with
  | _ :: extra :: _ => s.misuse ("extra operand '" ++ extra ++ "'") input
  | operands =>
    let (os, left) := s.operands operands input
    match os with
    | [(_, .ok bytes)] =>
      let ws := wordsOf bytes
      match Precedence.ofPairs? ws {} with
      | none => s.complaint (name ++ ": input contains an odd number of tokens") left
      | some p =>
        let (ws, loops) := p.settled (ws.length + 1)
        let told := loops.flatMap fun loop =>
          remark s.called (name ++ ": input contains a loop:") ++ loop.flatMap fun w =>
            remark s.called (Text.ofBytesShowing (asBytes w))
        { ending := .status (if loops.isEmpty then 0 else 1), output := withFeeds ws, errors := told, left }
    | (t, .error cause) :: _ =>
      let doing : Text := if cause = .isDirectory then "read error: " else []
      s.complaint (t ++ ": " ++ doing ++ cause.message) left
    | _ => { left }

end DatabaseTypes.Filter
