import DatabaseTypes.Order

/-!
# Likeness of texts

Two texts are as alike as the share of their characters that stand in blocks of both: the longest
common block, and on either side of it the blocks of what is left there.

* `Text.sharedStart`      how many characters two texts have in common at their fronts
* `Text.Block`            a common block of two texts
* `Text.longestBlock`     the longest of them
* `Text.shared`           how many characters stand in blocks of both
* `Text.nearest`          the texts of a list that are much like a text
-/

namespace DatabaseTypes.Text

/-! ## common blocks -/

/-- how many characters two texts have in common at their fronts -/
def sharedStart : Text → Text → Nat
  | a :: s, b :: t => if a = b then sharedStart s t + 1 else 0
  | _, _ => 0

theorem sharedStart_self (t : Text) : sharedStart t t = t.length := by
  induction t with
  | nil => rfl
  | cons c t ih => simp [sharedStart, ih]

/-- a block of two texts: where it begins in either of them, and how long it is -/
structure Block where
  left : Nat := 0
  right : Nat := 0
  length : Nat := 0
  deriving DecidableEq

/-- the longer of two blocks, the first one if they are of one length -/
def Block.longer (b c : Block) : Block := if b.length < c.length then c else b

/-- the longest block of two texts whose beginning in the first one is given -/
def longestBlockAt (s t : Text) (left : Nat) : Block :=
  (List.range t.length).foldl (fun best right =>
    best.longer ⟨left, right, sharedStart (s.drop left) (t.drop right)⟩) {}

/-- the longest block of two texts; of several the one that begins first in `s`, then in `t` -/
def longestBlock (s t : Text) : Block :=
  (List.range s.length).foldl (fun best left => best.longer (longestBlockAt s t left)) {}

/-- `shared` within `fuel` splittings -/
def sharedWithin : Nat → Text → Text → Nat
  | 0, _, _ => 0
  | fuel + 1, s, t =>
    let b := longestBlock s t
    if b.length = 0 then 0
    else b.length + sharedWithin fuel (s.take b.left) (t.take b.right)
      + sharedWithin fuel (s.drop (b.left + b.length)) (t.drop (b.right + b.length))

/-- how many characters of two texts stand in blocks of both; each splitting leaves less of `s` -/
def shared (s t : Text) : Nat := sharedWithin s.length s t

/-! ## what is near -/

/-- a text beside another one, with how many characters they share and how many they have -/
structure Neighbour where
  text : Text
  shared : Nat
  length : Nat
  deriving DecidableEq

namespace Neighbour

/-- a text beside `t` -/
def of (t text : Text) : Neighbour := ⟨text, Text.shared text t, text.length + t.length⟩

/-- are three in five characters shared? Each shared character counts in both texts. -/
def isNear (n : Neighbour) : Bool := 3 * n.length ≤ 10 * n.shared

/-- the order from the nearest on; of two that are as near the later in the alphabet is first -/
def before (n m : Neighbour) : Bool :=
  if n.shared * m.length = m.shared * n.length then m.text.atMost n.text
  else m.shared * n.length < n.shared * m.length

end Neighbour

/-- the texts of a list that are much like `t`, the three nearest at most, in alphabetical order -/
def nearest (t : Text) (texts : List Text) : List Text :=
  let near := (texts.map (Neighbour.of t)).filter Neighbour.isNear
  Order.sorted atMost (((Order.sorted Neighbour.before near).take 3).map (·.text))

end DatabaseTypes.Text
