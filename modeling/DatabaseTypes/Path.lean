import DatabaseTypes.Fault

/-!
# Paths

A path is a root, if it is absolute, and its parts.  Parts that are empty or a single dot are
dropped, two dots stay, and exactly two slashes at the front are a root of their own.

* `Path`             the paths
* `Path.ofText`, `Path.text`   reading and writing
* `Path.under`       a path below another one, unless it is absolute
* `Path.parent`      the path without its last part
* `Path.expanded`    the path with a leading tilde replaced by the home directory
* `Path.simplified`  the path without dots, as far as names tell
-/

namespace DatabaseTypes

/-- a path: how many slashes its root has (none if it is relative), and its parts -/
structure Path where
  slashes : Nat := 0
  parts : List Text
  deriving DecidableEq

namespace Path

/-- the parts of a text between slashes, without those that mean nothing -/
def partsOf (t : Text) : List Text :=
  (Text.split '/' t).filter fun p => !p.isEmpty && p != ['.']

/-- the slashes of the root of a text: two stay two, any other number is one -/
def slashesOf (t : Text) : Nat :=
  match (t.takeWhile (· == '/')).length with
  | 0 => 0
  | 2 => 2
  | _ => 1

/-- the path of a text -/
def ofText (t : Text) : Path := ⟨slashesOf t, partsOf t⟩

/-- the text of a path; a path without anything is a dot -/
def text (p : Path) : Text :=
  if p.slashes = 0 ∧ p.parts = [] then ['.']
  else List.replicate p.slashes '/' ++ Text.joined ['/'] p.parts

/-- is the path absolute? -/
def isAbsolute (p : Path) : Bool := p.slashes != 0

/-- `p` below `base`, or `p` itself if it is absolute -/
def under (p base : Path) : Path :=
  if p.isAbsolute then p else { base with parts := base.parts ++ p.parts }

/-- the path without its last part -/
def parent (p : Path) : Path := { p with parts := p.parts.dropLast }

theorem isAbsolute_under (p base : Path) (h : base.isAbsolute = true) :
    (p.under base).isAbsolute = true := by
  unfold under
  by_cases hp : p.isAbsolute = true
  · rw [if_pos hp]; exact hp
  · rw [if_neg hp]; exact h

/-! ## home directories -/

/-- the home directories of this machine: of the user, and of others by name -/
structure Homes where
  own : Text
  others : List (Text × Text) := []

/-- the home directory that a part beginning with a tilde names -/
def Homes.find? (homes : Homes) (part : Text) : Option Text :=
  match part.drop 1 with
  | [] =>
    let trimmed := (homes.own.reverse.dropWhile (· == '/')).reverse
    some (if trimmed.isEmpty then ['/'] else trimmed)
  | name => (homes.others.find? (·.1 == name)).map (·.2)

/-- the path with a tilde at its front replaced by a home directory -/
def expanded (homes : Homes) (p : Path) : Except Fault Path :=
  match p.slashes, p.parts with
  | 0, first :: rest =>
    if first.head? = some '~' then
      match homes.find? first with
      | none => .error .homeless
      | some home =>
        if home.head? = some '~' then .error .homeless
        else
          let h := ofText home
          .ok { h with parts := h.parts ++ rest }
    else .ok p
  | _, _ => .ok p

/-! ## without dots -/

/-- one part after others, which are in reverse order: two dots take the part before them away -/
def simplifiedStep (absolute : Bool) (before : List Text) (part : Text) : List Text :=
  if part = ['.', '.'] then
    match before with
    | [] => if absolute then [] else [part]
    | last :: rest => if last = ['.', '.'] then part :: before else rest
  else part :: before

/-- the path without dots, as far as names tell -/
def simplified (p : Path) : Path :=
  { p with parts := (p.parts.foldl (simplifiedStep p.isAbsolute) []).reverse }

end Path
end DatabaseTypes
