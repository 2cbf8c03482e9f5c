import DatabaseTypes.Path

/-!
# Files

The files of a machine are entries under locations, a location being the names on the way from the
root.  There are directories and regular files.

* `Files`             the entries
* `Files.locate`      the location that a path means, or why it means none
* `Files.exists?`, `Files.isDirectory?`   questions about a path
* `Files.read`        the bytes of a file
* `Files.removed`, `Files.renamed`, `Files.whereabouts`   entries that are moved, and where they are
* `Files.write`, `Files.append`   files with the bytes of one file changed
* `Files.makeDirectory`, `Files.makeDirectories`   files with new directories
-/

namespace DatabaseTypes

/-- the names on the way from the root to an entry -/
abbrev Location := List Text

/-- what stands at a location -/
inductive Entry where
  | directory
  | file (bytes : Bytes)
  deriving DecidableEq

/-- what became of an entry that was at a location: where it is now, unless it is gone -/
structure Move where
  source : Location
  target : Option Location
  deriving DecidableEq

/-- the entries of a machine, where the root itself is always a directory, and what entries were moved or
removed, the last one first -/
structure Files where
  entries : List (Location × Entry) := []
  moves : List Move := []
  deriving DecidableEq

/-- is a location another one, or below it? -/
def Location.isWithin (base l : Location) : Bool := l.take base.length == base

namespace Files

/-- the entry at a location -/
def find? (files : Files) (l : Location) : Option Entry :=
  if l = [] then some .directory else (files.entries.find? (·.1 == l)).map (·.2)

/-- an entry set at a location among others -/
def setAmong (l : Location) (e : Entry) : List (Location × Entry) → List (Location × Entry)
  | [] => [(l, e)]
  | x :: xs => if x.1 = l then (l, e) :: xs else x :: setAmong l e xs

/-- an entry set at a location -/
def set (files : Files) (l : Location) (e : Entry) : Files :=
  { files with entries := setAmong l e files.entries }

/-- an entry with the directories on the way to it -/
def plant (l : Location) (e : Entry) (files : Files) : Files :=
  let above := (List.range l.length).map fun n => l.take n
  (above.foldl (fun fs a => if (fs.find? a).isSome then fs else fs.set a .directory) files).set l e

/-! ## moving -/

/-- the entries without those within a location -/
def removed (files : Files) (base : Location) : Files where
  entries := files.entries.filter fun e => !base.isWithin e.1
  moves := ⟨base, none⟩ :: files.moves

/-- the entries and copies of those within a location, at another one -/
def copied (files : Files) (base target : Location) : Files :=
  (files.entries.filter fun e => base.isWithin e.1).foldl (fun fs e =>
    fs.set (target ++ e.1.drop base.length) e.2) files

/-- the entries with those within a location at another one, in place of what is there -/
def renamed (files : Files) (base target : Location) : Files :=
  let moved := ((files.removed target).copied base target)
  { entries := moved.entries.filter fun e => !base.isWithin e.1
    moves := ⟨base, some target⟩ :: moved.moves }

/-- where an entry is after some moves, the last one first, unless it is gone -/
def after : List Move → Location → Option Location
  | [], l => some l
  | m :: ms, l => do
    let l ← after ms l
    if m.source.isWithin l then m.target.map (· ++ l.drop m.source.length) else some l

/-- where an entry of some files is among later ones, unless it is gone -/
def whereabouts (before later : Files) (l : Location) : Option Location :=
  after (later.moves.take (later.moves.length - before.moves.length)) l

/-! ## locations -/

/-- the longest name that an entry can have, in bytes -/
def longestName : Nat := 255

/-- the longest path that can be asked for, in bytes -/
def longestPath : Nat := 4095

/-- the location that parts lead to from a location; everything but the last must be a directory -/
def walk (files : Files) : Location → List Text → Except SystemCause Location
  | l, [] => .ok l
  | l, part :: rest =>
    match files.find? l with
    | none => .error .notFound
    | some (.file _) => .error .notDirectory
    | some .directory =>
      if part = ['.', '.'] then walk files l.dropLast rest
      else if longestName < part.toBytes.length then .error .nameTooLong
      else walk files (l ++ [part]) rest

/-- the location that a path means for someone at `here` -/
def locate (files : Files) (here : Location) (p : Path) : Except SystemCause Location :=
  if longestPath < p.text.toBytes.length then .error .nameTooLong
  else walk files (if p.isAbsolute then [] else here) p.parts

/-- the entry that a path means -/
def entry (files : Files) (here : Location) (p : Path) : Except SystemCause Entry := do
  match files.find? (← files.locate here p) with
  | some e => pure e
  | none => .error .notFound

/-- does a character have no bytes in the name of an entry? Half of the halves stand for bytes that are
no UTF-8. -/
def isNameless (c : Char) : Bool := isHalf c && !(0xdc80 ≤ charCode c && charCode c ≤ 0xdcff)

/-- why no operation takes a text for a name, if none does: it has halves that stand for no bytes, or a
null character -/
def nameFault? (t : Text) : Option Fault :=
  match t.halves? isNameless with
  | some f => some (.unencodable f)
  | none => if t.contains '\x00' then some .nullInPath else none

/-- why no operation takes a path, if none does -/
def pathFault? (p : Path) : Option Fault := nameFault? p.text

/-- an operation on a path that the system refuses -/
def refuse {α : Type} (p : Path) (cause : SystemCause) : Except Fault α :=
  .error (.system ⟨cause, p.text⟩)

/-! ## questions -/

/-- does a path mean something that `test` accepts? A way that leads nowhere is a plain no. -/
def holds (files : Files) (here : Location) (p : Path) (test : Entry → Bool) :
    Except Fault Bool :=
  if (pathFault? p).isSome then .ok false
  else match files.entry here p with
    | .ok e => .ok (test e)
    | .error .notFound => .ok false
    | .error .notDirectory => .ok false
    | .error cause => refuse p cause

/-- does a path mean an entry? -/
def exists? (files : Files) (here : Location) (p : Path) : Except Fault Bool :=
  files.holds here p fun _ => true

/-- does a path mean a directory? -/
def isDirectory? (files : Files) (here : Location) (p : Path) : Except Fault Bool :=
  files.holds here p fun e => e == .directory

/-! ## reading and writing -/

/-- the bytes of a file -/
def read (files : Files) (here : Location) (p : Path) : Except Fault Bytes :=
  if let some f := pathFault? p then .error f
  else match files.entry here p with
    | .ok (.file bytes) => .ok bytes
    | .ok .directory => refuse p .isDirectory
    | .error cause => refuse p cause

/-- the files with the bytes of one file changed by `change`; a file that is not there is made -/
def update (files : Files) (here : Location) (p : Path) (change : Bytes → Bytes) :
    Except Fault Files :=
  if let some f := pathFault? p then .error f
  else match files.locate here p with
    | .error cause => refuse p cause
    | .ok l => match files.find? l with
      | some .directory => refuse p .isDirectory
      | some (.file bytes) => .ok (files.set l (.file (change bytes)))
      | none => .ok (files.set l (.file (change [])))

/-- the files with new bytes for one file -/
def write (files : Files) (here : Location) (p : Path) (bytes : Bytes) : Except Fault Files :=
  files.update here p fun _ => bytes

/-- the files with bytes added to the file at a location, if there is one -/
def extend (files : Files) (l : Location) (bytes : Bytes) : Files :=
  match files.find? l with
  | some (.file old) => files.set l (.file (old ++ bytes))
  | _ => files

/-- the files with bytes added to one file -/
def append (files : Files) (here : Location) (p : Path) (bytes : Bytes) : Except Fault Files :=
  files.update here p fun old => old ++ bytes

/-! ## directories -/

/-- the files with a new directory; there must be nothing at its place -/
def makeDirectory (files : Files) (here : Location) (p : Path) : Except SystemCause Files := do
  let l ← files.locate here p
  if p.parts.getLast? = some ['.', '.'] ∨ (files.find? l).isSome then .error .alreadyThere
  else match files.find? l.dropLast with
    | none => .error .notFound
    | some (.file _) => .error .notDirectory
    | some .directory => pure (files.set l .directory)

/-- one attempt to make a directory: any refusal but a missing directory on the way is overlooked
if the directory is there -/
def ensureDirectory (files : Files) (here : Location) (p : Path) (cause : SystemCause) :
    Except Fault Files := do
  if ← files.isDirectory? here p then pure files else refuse p cause

/-- the files with a directory, and with those above it if need be; `depth` bounds how many.  The
files change even if the directory cannot be made in the end. -/
def makeDirectoriesFrom (here : Location) : Nat → Files → Path → Files × Except Fault Unit
  | depth, files, p =>
    if let some f := pathFault? p then (files, .error f)
    else match files.makeDirectory here p with
      | .ok files => (files, .ok ())
      | .error .notFound =>
        match depth with
        | 0 => (files, refuse p .notFound)
        | depth + 1 =>
          if p.parts = [] then (files, refuse p .notFound)
          else match makeDirectoriesFrom here depth files p.parent with
            | (files, .error f) => (files, .error f)
            | (files, .ok ()) => match files.makeDirectory here p with
              | .ok files => (files, .ok ())
              | .error .notFound => (files, refuse p .notFound)
              | .error cause => (files, (files.ensureDirectory here p cause).map fun _ => ())
      | .error cause => (files, (files.ensureDirectory here p cause).map fun _ => ())

/-- the files with a directory and those above it, and whether the directory is there now -/
def makeDirectories (files : Files) (here : Location) (p : Path) : Files × Except Fault Unit :=
  makeDirectoriesFrom here (p.parts.length + 1) files p

end Files
end DatabaseTypes
