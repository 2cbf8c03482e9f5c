import DatabaseTypes.Filter.Arguments
import DatabaseTypes.Filter.Scene

/-!
# Copying blocks

* `Filter.sizeOf?`       a size in words: numbers with units, and products of them
* `Filter.BlockErrand`   what is copied, in which blocks, and what is changed on the way
* `Filter.blocking`      the filter
-/

namespace DatabaseTypes.Filter

/-! ## sizes -/

/-- the units of sizes -/
def sizeUnits : List (Text × Nat) := [("c", 1), ("w", 2), ("b", 512), ("k", 1024), ("K", 1024), ("kB", 1000),
  ("KB", 1000), ("KiB", 1024), ("M", 1048576), ("MB", 1000000), ("MiB", 1048576), ("G", 1073741824),
  ("GB", 1000000000), ("GiB", 1073741824)]

/-- a number with a unit -/
def unitSize? (t : Text) : Option Nat := do
  let digits := t.takeWhile Text.isDigit
  let n ← count? digits
  let unit := t.drop digits.length
  if unit.isEmpty then pure n else do pure (n * (← sizeUnits.lookup unit))

/-- a size in words: numbers with units, and products of them -/
def sizeOf? (t : Text) : Option Nat := do
  let sizes ← (Text.split 'x' t).mapM unitSize?
  pure (sizes.foldl (· * ·) 1)

/-! ## what is asked for -/

/-- what is copied, in which blocks, and what is changed on the way -/
structure BlockErrand where
  source : Option Text := none
  target : Option Text := none
  taken : Nat := 512
  given : Nat := 512
  both : Option Nat := none
  record : Nat := 0
  /-- how many blocks are copied, and how many are left out in front of the source and the target; an
  amount may be one of bytes -/
  count : Option (Nat × Bool) := none
  skipped : Nat × Bool := (0, false)
  sought : Nat × Bool := (0, false)
  changes : List Text := []
  sourceFlags : List Text := []
  targetFlags : List Text := []
  silence : Text := []

/-- the names of changes -/
def changeNames : List Text := ["lcase", "ucase", "swab", "sync", "block", "unblock", "notrunc", "noerror",
  "nocreat", "excl", "sparse", "fsync", "fdatasync"]

/-- the names of ways of reading and writing -/
def flagNames : List Text := ["append", "binary", "count_bytes", "direct", "directory", "dsync", "fullblock",
  "noatime", "nocache", "nofollow", "nolinks", "nonblock", "seek_bytes", "skip_bytes", "sync", "text"]

namespace BlockErrand

/-- does a change belong to what is asked for? -/
def has (e : BlockErrand) (change : String) : Bool := e.changes.contains change.toList

/-- what is asked for with one more operand, or what is wrong with it; help is named after some faults -/
def with_ (e : BlockErrand) (operand : Text) : Except (Text × Bool) BlockErrand :=
  let name := operand.takeWhile (· != '=')
  let value := operand.drop (name.length + 1)
  let size (least : Nat) (change : Nat → BlockErrand) : Except (Text × Bool) BlockErrand :=
    match sizeOf? value with
    | some n => if least ≤ n then .ok (change n) else .error ("invalid number: '" ++ value ++ "'", false)
    | none => .error ("invalid number: '" ++ value ++ "'", false)
  let amount (change : Nat × Bool → BlockErrand) : Except (Text × Bool) BlockErrand :=
    let inBytes := value.getLast? = some 'B' && (unitSize? value).isNone
    match sizeOf? (if inBytes then value.dropLast else value) with
    | some n => .ok (change (n, inBytes))
    | none => .error ("invalid number: '" ++ value ++ "'", false)
  let names (what : Text) (known : List Text) (change : List Text → BlockErrand) :
      Except (Text × Bool) BlockErrand :=
    let given := Text.split ',' value
    match given.find? fun t => !known.contains t with
    | some t => .error ("invalid " ++ what ++ ": '" ++ t ++ "'", true)
    | none => .ok (change given)
  if !operand.contains '=' then .error ("unrecognized operand '" ++ operand ++ "'", true)
  else if name = "if" then .ok { e with source := some value }
  else if name = "of" then .ok { e with target := some value }
  else if name = "bs" then size 1 fun n => { e with both := some n }
  else if name = "ibs" then size 1 fun n => { e with taken := n }
  else if name = "obs" then size 1 fun n => { e with given := n }
  else if name = "cbs" then size 1 fun n => { e with record := n }
  else if name = "count" then amount fun n => { e with count := some n }
  else if name = "skip" ∨ name = "iseek" then amount fun n => { e with skipped := n }
  else if name = "seek" ∨ name = "oseek" then amount fun n => { e with sought := n }
  else if name = "conv" then names "conversion" changeNames fun ts => { e with changes := e.changes ++ ts }
  else if name = "iflag" then names "input flag" flagNames fun ts => { e with sourceFlags := ts }
  else if name = "oflag" then names "output flag" flagNames fun ts => { e with targetFlags := ts }
  else if name = "status" then
    if ["none".toList, "noxfer", "progress"].contains value then .ok { e with silence := value }
    else .error ("invalid status level: '" ++ value ++ "'", true)
  else .error ("unrecognized operand '" ++ operand ++ "'", true)

/-- what is asked for by operands -/
def ofOperands (operands : List Text) : Except (Text × Bool) BlockErrand := do
  let e ← operands.foldlM with_ {}
  if e.has "lcase" && e.has "ucase" then throw ("cannot combine lcase and ucase".toList, false)
  if e.has "block" && e.has "unblock" then throw ("cannot combine block and unblock".toList, false)
  pure (match e.both with
    | some n => { e with taken := n, given := n }
    | none => e)

end BlockErrand

/-! ## copying -/

/-- bytes in blocks of a size, of which the last may be smaller; each step takes a block -/
def blocksBy (size : Nat) : Nat → Bytes → List Bytes
  | 0, _ | _, [] => []
  | fuel + 1, bs => bs.take size :: blocksBy size fuel (bs.drop size)

/-- neighbours exchanged -/
def swapped : Bytes → Bytes
  | a :: b :: bs => b :: a :: swapped bs
  | bs => bs

/-- exchanging neighbours twice changes nothing -/
theorem swapped_swapped (bs : Bytes) : swapped (swapped bs) = bs := by
  fun_induction swapped bs with
  | case1 a b bs ih => simp [swapped, ih]
  | case2 bs h => unfold swapped; split <;> simp_all

/-- lines as records of one size, filled up with blanks or cut -/
def recordsOf (size : Nat) (bs : Bytes) : Bytes :=
  (byteLines bs).flatMap fun l =>
    let own := l.filter (· != 10)
    own.take size ++ List.replicate (size - own.length) 32

/-- records of one size as lines without the blanks at their ends -/
def linesOfRecords (size : Nat) (bs : Bytes) : Bytes :=
  (blocksBy size bs.length bs).flatMap fun r => (r.reverse.dropWhile (· == 32)).reverse ++ [10]

/-- a block with its changes -/
def BlockErrand.changed (e : BlockErrand) (block : Bytes) : Bytes :=
  let isLast := block.length < e.taken
  let filler : UInt8 := if e.has "block" || e.has "unblock" then 32 else 0
  let block := if isLast && e.has "sync" then block ++ List.replicate (e.taken - block.length) filler else block
  let block := if e.has "swab" then swapped block else block
  let cased (change : Char → Char) : Bytes := asBytes ((asText block).map change)
  if e.has "lcase" then cased Char.toLower else if e.has "ucase" then cased Char.toUpper else block

/-- what is copied of bytes, and the blocks that were taken and given: how many are full, and how many are
not -/
def BlockErrand.copied (e : BlockErrand) (bs : Bytes) : Bytes × (Nat × Nat) × (Nat × Nat) :=
  let inBytes (flag : String) : Bool := e.sourceFlags.contains flag.toList
  let skipped := if e.skipped.2 || inBytes "skip_bytes" then e.skipped.1 else e.skipped.1 * e.taken
  let rest := bs.drop skipped
  let wanted := match e.count with
    | some (n, isBytes) => rest.take (if isBytes || inBytes "count_bytes" then n else n * e.taken)
    | none => rest
  let blocks := blocksBy e.taken wanted.length wanted
  let sizes (size : Nat) (blocks : List Bytes) : Nat × Nat :=
    let full := (blocks.filter fun b => b.length == size).length
    (full, blocks.length - full)
  let changed := (blocks.map e.changed).flatten
  let output := if e.has "block" && 0 < e.record then recordsOf e.record changed
    else if e.has "unblock" && 0 < e.record then linesOfRecords e.record changed else changed
  (output, sizes e.taken blocks, sizes e.given (blocksBy e.given output.length output))

/-- a note about how much was copied -/
def BlockErrand.note (e : BlockErrand) (taken given : Nat × Nat) (size : Nat) : Text :=
  let line (n : Nat × Nat) (what : Text) : Text :=
    Text.ofNat n.1 ++ ['+'] ++ Text.ofNat n.2 ++ " records " ++ what ++ ['\n']
  if e.silence = "none" then []
  else line taken "in" ++ line given "out"
    ++ (if e.silence = "noxfer" then ([] : Text) else Text.ofNat size ++ " bytes copied\n")

/-- copy blocks -/
def blocking : Program := withArguments {} fun s a input =>
  match BlockErrand.ofOperands a.operands with
  | .error (t, helps) => if helps then s.misuse t input else s.complaint t input
  | .ok e =>
    let failed (t : Text) (cause : SystemCause) : Outcome :=
      s.complaint ("failed to open '" ++ t ++ "': " ++ cause.message) input
    match e.source.map fun t => (t, s.read t) with
    | some (t, .error cause) => failed t cause
    | source =>
      let bytes := match source with
        | some (_, .ok bytes) => bytes
        | _ => input
      let (output, taken, given) := e.copied bytes
      let inBytes := e.sought.2 || e.targetFlags.contains "seek_bytes".toList
      let sought := if inBytes then e.sought.1 else e.sought.1 * e.given
      let front (old : Bytes) : Bytes := old.take sought ++ List.replicate (sought - old.length) 0
      let errors := (e.note taken given output.length).toBytes
      let left := if source.isSome then input else []
      match e.target with
      | none =>
        if 0 < sought then s.complaint "'standard output': cannot seek: Illegal seek" input
        else { output, errors, left }
      | some t =>
        let change (old : Bytes) : Bytes :=
          if e.targetFlags.contains "append".toList then old ++ output
          else front old ++ output ++ if e.has "notrunc" then old.drop (sought + output.length) else []
        match s.written t change with
        | .ok files => { files := some files, errors, left }
        | .error cause => failed t cause

end DatabaseTypes.Filter
