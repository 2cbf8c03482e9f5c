import DatabaseTypes.Text.Lines
import DatabaseTypes.Text.Utf8

/-!
# Files read piece by piece

A file is read in pieces of so many characters.  For a piece its bytes are decoded in portions, as
many as are needed, so that a fault is met only when the portion with it is.  The bytes of a fault
are counted from the beginning of its portion.

* `Text.Feed`        the bytes that are left, and what is decoded but not yet read
* `Text.Feed.read`   the next piece
* `Text.pieces`      all pieces up to the end, or up to a fault
-/

namespace DatabaseTypes.Text

/-- how many characters a piece has, unless it is the last one -/
def pieceLength : Nat := 4096

/-- how many bytes a portion has at least, unless it is the last one -/
def portionLength : Nat := 8192

/-- what is left of a file: its bytes, those that begin a character which is not complete, a carriage
return that a line feed may follow, the characters that are decoded, and the size of the last portion
in bytes and characters -/
structure Feed where
  bytes : Bytes
  begun : Bytes := []
  heldBack : Text := []
  ready : Text := []
  portion : Nat × Nat := (0, 0)

namespace Feed

/-- how many bytes to take for so many characters, to judge by the last portion -/
def portionFor (f : Feed) (count : Nat) : Nat :=
  max portionLength (if f.portion.2 = 0 then count else max count (f.portion.1 * count / f.portion.2))

/-- the characters of bytes, and the bytes at their end that begin a character -/
def decoded (bs : Bytes) : Except Utf8Fault (Text × Bytes) :=
  match ofBytes bs with
  | .ok t => .ok (t, [])
  | .error f => match f.cause with
    | .endOfData => (ofBytes (bs.take f.start)).map fun t => (t, bs.drop f.start)
    | _ => .error f

/-- a text without the carriage return at its end, and that carriage return -/
def withoutReturn (t : Text) : Text × Text :=
  if t.getLast? = some '\r' then (t.dropLast, ['\r']) else (t, [])

/-- one more portion -/
def fetch (f : Feed) (count : Nat) : Except Utf8Fault Feed := do
  let size := f.portionFor count
  let taken := f.bytes.take size
  let (t, begun) ← decoded (f.begun ++ taken)
  let (t, heldBack) := withoutReturn (f.heldBack ++ t)
  let t := t.newlinesUnified
  pure { bytes := f.bytes.drop size, begun, heldBack, ready := f.ready ++ t
         portion := (taken.length, t.length) }

/-- the end of the file: nothing may be begun -/
def finished (f : Feed) : Except Utf8Fault Feed := do
  let t ← ofBytes f.begun
  let rest := (f.heldBack ++ t).newlinesUnified
  pure { f with begun := [], heldBack := [], ready := f.ready ++ rest, portion := (0, rest.length) }

/-- portions until so many characters are ready, or the file ends -/
def filled (count : Nat) : Nat → Feed → Except Utf8Fault Feed
  | 0, f => .ok f
  | fuel + 1, f => do
    if count ≤ f.ready.length then pure f
    else if f.bytes.isEmpty then f.finished
    else filled count fuel (← f.fetch (count - f.ready.length))

/-- the next piece, which is empty at the end -/
def read (f : Feed) : Except Utf8Fault (Text × Feed) := do
  let f ← filled pieceLength (f.bytes.length + 1) f
  pure (f.ready.take pieceLength, { f with ready := f.ready.drop pieceLength })

/-- the pieces up to the end or to a fault -/
def pieces : Nat → Feed → List Text × Option Utf8Fault
  | 0, _ => ([], none)
  | fuel + 1, f => match f.read with
    | .error fault => ([], some fault)
    | .ok (t, f) =>
      if t.isEmpty then ([], none)
      else
        let (ts, fault) := pieces fuel f
        (t :: ts, fault)

end Feed

/-- the pieces of a file up to its end, or up to a fault -/
def pieces (bs : Bytes) : List Text × Option Utf8Fault :=
  Feed.pieces (bs.length + 1) { bytes := bs }

end DatabaseTypes.Text
