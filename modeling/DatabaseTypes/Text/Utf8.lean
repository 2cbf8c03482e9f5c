import DatabaseTypes.Text.Basic

/-!
# UTF-8

* `Text.toBytes`        the bytes of a text
* `HalfFault`           where a text has halves of surrogate pairs, which have no bytes
* `Text.encoded`        the bytes of a text, or the first halves in it
* `Utf8Fault`           where bytes stop being UTF-8, and why
* `Text.ofBytes`        the text of bytes, or the first fault
* `Text.ofBytesShowing` the text of bytes in which the bytes of a fault are written out

A lead byte fixes how many bytes follow it and the range of the first of them, so that no code
point has two encodings and no surrogate has one.  A fault spans the bytes up to the one that
cannot continue the character.
-/

namespace DatabaseTypes

/-- bytes, as a file or a pipe holds them -/
abbrev Bytes := List UInt8

/-! ## writing -/

/-- the bytes of one character -/
def charBytes (c : Char) : Bytes :=
  let n := c.toNat
  let tail (unit : Nat) : UInt8 := UInt8.ofNat (0x80 + n / unit % 64)
  if n < 0x80 then [UInt8.ofNat n]
  else if n < 0x800 then [UInt8.ofNat (0xc0 + n / 64), tail 1]
  else if n < 0x10000 then [UInt8.ofNat (0xe0 + n / 4096), tail 64, tail 1]
  else [UInt8.ofNat (0xf0 + n / 262144), tail 4096, tail 64, tail 1]

/-- the bytes of a text -/
def Text.toBytes (t : Text) : Bytes := t.flatMap charBytes

theorem Text.toBytes_nil : Text.toBytes [] = [] := rfl
theorem Text.toBytes_append (s t : Text) : Text.toBytes (s ++ t) = s.toBytes ++ t.toBytes := by
  simp [Text.toBytes, List.flatMap_append]

/-! ## halves -/

/-- halves of surrogate pairs in a row: the code of the first one, its position, and how many they are -/
structure HalfFault where
  code : Nat
  start : Nat
  length : Nat
  deriving DecidableEq

/-- the fault in words: a single half is shown, several are given by their positions -/
def HalfFault.message (f : HalfFault) : Text :=
  let what : Text :=
    if f.length = 1 then
      "character '\\u" ++ Text.hexadecimal 4 f.code ++ "' in position " ++ Text.ofNat f.start
    else "characters in position " ++ Text.ofNat f.start ++ "-" ++ Text.ofNat (f.start + f.length - 1)
  "'utf-8' codec can't encode " ++ what ++ ": surrogates not allowed"

/-- the first characters in a text that `isBad` tells of, as far as they stand in a row -/
def Text.halves? (isBad : Char → Bool) (t : Text) : Option HalfFault :=
  let front := t.takeWhile fun c => !isBad c
  match t.drop front.length with
  | [] => none
  | c :: rest => some ⟨charCode c, front.length, (rest.takeWhile isHalf).length + 1⟩

/-- the bytes of a text, or the first halves in it -/
def Text.encoded (t : Text) : Except HalfFault Bytes :=
  match t.halves? isHalf with
  | some f => .error f
  | none => .ok t.toBytes

/-- a text with its halves written as escapes -/
def Text.halvesSpelt (t : Text) : Text :=
  t.flatMap fun c => if isHalf c then ['\\', 'u'] ++ Text.hexadecimal 4 (charCode c) else [c]

/-- a text with each half replaced, once for each of the three bytes that it would have -/
def Text.halvesReplaced (t : Text) : Text :=
  t.flatMap fun c => if isHalf c then ['\ufffd', '\ufffd', '\ufffd'] else [c]

/-- a text without halves has the bytes of its characters -/
theorem Text.encoded_of_all {t : Text} (h : ∀ c ∈ t, isHalf c = false) : t.encoded = .ok t.toBytes := by
  have e : t.takeWhile (fun c => !isHalf c) = t := by
    induction t with
    | nil => rfl
    | cons c t ih => simp [h c (by simp), ih fun d hd => h d (by simp [hd])]
  simp [Text.encoded, Text.halves?, e]

/-! ## faults -/

/-- why bytes are not UTF-8 -/
inductive Utf8Cause where
  | startByte
  | continuationByte
  | endOfData
  deriving DecidableEq

/-- a fault: its first byte, the position of that byte, and how many bytes it spans -/
structure Utf8Fault where
  byte : UInt8
  start : Nat
  length : Nat
  cause : Utf8Cause
  deriving DecidableEq

/-- the cause in words -/
def Utf8Cause.message : Utf8Cause → Text
  | .startByte => "invalid start byte"
  | .continuationByte => "invalid continuation byte"
  | .endOfData => "unexpected end of data"

/-- the fault in words: a single byte is shown, several are given by their positions -/
def Utf8Fault.message (f : Utf8Fault) : Text :=
  let what : Text :=
    if f.length = 1 then
      "byte 0x" ++ Text.hexadecimal 2 f.byte.toNat ++ " in position " ++ Text.ofNat f.start
    else
      "bytes in position " ++ Text.ofNat f.start ++ "-" ++ Text.ofNat (f.start + f.length - 1)
  "'utf-8' codec can't decode " ++ what ++ ": " ++ f.cause.message

/-! ## reading -/

/-- what a lead byte promises: how many bytes follow, the range of the first of them, and the
bits that the lead byte itself contributes -/
structure Utf8Lead where
  following : Nat
  low : Nat
  high : Nat
  bits : Nat

/-- the promise of a byte that may start a character of several bytes -/
def Utf8Lead.ofByte? (b : UInt8) : Option Utf8Lead :=
  let n := b.toNat
  if 0xc2 ≤ n ∧ n ≤ 0xdf then some ⟨1, 0x80, 0xbf, n - 0xc0⟩
  else if n = 0xe0 then some ⟨2, 0xa0, 0xbf, 0⟩
  else if n = 0xed then some ⟨2, 0x80, 0x9f, 13⟩
  else if 0xe1 ≤ n ∧ n ≤ 0xef then some ⟨2, 0x80, 0xbf, n - 0xe0⟩
  else if n = 0xf0 then some ⟨3, 0x90, 0xbf, 0⟩
  else if n = 0xf4 then some ⟨3, 0x80, 0x8f, 4⟩
  else if 0xf1 ≤ n ∧ n ≤ 0xf3 then some ⟨3, 0x80, 0xbf, n - 0xf0⟩
  else none

/-- the bytes that follow a lead byte: the code point, or how many bytes were good and why the
next one is not -/
def followingBits (low high : Nat) : Nat → Nat → Nat → Bytes → Except (Nat × Utf8Cause) Nat
  | 0, _, bits, _ => .ok bits
  | _ + 1, good, _, [] => .error (good, .endOfData)
  | k + 1, good, bits, b :: bs =>
    if low ≤ b.toNat ∧ b.toNat ≤ high then
      followingBits 0x80 0xbf k (good + 1) (bits * 64 + (b.toNat - 0x80)) bs
    else .error (good, .continuationByte)

/-- the next character of bytes that are not empty, with the number of its bytes, or the number of
bytes of the fault -/
def nextChar (b : UInt8) (bs : Bytes) : Except (Nat × Utf8Cause) (Char × Nat) :=
  if b < 0x80 then .ok (Char.ofNat b.toNat, 1)
  else match Utf8Lead.ofByte? b with
    | none => .error (1, .startByte)
    | some lead => match followingBits lead.low lead.high lead.following 0 lead.bits bs with
      | .ok n => .ok (Char.ofNat n, lead.following + 1)
      | .error (good, cause) => .error (good + 1, cause)

/-- the text of bytes; `skip` bytes belong to a character that is already read -/
def Text.ofBytesFrom (position : Nat) : Nat → Bytes → Except Utf8Fault Text
  | _, [] => .ok []
  | skip + 1, _ :: bs => ofBytesFrom (position + 1) skip bs
  | 0, b :: bs => match nextChar b bs with
    | .error (length, cause) => .error ⟨b, position, length, cause⟩
    | .ok (c, n) => match ofBytesFrom (position + 1) (n - 1) bs with
      | .error f => .error f
      | .ok t => .ok (c :: t)

/-- the text that bytes encode, or the first fault -/
def Text.ofBytes (bs : Bytes) : Except Utf8Fault Text := Text.ofBytesFrom 0 0 bs

/-- the text of bytes; the bytes of a fault are written as `\x` and two digits -/
def Text.ofBytesShowingFrom : Nat → Nat → Bytes → Text
  | _, _, [] => []
  | shown + 1, _, b :: bs =>
    ['\\', 'x'] ++ Text.hexadecimal 2 b.toNat ++ ofBytesShowingFrom shown 0 bs
  | 0, skip + 1, _ :: bs => ofBytesShowingFrom 0 skip bs
  | 0, 0, b :: bs => match nextChar b bs with
    | .error (length, _) =>
      ['\\', 'x'] ++ Text.hexadecimal 2 b.toNat ++ ofBytesShowingFrom (length - 1) 0 bs
    | .ok (c, n) => c :: ofBytesShowingFrom 0 (n - 1) bs

/-- the text of bytes of any kind, with the bytes of every fault written out -/
def Text.ofBytesShowing (bs : Bytes) : Text := Text.ofBytesShowingFrom 0 0 bs

end DatabaseTypes
