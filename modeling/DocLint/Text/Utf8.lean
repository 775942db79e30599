import DocLint.Text.Class
import DocLint.Text.Quoted

/-!
DocLint.Text.Utf8: texts from bytes.

The decoder takes one byte at a time. Between characters nothing is owed; after the first byte of a
longer character it knows how many bytes are owed and within which bounds the next one lies. It
refuses at the first byte that rules the text out, and the error holds the bytes of the character
that was begun.
-/

namespace DocLint.Text

/-- Why bytes are no text. -/
inductive DecodeReason where
  /-- No character starts with this byte. -/
  | invalidStart
  /-- A character is not continued as it has to be. -/
  | invalidContinuation
  /-- The bytes end within a character. -/
  | unexpectedEnd
  deriving DecidableEq, Repr

/-- Bytes that are no text. -/
structure DecodeError where
  /-- The position of the first byte of the character that was begun. -/
  start : Nat
  /-- Its bytes. -/
  bytes : List UInt8
  /-- What is wrong. -/
  reason : DecodeReason
  deriving DecidableEq, Repr

/-- A reason in words. -/
def DecodeReason.message : DecodeReason → String
  | .invalidStart => "invalid start byte"
  | .invalidContinuation => "invalid continuation byte"
  | .unexpectedEnd => "unexpected end of data"

/-- The message of an error: one byte is shown, of several the positions. -/
def DecodeError.message (e : DecodeError) : String :=
  "'utf-8' codec can't decode " ++ place ++ ": " ++ e.reason.message
where
  place : String :=
    match e.bytes with
    | [b] => "byte 0x" ++ String.ofList (hexText 2 b.toNat) ++ " in position " ++ toString e.start
    | bs => "bytes in position " ++ toString e.start ++ "-" ++ toString (e.start + bs.length - 1)

/-- A character of which the first bytes have been read. -/
structure Pending where
  /-- The bytes read. -/
  seen : List UInt8
  /-- The bits that they give. -/
  value : Nat
  /-- The number of bytes owed after the next one. -/
  owed : Nat
  /-- The least next byte. -/
  low : UInt8 := 0x80
  /-- The greatest next byte. -/
  high : UInt8 := 0xBF

/-- What the first byte of a longer character announces. The bounds of the second byte rule out
characters that have a shorter form, surrogates and code points that do not exist. -/
def lead? (b : UInt8) : Option Pending :=
  let n := b.toNat
  if b < 0xC2 then none
  else if b ≤ 0xDF then some { seen := [b], value := n - 0xC0, owed := 0 }
  else if b ≤ 0xEF then
    some { seen := [b], value := n - 0xE0, owed := 1, low := if b == 0xE0 then 0xA0 else 0x80,
           high := if b == 0xED then 0x9F else 0xBF }
  else if b ≤ 0xF4 then
    some { seen := [b], value := n - 0xF0, owed := 2, low := if b == 0xF0 then 0x90 else 0x80,
           high := if b == 0xF4 then 0x8F else 0xBF }
  else none

/-- Reads bytes, of which the first stands at `pos` or belongs to a character that begins there. -/
def decodeFrom (pos : Nat) : Option Pending → List UInt8 → Except DecodeError Text
  | none, [] => .ok []
  | some p, [] => .error ⟨pos, p.seen, .unexpectedEnd⟩
  | none, b :: bs =>
    if b < 0x80 then (decodeFrom (pos + 1) none bs).map (Char.ofNat b.toNat :: ·)
    else match lead? b with
      | some p => decodeFrom pos (some p) bs
      | none => .error ⟨pos, [b], .invalidStart⟩
  | some p, b :: bs =>
    if p.low ≤ b && b ≤ p.high then
      let value := p.value * 64 + (b.toNat - 0x80)
      let seen := p.seen ++ [b]
      match p.owed with
      | 0 => (decodeFrom (pos + seen.length) none bs).map (Char.ofNat value :: ·)
      | n + 1 => decodeFrom pos (some { seen, value, owed := n }) bs
    else .error ⟨pos, p.seen, .invalidContinuation⟩

/-- The text of bytes. -/
def decode (bs : List UInt8) : Except DecodeError Text :=
  decodeFrom 0 none bs

end DocLint.Text
