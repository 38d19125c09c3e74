/-
# Reading bytes as text

`SPEC_FULL` §6, *HTTP*: the bytes that percent signs stand for in a query.

`decodeLossy` reads bytes as UTF-8. Where they are not, the longest start of a
character there, or else one byte, becomes U+FFFD.
-/

namespace Alternation
namespace Text

/-- The character that stands for what could not be read. -/
def replacement : Char := '\ufffd'

/-- What may follow the first byte of a character: the bits that the first byte
gives, the bounds of the second byte, and the number of bytes after that. -/
def leadByte? (b : UInt8) : Option (Nat × UInt8 × UInt8 × Nat) :=
  if 0xC2 ≤ b ∧ b ≤ 0xDF then some (b.toNat - 0xC0, 0x80, 0xBF, 0)
  else if b = 0xE0 then some (0, 0xA0, 0xBF, 1)
  else if b = 0xED then some (0xD, 0x80, 0x9F, 1)
  else if 0xE1 ≤ b ∧ b ≤ 0xEF then some (b.toNat - 0xE0, 0x80, 0xBF, 1)
  else if b = 0xF0 then some (0, 0x90, 0xBF, 2)
  else if 0xF1 ≤ b ∧ b ≤ 0xF3 then some (b.toNat - 0xF0, 0x80, 0xBF, 2)
  else if b = 0xF4 then some (4, 0x80, 0x8F, 2)
  else none

/-- Where the reader is: between characters, or within one, with the bits so far,
the bounds of the next byte and the number of bytes after it. -/
inductive Utf8State where
  | between
  | within (bits : Nat) (low high : UInt8) (left : Nat)
deriving DecidableEq, Repr

/-- What a byte that starts a character ends, and where the reader is after it. -/
def start (b : UInt8) : List Char × Utf8State :=
  if b < 0x80 then ([Char.ofNat b.toNat], .between)
  else
    match leadByte? b with
    | some (bits, low, high, left) => ([], .within bits low high left)
    | none => ([replacement], .between)

/-- The characters that a byte ends, and where the reader is after it. -/
def readByte : Utf8State → UInt8 → List Char × Utf8State
  | .between, b => start b
  | .within bits low high left, b =>
    if low ≤ b ∧ b ≤ high then
      let bits := bits * 64 + (b.toNat - 0x80)
      match left with
      | 0 => ([Char.ofNat bits], .between)
      | left + 1 => ([], .within bits 0x80 0xBF left)
    else
      let (ended, next) := start b
      (replacement :: ended, next)

/-- The characters of bytes. -/
def decodeFrom : Utf8State → List UInt8 → List Char
  | .between, [] => []
  | .within _ _ _ _, [] => [replacement]
  | state, b :: rest => (readByte state b).1 ++ decodeFrom (readByte state b).2 rest

/-- The text of bytes, with replacements where they are no text. -/
def decodeLossy (bytes : List UInt8) : String := String.ofList (decodeFrom .between bytes)

end Text
end Alternation
