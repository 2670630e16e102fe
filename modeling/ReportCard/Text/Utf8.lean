/-!
# Bytes as text

A character as the bytes of its UTF-8 form, and bytes read as text: what is no part of a well-formed character becomes
a replacement character, or spoils the whole text.
-/

namespace ReportCard.Text.Utf8

/-- The bytes of a character. -/
def bytes (c : Char) : List Nat := (String.singleton c).toUTF8.toList.map UInt8.toNat

/-- The replacement character. -/
def replacement : Char := Char.ofNat 0xFFFD

/-- A character of which some bytes have been read: how many are missing, the bits so far, and the bounds of the next
byte. -/
structure Pending where
  missing : Nat
  bits : Nat
  low : Nat
  high : Nat

/-- What the first byte of a character of several bytes announces. -/
def announced? (b : Nat) : Option Pending :=
  if 0xC2 ≤ b && b ≤ 0xDF then some ⟨1, b - 0xC0, 0x80, 0xBF⟩
  else if 0xE0 ≤ b && b ≤ 0xEF then
    some ⟨2, b - 0xE0, if b = 0xE0 then 0xA0 else 0x80, if b = 0xED then 0x9F else 0xBF⟩
  else if 0xF0 ≤ b && b ≤ 0xF4 then
    some ⟨3, b - 0xF0, if b = 0xF0 then 0x90 else 0x80, if b = 0xF4 then 0x8F else 0xBF⟩
  else none

/-- Reads bytes after those of a pending character, if there is one; what is no part of a character reads as none. -/
def readFrom (pending : Option Pending) : List Nat → List (Option Char)
  | [] => if pending.isSome then [none] else []
  | b :: bs =>
    let start : List (Option Char) :=
      if b < 0x80 then some (Char.ofNat b) :: readFrom none bs
      else match announced? b with
        | some p => readFrom (some p) bs
        | none => none :: readFrom none bs
    match pending with
    | none => start
    | some p =>
      if p.low ≤ b && b ≤ p.high then
        let bits := p.bits * 64 + (b - 0x80)
        if p.missing = 1 then some (Char.ofNat bits) :: readFrom none bs
        else readFrom (some ⟨p.missing - 1, bits, 0x80, 0xBF⟩) bs
      else none :: start

/-- The text of bytes, with replacement characters. -/
def decode (bs : List Nat) : String := String.ofList ((readFrom none bs).map fun c => c.getD replacement)

/-- The characters of bytes that are well-formed throughout. -/
def strictly? (bs : List Nat) : Option (List Char) := (readFrom none bs).mapM id

end ReportCard.Text.Utf8
