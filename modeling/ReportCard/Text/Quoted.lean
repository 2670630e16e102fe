import ReportCard.Text.Printable

/-!
# Quoted text

A text between quotes.  Single quotes are used unless the text holds single quotes and no double ones; characters
that are not printable are written by their code points in the shortest of three widths.
-/

namespace ReportCard.Text

/-- The `width` last digits of `n` in base 16, in lower case. -/
def hexDigits : Nat → Nat → List Char
  | 0, _ => []
  | width + 1, n => hexDigits width (n / 16) ++ [Nat.digitChar (n % 16)]

/-- A code point written by its number, in the shortest of three widths. -/
def escapedPoint (n : Nat) : List Char :=
  if n < 0x100 then '\\' :: 'x' :: hexDigits 2 n
  else if n < 0x10000 then '\\' :: 'u' :: hexDigits 4 n
  else '\\' :: 'U' :: hexDigits 8 n

/-- A character inside a text quoted with `quote`. -/
def quoteChar (quote c : Char) : List Char :=
  if c == quote || c == '\\' then ['\\', c]
  else if c == '\n' then ['\\', 'n']
  else if c == '\r' then ['\\', 'r']
  else if c == '\t' then ['\\', 't']
  else if isPrintable c then [c]
  else escapedPoint c.toNat

/-- The quote that `cs` is written between. -/
def quoteFor (cs : List Char) : Char :=
  if cs.contains '\'' && !cs.contains '"' then '"' else '\''

/-- The text between quotes. -/
def quoted (s : String) : String :=
  let quote := quoteFor s.toList
  String.ofList (quote :: s.toList.flatMap (quoteChar quote) ++ [quote])

/-- A byte inside bytes quoted with `quote`, as the character with its number. -/
def quoteByte (quote c : Char) : List Char :=
  if c == quote || c == '\\' then ['\\', c]
  else if c == '\n' then ['\\', 'n']
  else if c == '\r' then ['\\', 'r']
  else if c == '\t' then ['\\', 't']
  else if 0x20 ≤ c.toNat && c.toNat < 0x7F then [c]
  else escapedPoint c.toNat

/-- Bytes between quotes, behind a mark, each byte given as the character with its number. -/
def quotedBytes (s : String) : String :=
  let quote := quoteFor s.toList
  String.ofList ('b' :: quote :: s.toList.flatMap (quoteByte quote) ++ [quote])

/-- Code points between quotes; those that are no characters are written like characters that are not printable. -/
def quotedPoints (ns : List Nat) : String :=
  let quote := quoteFor (ns.map Char.ofNat)
  String.ofList (quote :: ns.flatMap (fun n =>
    if n.isValidChar then quoteChar quote (Char.ofNat n) else escapedPoint n) ++ [quote])

end ReportCard.Text
