import ReportCard.Text.Blank
import ReportCard.Text.Digit

/-!
# Numerals

How a text is read as a number.  The digits of every script count, one underscore may stand between two digits, and
blanks around the numeral are skipped.  A whole number in base ten has a limited length.
-/

namespace ReportCard.Numeral

open Text

/-- The text with every decimal digit written in ASCII and every blank outside ASCII as a space; other characters
outside ASCII become question marks, which no numeral contains.  A text in ASCII stays as it is. -/
def toAscii (cs : List Char) : List Char :=
  if cs.all (·.toNat < 0x80) then cs
  else cs.map fun c =>
    if c.toNat < 0x7F then c
    else if isBlank c then ' '
    else match digit? c with
      | some d => Nat.digitChar d
      | none => '?'

/-- Drops the underscores of a numeral if each stands between two digits; `previous` is the character before. -/
def ungroup? (previous : Char) : List Char → Option (List Char)
  | [] => some []
  | c :: cs =>
    if c == '_' then
      match cs with
      | d :: _ => if previous.isDigit && d.isDigit then ungroup? c cs else none
      | [] => none
    else (ungroup? c cs).map (c :: ·)

/-- The natural number that ASCII digits stand for in base ten. -/
def natOfDigits (ds : List Char) : Nat :=
  ds.foldl (fun n c => 10 * n + (c.toNat - '0'.toNat)) 0

/-- A sign that may be left out, and what follows it. -/
def splitSign : List Char → Bool × List Char
  | '-' :: cs => (true, cs)
  | '+' :: cs => (false, cs)
  | cs => (false, cs)

/-- The exponent at the end of a numeral. -/
def exponent? : List Char → Option Int
  | [] => some 0
  | c :: cs =>
    if c == 'e' || c == 'E' then
      let (negative, ds) := splitSign cs
      if ds.isEmpty || !ds.all Char.isDigit then none
      else some (if negative then -(natOfDigits ds : Int) else natOfDigits ds)
    else none

/-- An unsigned decimal numeral as a coefficient and an exponent of ten. -/
def decimal? (cs : List Char) : Option (Nat × Int) :=
  let whole := cs.takeWhile Char.isDigit
  let (fraction, rest) := match cs.dropWhile Char.isDigit with
    | '.' :: r => (r.takeWhile Char.isDigit, r.dropWhile Char.isDigit)
    | r => ([], r)
  if whole.isEmpty && fraction.isEmpty then none
  else (exponent? rest).map fun e => (natOfDigits (whole ++ fraction), e - fraction.length)

/-- The double nearest to `coefficient * 10 ^ exponent`. -/
def nearest (coefficient : Nat) (exponent : Int) : Float :=
  Float.ofScientific coefficient (exponent < 0) exponent.natAbs

/-- The names of the numbers that are not finite, in lower case. -/
def special? (cs : List Char) : Option Float :=
  let name := String.ofList (cs.map Char.toLower)
  if name == "inf" || name == "infinity" then some (1.0 / 0.0)
  else if name == "nan" then some (0.0 / 0.0)
  else none

/-- The double that a text stands for. -/
def float? (s : String) : Option Float := do
  let cs ← ungroup? ' ' (trimBy isAsciiBlank (toAscii s.toList))
  let (negative, body) := splitSign cs
  let x ← (special? body).or ((decimal? body).map fun d => nearest d.1 d.2)
  return if negative then -x else x

/-- The double that bytes stand for, each given as the character with its number.  Of the characters that count as
blanks in a text only those up to the carriage return and the space do so among bytes. -/
def floatOfBytes? (s : String) : Option Float :=
  if s.toList.all fun c => c.toNat < 0x1C || (0x20 ≤ c.toNat && c.toNat < 0x7F) then float? s else none

/-- The value of an ASCII digit in a base of at most sixteen. -/
def digitIn? (base : Nat) (c : Char) : Option Nat :=
  let v := if c.isDigit then c.toNat - '0'.toNat
    else if 'a' ≤ c && c ≤ 'f' then c.toNat - 'a'.toNat + 10
    else if 'A' ≤ c && c ≤ 'F' then c.toNat - 'A'.toNat + 10
    else base
  if v < base then some v else none

/-- Reads digits and single underscores between them after the digits that make up `n`. -/
def moreDigits? (base : Nat) (n : Nat) : List Char → Option Nat
  | [] => some n
  | '_' :: c :: cs => (digitIn? base c).bind fun d => moreDigits? base (base * n + d) cs
  | c :: cs => (digitIn? base c).bind fun d => moreDigits? base (base * n + d) cs

/-- Reads an unsigned whole number; it begins with a digit. -/
def nat? (base : Nat) : List Char → Option Nat
  | [] => none
  | c :: cs => (digitIn? base c).bind fun d => moreDigits? base d cs

/-- Drops the mark of base sixteen, and one underscore after it. -/
def dropHexMark : List Char → List Char
  | '0' :: x :: cs =>
    if x == 'x' || x == 'X' then
      match cs with
      | '_' :: rest => rest
      | _ => cs
    else '0' :: x :: cs
  | cs => cs

/-- Why a text is no whole number in base ten. -/
inductive Misread where
  | malformed
  /-- More digits than are read. -/
  | tooLong (digits : Nat)
deriving Repr, DecidableEq

/-- The most digits of a whole number in base ten, those that add nothing included. -/
def maxDigits : Nat := 4300

/-- The digits at the front of `cs`, without the underscores between them. -/
def leadingDigits? (cs : List Char) : Option (List Char) :=
  (ungroup? ' ' (cs.takeWhile fun c => c.isDigit || c == '_')).filter (!·.isEmpty)

/-- The unsigned whole number that `cs` stands for in base ten.  Too many digits count before what follows them. -/
def whole (cs : List Char) : Except Misread Nat :=
  match leadingDigits? cs with
  | none => .error .malformed
  | some ds =>
    if maxDigits < ds.length then .error (.tooLong ds.length)
    else if cs.all fun c => c.isDigit || c == '_' then .ok (natOfDigits ds)
    else .error .malformed

/-- The whole number that a text stands for in base ten. -/
def int (s : String) : Except Misread Int :=
  let (negative, body) := splitSign (trimBy isAsciiBlank (toAscii s.toList))
  (whole body).map fun n => if negative then -(n : Int) else n

/-- The whole number that a text stands for in base sixteen. -/
def hexInt? (s : String) : Option Int :=
  let (negative, body) := splitSign (trimBy isAsciiBlank (toAscii s.toList))
  (nat? 16 (dropHexMark body)).map fun n => if negative then -(n : Int) else n

end ReportCard.Numeral
