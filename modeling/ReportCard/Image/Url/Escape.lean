import ReportCard.Text.Quoted
import ReportCard.Text.Utf8

/-!
# Escapes in addresses

A character that may not stand for itself in a part of an address is written by its bytes, each after a sign of per
cent and in base sixteen.  Signs of per cent themselves are kept, so escaping a second time changes nothing.
-/

namespace ReportCard.Url

/-- Whether a character stands for itself in a query. -/
def inQuery (c : Char) : Bool := 0x21 ≤ c.toNat && c.toNat ≤ 0x7E && !(['"', '#', '<', '>'].contains c)

/-- Whether a character stands for itself in a path. -/
def inPath (c : Char) : Bool := inQuery c && !(['?', '\x60', '\x7b', '\x7d'].contains c)

/-- Whether a character stands for itself in the part about the user. -/
def inUserInfo (c : Char) : Bool := inPath c && !(['/', ';', '=', '@', '[', '\\', ']', '^', '|'].contains c)

/-- Whether a character stands for itself in a fragment. -/
def inFragment (c : Char) : Bool := 0x21 ≤ c.toNat && c.toNat ≤ 0x7E && !(['"', '<', '>', '\x60'].contains c)

/-- Whether a character stands for itself in the name of a host. -/
def inHost (c : Char) : Bool :=
  c.isAlphanum || "-._~!$&'()*+,;=\"\x60\x7b\x7d%|\\".toList.contains c

/-- A byte after a sign of per cent. -/
def escapedByte (b : Nat) : List Char := '%' :: (Text.hexDigits 2 b).map Char.toUpper

/-- A text in which every character satisfies `keep` or is escaped. -/
def escape (keep : Char → Bool) (s : String) : String :=
  String.ofList (s.toList.flatMap fun c => if keep c then [c] else (Text.Utf8.bytes c).flatMap escapedByte)

/-- The value of a digit in base sixteen. -/
def hexDigit? (c : Char) : Option Nat :=
  if c.isDigit then some (c.toNat - '0'.toNat)
  else if 'a' ≤ c && c ≤ 'f' then some (c.toNat - 'a'.toNat + 10)
  else if 'A' ≤ c && c ≤ 'F' then some (c.toNat - 'A'.toNat + 10)
  else none

/-- The bytes of an escaped text in ASCII. -/
def unescapedBytes : List Char → List Nat
  | '%' :: a :: b :: cs =>
    match hexDigit? a, hexDigit? b with
    | some high, some low => (16 * high + low) :: unescapedBytes cs
    | _, _ => 0x25 :: unescapedBytes (a :: b :: cs)
  | c :: cs => Text.Utf8.bytes c ++ unescapedBytes cs
  | [] => []

/-- The text that was escaped. -/
def unescape (s : String) : String := Text.Utf8.decode (unescapedBytes s.toList)

end ReportCard.Url
