import ReportCard.Number.Numeral
import ReportCard.Number.Shortest
import ReportCard.Text.Quoted
import ReportCard.Value.Basic

/-!
# Values as JSON

Templates and records come as JSON documents.  A number with a point or an exponent is a double, every other one is
whole; of several entries with one key the last one counts.  Documents are read leniently: what does not belong into
one is skipped.
-/

namespace ReportCard.Json

/-! ### Reading -/

/-- The value of a digit in base sixteen. -/
def hexDigit (c : Char) : Nat :=
  if c.isDigit then c.toNat - 48 else if 'a' ≤ c && c ≤ 'f' then c.toNat - 87 else c.toNat - 55

/-- The value of digits in base sixteen. -/
def hexNat (cs : List Char) : Nat := cs.foldl (fun n c => 16 * n + hexDigit c) 0

/-- Skips blanks. -/
def skip (cs : List Char) : List Char := cs.dropWhile fun c => c == ' ' || c == '\t' || c == '\n' || c == '\r'

/-- The characters that a letter behind a backslash stands for, if not for itself. -/
def escapes : List (Char × Char) := [('n', '\n'), ('t', '\t'), ('r', '\r'), ('b', '\x08'), ('f', '\x0c')]

/-- The character of two units of sixteen bits, if they belong together. -/
def paired? (high low : Nat) : Option Char :=
  if 0xD800 ≤ high && high < 0xDC00 && 0xDC00 ≤ low && low < 0xE000 then
    some (Char.ofNat (0x10000 + (high - 0xD800) * 1024 + (low - 0xDC00)))
  else none

/-- Reads the rest of a string after the opening quote, in at most `fuel` steps; `before` is reversed. -/
def readString : Nat → List Char → List Char → String × List Char
  | fuel + 1, before, '\\' :: 'u' :: a :: b :: c :: d :: rest =>
    let high := hexNat [a, b, c, d]
    match rest with
    | '\\' :: 'u' :: e :: f :: g :: h :: others =>
      match paired? high (hexNat [e, f, g, h]) with
      | some c => readString fuel (c :: before) others
      | none => readString fuel (Char.ofNat high :: before) rest
    | _ => readString fuel (Char.ofNat high :: before) rest
  | fuel + 1, before, '\\' :: c :: rest => readString fuel ((escapes.lookup c).getD c :: before) rest
  | fuel + 1, before, c :: rest =>
    if c == '"' then (String.ofList before.reverse, rest) else readString fuel (c :: before) rest
  | _, before, rest => (String.ofList before.reverse, rest)

/-- Whether a character belongs to a number. -/
def isNumeric (c : Char) : Bool := c.isDigit || ['-', '+', '.', 'e', 'E'].contains c

/-- The number that a literal stands for. -/
def readNumber (cs : List Char) : Value :=
  let s := String.ofList cs
  if cs.any fun c => c == '.' || c == 'e' || c == 'E' then .float ((Numeral.float? s).getD 0.0)
  else .int (s.toInt?.getD 0)

/-- The words for values, and for the doubles that are no numbers or infinite. -/
def words : List (String × Value) :=
  [("true", .bool true), ("false", .bool false), ("null", .null), ("NaN", .float (0.0 / 0.0)),
    ("Infinity", .float (1.0 / 0.0)), ("-Infinity", .float (-1.0 / 0.0))]

/-- Reads a word or a number. -/
def readAtom (cs : List Char) : Value × List Char :=
  match words.findSome? fun e => (e.1.toList.isPrefixOf? cs).map (e.2, ·) with
  | some found => found
  | none => (readNumber (cs.takeWhile isNumeric), cs.dropWhile isNumeric)

mutual

/-- Reads a value in at most `fuel` steps. -/
def readValue : Nat → List Char → Value × List Char
  | 0, cs => (.null, cs)
  | fuel + 1, cs =>
    match skip cs with
    | '\x7b' :: rest => readEntries fuel [] rest
    | '[' :: rest => readItems fuel [] rest
    | '"' :: rest =>
      let (s, rest) := readString rest.length [] rest
      (.text s, rest)
    | cs => readAtom cs

/-- Reads the rest of a list after the items in `before`, which is reversed. -/
def readItems : Nat → List Value → List Char → Value × List Char
  | 0, before, cs => (.list before.reverse, cs)
  | fuel + 1, before, cs =>
    match skip cs with
    | ']' :: rest => (.list before.reverse, rest)
    | ',' :: rest => readItems fuel before rest
    | [] => (.list before.reverse, [])
    | cs =>
      let (v, rest) := readValue fuel cs
      readItems fuel (v :: before) rest

/-- Reads the rest of a mapping after some entries. -/
def readEntries : Nat → Entries → List Char → Value × List Char
  | 0, before, cs => (.mapping before, cs)
  | fuel + 1, before, cs =>
    match skip cs with
    | '\x7d' :: rest => (.mapping before, rest)
    | '"' :: rest =>
      let (key, rest) := readString rest.length [] rest
      let (v, rest) := readValue fuel ((skip rest).drop 1)
      readEntries fuel (before.put key v) rest
    | _ :: rest => readEntries fuel before rest
    | [] => (.mapping before, [])

end

/-- The value that a document describes. -/
def read (document : String) : Value :=
  let cs := document.toList
  (readValue (cs.length + 1) cs).1

/-! ### Writing -/

/-- A unit of sixteen bits by its number. -/
def unit (n : Nat) : String := "\\u" ++ String.ofList (Text.hexDigits 4 n)

/-- A character within a string; what is not plain ASCII is written by its units. -/
def escaped (c : Char) : String :=
  let n := c.toNat
  if c == '"' then "\\\"" else if c == '\\' then "\\\\"
  else if 32 ≤ n && n < 127 then String.singleton c
  else if n < 0x10000 then unit n
  else unit (0xD800 + (n - 0x10000) / 1024) ++ unit (0xDC00 + (n - 0x10000) % 1024)

/-- A string with its quotes. -/
def string (s : String) : String := "\"" ++ String.join (s.toList.map escaped) ++ "\""

/-- The literal of a double; one that is no number or infinite is told by name. -/
def number (x : Float) : String :=
  if x.isNaN then "\"NaN\"" else if x.isInf then (if x < 0.0 then "\"-Infinity\"" else "\"Infinity\"")
  else floatText x

end ReportCard.Json
