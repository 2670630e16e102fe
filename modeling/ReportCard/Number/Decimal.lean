import ReportCard.Number.Numeral
import ReportCard.Number.Shortest

/-!
# Decimal numbers

Decimal numbers of any length that keep the zeros at their end.  `plain` never uses an exponent; `text` uses one for
very small numbers and for those whose last digit stands left of the point.
-/

namespace ReportCard

/-- A decimal number; a finite one is `± coefficient * 10 ^ exponent`.  The payload of a number that is not one is
only carried along. -/
inductive Decimal where
  | finite (negative : Bool) (coefficient : Nat) (exponent : Int)
  | infinite (negative : Bool)
  | notANumber (negative signalling : Bool) (payload : String)
deriving Repr, DecidableEq

namespace Decimal

/-- The minus sign of a negative number. -/
def signText (negative : Bool) : String := if negative then "-" else ""

/-- The name of a number that is not finite. -/
def specialText : Decimal → String
  | finite .. => ""
  | infinite negative => signText negative ++ "Infinity"
  | notANumber negative signalling payload =>
    signText negative ++ (if signalling then "sNaN" else "NaN") ++ payload

/-- The text of a number, with an exponent where zeros would have to be made up. -/
def text : Decimal → String
  | finite negative c e =>
    let ds := Digits.ofNat c
    let point := e + ds.length
    if e ≤ 0 ∧ -6 < point then signText negative ++ String.ofList (Digits.positional ds point)
    else
      let shift := point - 1
      signText negative ++ String.ofList (Digits.positional ds 1) ++ "E" ++
        (if shift < 0 then "-" else "+") ++ toString shift.natAbs
  | d => d.specialText

/-- The text of a number without an exponent. -/
def plain : Decimal → String
  | finite negative c e =>
    if c = 0 ∧ 0 < e then signText negative ++ "0"
    else
      let ds := Digits.ofNat c
      signText negative ++ String.ofList (Digits.positional ds (e + ds.length))
  | d => d.specialText

/-- Whether the number equals zero. -/
def isZero : Decimal → Bool
  | finite _ c _ => c == 0
  | _ => false

/-- The nearest double; a signalling number that is not one has none. -/
def toFloat? : Decimal → Option Float
  | finite negative c e =>
    let x := Numeral.nearest c e
    some (if negative then -x else x)
  | infinite negative => some (if negative then -1.0 / 0.0 else 1.0 / 0.0)
  | notANumber _ signalling _ => if signalling then none else some (0.0 / 0.0)

/-- Reads a decimal number. -/
def ofText? (s : String) : Option Decimal := do
  let (negative, body) := Numeral.splitSign
    ((Text.trim s).toList.filter (· != '_') |> Numeral.toAscii)
  let payload cs := String.ofList (cs.dropWhile (· == '0'))
  let name := String.ofList (body.map Char.toLower)
  if name == "inf" || name == "infinity" then return infinite negative
  if "nan".isPrefixOf name then return notANumber negative false (payload (body.drop 3))
  if "snan".isPrefixOf name then return notANumber negative true (payload (body.drop 4))
  let (c, e) ← Numeral.decimal? body
  return finite negative c e

end Decimal

end ReportCard
