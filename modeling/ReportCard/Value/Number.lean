import ReportCard.Fault
import ReportCard.Text.Case
import ReportCard.Value.Basic

/-!
# Values as numbers

Three readings of a value as a number: `asFloat` refuses what is no number, `floatOrZero` takes it as zero, and
`number?` is the lenient reading of template fields, where a text may end in a unit of pixels and everything else
counts as missing.  A whole number that is too large for a double stops all three.
-/

namespace ReportCard

/-- The least size of a whole number that no finite double is nearest to: it lies halfway between the greatest double
and the power of two above it, and the even one of these two is the power. -/
@[irreducible]
def doubleBound : Nat := Nat.pow 2 1024 - Nat.pow 2 970

/-- The double nearest to a whole number. -/
def floatOfInt (n : Int) : Except Fault Float :=
  if doubleBound ≤ n.natAbs then .error .numberTooLarge else .ok (Float.ofInt n)

/-- The whole number next to a double on the side of zero. -/
def truncate (x : Float) : Except Fault Int :=
  match Exact.ofFloat x with
  | .notANumber => .error .wholeOfNaN
  | .infinite _ => .error .wholeOfInfinity
  | .finite negative m e => .ok (Exact.signed negative (Exact.floorNat m e))

/-- The whole number nearest to a double, the even one of two. -/
def roundToEven (x : Float) : Except Fault Int :=
  match Exact.ofFloat x with
  | .notANumber => .error .wholeOfNaN
  | .infinite _ => .error .wholeOfInfinity
  | .finite negative m e => .ok (Exact.signed negative (Exact.roundNat m e))

/-- The whole number that a text stands for. -/
def wholeOfText (s : String) : Except Fault Int :=
  match Numeral.int s with
  | .ok n => .ok n
  | .error .malformed => .error (.notAWholeNumeral s)
  | .error (.tooLong digits) => .error (.tooManyDigits digits)

namespace Value

/-- The value as a double. -/
def asFloat : Value → Except Fault Float
  | bool b => .ok (if b then 1.0 else 0.0)
  | int n => floatOfInt n
  | float x => .ok x
  | decimal d => (d.toFloat?.map .ok).getD (.error .signallingNumber)
  | text s => ((Numeral.float? s).map .ok).getD (.error (.notANumeral (Text.quoted s)))
  | _ => .error .wrongKind

/-- The value as a double, zero if it is no number. -/
def floatOrZero (v : Value) : Except Fault Float :=
  match v with
  | bool b => .ok (if b then 1.0 else 0.0)
  | int n => floatOfInt n
  | float x => .ok x
  | decimal d => .ok (d.toFloat?.getD 0.0)
  | text s => .ok ((Numeral.float? s).getD 0.0)
  | _ => .ok 0.0

/-- The numeral of a measure, without the unit of pixels at its end. -/
def measureText (s : String) : String :=
  let t := Text.lower (Text.trim s)
  if t.endsWith "px" then String.ofList (t.toList.dropLast.dropLast) else t

/-- The number that a template field holds, if any. -/
def number? : Value → Except Fault (Option Float)
  | int n => (floatOfInt n).map some
  | float x => .ok (some x)
  | text s => .ok (Numeral.float? (measureText s))
  | _ => .ok none

/-- The number that a template field holds, or the given one. -/
def numberD (v : Value) (default : Float) : Except Fault Float :=
  v.number?.map (·.getD default)

/-- The whole number that a template field holds, if any. -/
def whole? (v : Value) : Except Fault (Option Int) := do
  match ← v.number? with
  | none => return none
  | some x => return some (← truncate x)

/-- Whether the value is a number or a truth value that is zero or less; values without an order are faults. -/
def isNonpositive : Value → Except Fault Bool
  | bool b => .ok !b
  | int n => .ok (n ≤ 0)
  | float x => .ok (x ≤ 0.0)
  | decimal (.finite negative c _) => .ok (negative || c == 0)
  | decimal (.infinite negative) => .ok negative
  | decimal (.notANumber ..) => .error .unorderedNumber
  | _ => .error .wrongKind

/-! ### Drawn values -/

mutual

/-- The value as it is drawn: with doubles for its whole numbers, also for those in its lists. -/
def inked : Value → Except Fault Value
  | int n => return float (← floatOfInt n)
  | list vs => return list (← inkedAll vs)
  | tuple vs => return tuple (← inkedAll vs)
  | v => return v

/-- Values as they are drawn. -/
def inkedAll : List Value → Except Fault (List Value)
  | [] => return []
  | v :: vs => return (← inked v) :: (← inkedAll vs)

end

end Value

end ReportCard
