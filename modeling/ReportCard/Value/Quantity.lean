import ReportCard.Number.Decimal.Arithmetic
import ReportCard.Number.Scalar
import ReportCard.Value.Number

/-!
# Quantities

Numbers as a caller gives them: whole numbers of any size, doubles, decimal numbers, or things that are no numbers at
all.  Sums, differences and products of whole numbers stay whole and exact; a quotient, and everything that meets a
double, is a double.  Decimal numbers meet whole ones, but no doubles.  A result that there is no number for spoils
everything that is computed from it.
-/

namespace ReportCard

/-- A number, something else in its place, or the reason why there is neither. -/
inductive Quantity where
  | whole (n : Int)
  | real (x : Float)
  | decimal (d : Decimal)
  /-- Something that is no number. -/
  | other (v : Value)
  /-- Bytes, which are no number but may be the form of one. -/
  | bytes (s : String)
  | spoiled (fault : Fault)
deriving Inhabited

namespace Quantity

/-- The nearest double. -/
def toFloat : Quantity → Except Fault Float
  | whole n => floatOfInt n
  | real x => .ok x
  | decimal d => (Value.decimal d).asFloat
  | other _ | bytes _ => .error .wrongKind
  | spoiled fault => .error fault

/-- The number that a value is, or the value in its place. -/
def ofValue : Value → Quantity
  | .bool b => whole (if b then 1 else 0)
  | .int n => whole n
  | .float x => real x
  | .decimal d => decimal d
  | v => other v

/-- The quantity as a value, unless it is spoiled. -/
def toValue : Quantity → Except Fault Value
  | whole n => .ok (.int n)
  | real x => .ok (.float x)
  | decimal d => .ok (.decimal d)
  | other v => .ok v
  | bytes _ => .error .wrongKind
  | spoiled fault => .error fault

/-- Whether the quantity is a number. -/
def isNumber : Quantity → Bool
  | whole _ | real _ | decimal _ => true
  | other _ | bytes _ | spoiled _ => false

/-- The quantity, which has to be a number. -/
def checked (q : Quantity) : Except Fault Quantity :=
  match q with
  | other _ | bytes _ => .error .wrongKind
  | spoiled fault => .error fault
  | q => .ok q

/-- A double, or the reason why there is none. -/
def ofFloat : Except Fault Float → Quantity
  | .ok x => real x
  | .error fault => spoiled fault

/-- A decimal number, or the reason why there is none. -/
def ofDecimal? : Option Decimal → Quantity
  | some d => decimal d
  | none => spoiled .unorderedNumber

/-- Combines whole numbers in one way, doubles in another, and decimal numbers in a third. -/
def combine (onWhole : Int → Int → Quantity) (onReal : Float → Float → Float)
    (onDecimal : Decimal → Decimal → Option Decimal) : Quantity → Quantity → Quantity
  | whole m, whole n => onWhole m n
  | decimal x, decimal y => ofDecimal? (onDecimal x y)
  | decimal x, whole n => ofDecimal? (onDecimal x (.ofInt n))
  | whole m, decimal y => ofDecimal? (onDecimal (.ofInt m) y)
  | spoiled fault, _ | _, spoiled fault => spoiled fault
  | decimal _, real _ | real _, decimal _ => spoiled .wrongKind
  | other _, _ | _, other _ | bytes _, _ | _, bytes _ => spoiled .wrongKind
  | x, y => ofFloat do return onReal (← x.toFloat) (← y.toFloat)

/-- The double nearest to the quotient of two whole numbers; by zero, the quotient of the doubles. -/
def quotient (m n : Int) : Quantity :=
  if n = 0 then real (Float.ofInt m / Float.ofInt n)
  else
    let size := Exact.ratio m.natAbs n.natAbs
    if size.isInf then spoiled .quotientTooLarge
    else real (if (m < 0) == (n < 0) then size else -size)

/-- The quotient of two quantities; a double that is zero divides nothing. -/
def dividedBy (x y : Quantity) : Quantity :=
  match combine quotient (· / ·) Decimal.over? x y, y with
  | real q, real d => if d == 0.0 then spoiled .divisionByZero else real q
  | q, _ => q

/-- The square of a quantity; that of a finite double has to be finite. -/
def squared : Quantity → Quantity
  | real x => if !x.isInf && (x.pow 2.0).isInf then spoiled .powerTooLarge else real (x.pow 2.0)
  | q => combine (fun m n => whole (m * n)) (· * ·) Decimal.times? q q

/-- Compares numbers by their order, or doubles in a way of their own; what there is no number for compares in every
way. -/
def compare (onOrder : Ordering → Bool) (onReal : Float → Float → Bool) : Quantity → Quantity → Bool
  | whole m, whole n => onOrder (Ord.compare m n)
  | whole m, real y => ((Exact.ofFloat y).order? m |>.map onOrder).getD false
  | real x, whole n => ((Exact.ofFloat x).order? n |>.map (onOrder ·.swap)).getD false
  | real x, real y => onReal x y
  | decimal x, decimal y => ((x.order? y).map onOrder).getD true
  | decimal x, whole n => ((x.order? (.ofInt n)).map onOrder).getD true
  | whole m, decimal y => ((Decimal.order? (.ofInt m) y).map onOrder).getD true
  | x, y =>
    match x.toFloat, y.toFloat with
    | .ok x, .ok y => onReal x y
    | _, _ => true

/-- Whether two quantities are the same number; what is no number is the same as nothing. -/
def same (x y : Quantity) : Bool := x.isNumber && y.isNumber && compare (· == .eq) Float.beq x y

instance : Scalar Quantity where
  add := combine (fun m n => whole (m + n)) (· + ·) Decimal.plus?
  sub := combine (fun m n => whole (m - n)) (· - ·) fun x y => x.plus? y.negated
  mul := combine (fun m n => whole (m * n)) (· * ·) Decimal.times?
  div := dividedBy
  ofNat n := whole n
  lt := compare (· == .lt) Float.lt
  le := compare (· != .gt) Float.le
  eq := same
  isNil q := (q.toValue.map fun v => !v.isTruthy).toOption.getD false
  checked := checked

end Quantity

end ReportCard
