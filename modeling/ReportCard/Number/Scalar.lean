import ReportCard.Fault

/-!
# Scalars

What page geometry asks of its numbers.  A page is painted with doubles; over the rationals the same definitions give
the exact geometry that the doubles approximate.
-/

namespace ReportCard

/-- A type of lengths and scale factors.  The comparisons are separate operations because a double may be unordered:
of `lt x y`, `le y x` and `eq x y` all can fail. -/
class Scalar (α : Type) extends Add α, Sub α, Mul α, Div α where
  ofNat : Nat → α
  lt : α → α → Bool
  le : α → α → Bool
  eq : α → α → Bool
  /-- Whether a scalar is zero, or stands for nothing. -/
  isNil : α → Bool := fun x => eq x (ofNat 0)
  /-- The scalar, unless it stands for something that is no number. -/
  checked : α → Except Fault α := .ok

namespace Scalar

instance : Scalar Float where
  ofNat := Float.ofNat
  lt := Float.lt
  le := Float.le
  eq := Float.beq

instance : Scalar Rat where
  ofNat n := n
  lt x y := decide (x < y)
  le x y := decide (x ≤ y)
  eq x y := decide (x = y)

variable {α : Type} [Scalar α]

/-- The scalar zero. -/
def zero : α := ofNat 0

/-- Whether `x` is above zero. -/
def isPos (x : α) : Bool := lt zero x

/-- Whether `x` is zero or below. -/
def isNonpos (x : α) : Bool := le x zero

/-- The scalar `n / d`. -/
def ratio (n d : Nat) : α := ofNat n / ofNat d

/-- The first of two scalars unless the second is less. -/
def least (x y : α) : α := if lt y x then y else x

/-- The given scalar unless it is missing or stands for nothing. -/
def orElse (x : Option α) (default : α) : α :=
  match x with
  | some x => if isNil x then default else x
  | none => default

/-- The sum from the left. -/
def sum (xs : List α) : α := xs.foldl (· + ·) zero

end Scalar

end ReportCard
