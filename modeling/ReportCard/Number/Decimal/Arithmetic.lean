import ReportCard.Number.Decimal

/-!
# Arithmetic of decimal numbers

Sums, products and quotients of decimal numbers.  A result has at most 28 digits; one that would have more is rounded,
a half to the even neighbour.  What is not a number stays so, and operations without a result yield none.
-/

namespace ReportCard.Decimal

/-- The most digits of a result. -/
def precision : Nat := 28

/-- The number `± coefficient * 10 ^ exponent` in at most `precision` digits. -/
def rounded (negative : Bool) (coefficient : Nat) (exponent : Int) : Decimal :=
  let extra := (Digits.ofNat coefficient).length - precision
  let c := Exact.roundDiv coefficient (Exact.power 10 extra)
  if precision < (Digits.ofNat c).length then finite negative (c / 10) (exponent + extra + 1)
  else finite negative c (exponent + extra)

/-- The value of a finite number in units of `10 ^ exponent`, for an exponent that is not above its own. -/
def units (negative : Bool) (coefficient : Nat) (own exponent : Int) : Int :=
  Exact.signed negative (coefficient * Exact.power 10 (own - exponent))

/-- The number itself if it is not a number; a signalling one has no result. -/
def passedOn : Decimal → Decimal → Option (Option Decimal)
  | notANumber _ true _, _ | _, notANumber _ true _ => some none
  | notANumber n false p, _ => some (some (notANumber n false p))
  | _, notANumber n false p => some (some (notANumber n false p))
  | _, _ => none

/-- The sum of two numbers. -/
def plus? (x y : Decimal) : Option Decimal :=
  match passedOn x y, x, y with
  | some result, _, _ => result
  | none, finite m a d, finite n b e =>
    let place := min d e
    let sum := units m a d place + units n b e place
    some (rounded (if sum = 0 then m && n else sum < 0) sum.natAbs place)
  | none, infinite m, infinite n => if m == n then some x else none
  | none, infinite _, _ => some x
  | none, _, _ => some y

/-- The number with the other sign. -/
def negated : Decimal → Decimal
  | finite n c e => finite (!n) c e
  | infinite n => infinite !n
  | d => d

/-- Whether a number that is one has a minus sign. -/
def isMinus : Decimal → Bool
  | finite n .. | infinite n | notANumber n .. => n

/-- The product of two numbers. -/
def times? (x y : Decimal) : Option Decimal :=
  match passedOn x y, x, y with
  | some result, _, _ => result
  | none, finite m a d, finite n b e => some (rounded (m != n) (a * b) (d + e))
  | none, x, y => if x.isZero || y.isZero then none else some (infinite (x.isMinus != y.isMinus))

/-- Takes zeros off the end of a coefficient until the exponent has grown to `ideal`, in at most `fuel` steps. -/
def withoutZeros (ideal : Int) : Nat → Nat → Int → Nat × Int
  | 0, c, e => (c, e)
  | fuel + 1, c, e => if e < ideal && c % 10 == 0 then withoutZeros ideal fuel (c / 10) (e + 1) else (c, e)

/-- The quotient of two numbers, the second not zero.  An exact quotient has no more zeros at its end than it needs;
one that is not exact never ends in a digit that would look like a tie. -/
def quotient (negative : Bool) (a b : Nat) (d e : Int) : Decimal :=
  let shift : Int := ((Digits.ofNat b).length : Int) - (Digits.ofNat a).length + precision + 1
  let n := a * Exact.power 10 shift
  let m := b * Exact.power 10 (-shift)
  if a = 0 then finite negative 0 (d - e)
  else if n % m = 0 then
    let (c, e) := withoutZeros (d - e) (Digits.ofNat (n / m)).length (n / m) (d - e - shift)
    rounded negative c e
  else rounded negative (if n / m % 5 = 0 then n / m + 1 else n / m) (d - e - shift)

/-- The exponent of the smallest numbers. -/
def leastExponent : Int := -1000026

/-- The quotient of two numbers. -/
def over? (x y : Decimal) : Option Decimal :=
  match passedOn x y, x, y with
  | some result, _, _ => result
  | none, finite m a d, finite n b e => if b = 0 then none else some (quotient (m != n) a b d e)
  | none, infinite _, infinite _ => none
  | none, x, infinite _ => some (finite (x.isMinus != y.isMinus) 0 leastExponent)
  | none, _, y => some (infinite (x.isMinus != y.isMinus))

/-- How two numbers compare, if they do. -/
def order? : Decimal → Decimal → Option Ordering
  | finite m a d, finite n b e => some (compare (units m a d (min d e)) (units n b e (min d e)))
  | notANumber .., _ | _, notANumber .. => none
  | infinite m, infinite n => some (if m == n then .eq else if m then .lt else .gt)
  | infinite m, _ => some (if m then .lt else .gt)
  | _, infinite n => some (if n then .gt else .lt)

/-- A whole number as a decimal one. -/
def ofInt (n : Int) : Decimal := finite (n < 0) n.natAbs 0

end ReportCard.Decimal
