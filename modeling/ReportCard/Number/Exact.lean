/-!
# The exact value of a double

A double is not a number, infinite, or a signed natural number times a power of two.  Truncation, rounding to a whole
number and the test for whole numbers are carried out on that exact value.
-/

namespace ReportCard

/-- What a double stands for; a finite one is `± mantissa * 2 ^ exponent`. -/
inductive Exact where
  | notANumber
  | infinite (negative : Bool)
  | finite (negative : Bool) (mantissa : Nat) (exponent : Int)
deriving Repr, DecidableEq

namespace Exact

/-- The sign of a double as a truth value. -/
def isNegative : Float.Model.UnpackedFloat.Sign → Bool
  | .negative => true
  | .positive => false

/-- The exact value of a double. -/
def ofFloat (x : Float) : Exact :=
  match x.toModel.unpack with
  | .notANumber => notANumber
  | .infinity s => infinite (isNegative s)
  | .zero s => finite (isNegative s) 0 0
  | .finite s m e _ => finite (isNegative s) m e

/-- The natural number `m` with the sign of the value. -/
def signed (negative : Bool) (m : Nat) : Int :=
  if negative then -(m : Int) else m

/-- The power `base ^ exponent`; a negative exponent counts as zero. -/
def power (base : Nat) (exponent : Int) : Nat := Nat.pow base exponent.toNat

/-- The integer part of `mantissa * 2 ^ exponent`. -/
def floorNat (mantissa : Nat) (exponent : Int) : Nat :=
  if 0 ≤ exponent then mantissa * power 2 exponent else mantissa / power 2 (-exponent)

/-- Whether `mantissa * 2 ^ exponent` is a whole number. -/
def isWholeNat (mantissa : Nat) (exponent : Int) : Bool :=
  0 ≤ exponent || mantissa % power 2 (-exponent) == 0

/-- The whole number nearest to `n / d`, the even one of two. -/
def roundDiv (n d : Nat) : Nat :=
  let q := n / d
  let r := n % d
  if 2 * r < d then q else if d < 2 * r then q + 1 else q + q % 2

/-- The whole number nearest to `mantissa * 2 ^ exponent`, the even one of two. -/
def roundNat (mantissa : Nat) (exponent : Int) : Nat :=
  if 0 ≤ exponent then mantissa * power 2 exponent else roundDiv mantissa (power 2 (-exponent))

/-- The exponent `k` with `2 ^ k ≤ n / d < 2 ^ (k + 1)`, for positive `n` and `d`. -/
def magnitude (n d : Nat) : Int :=
  let k : Int := (n.log2 : Int) - d.log2
  if n * power 2 (-k) < d * power 2 k then k - 1 else k

/-- The double nearest to `n / d`, for a positive `d`: rounded once, to the last place that a double of its size
has. -/
def ratio (n d : Nat) : Float :=
  if n = 0 then 0.0
  else
    let place := max (-1074) (magnitude n d - 52)
    let m := roundDiv (n * power 2 (-place)) (d * power 2 place)
    if 0 ≤ place then Float.ofNat (m * power 2 place)
    else Float.ofScientific (m * power 5 (-place)) true place.natAbs

/-- How a whole number compares to a double, if the double has a place among the numbers. -/
def order? (x : Exact) (n : Int) : Option Ordering :=
  match x with
  | notANumber => none
  | infinite negative => some (if negative then .gt else .lt)
  | finite negative m e => some (compare (n * power 2 (-e)) (signed negative (m * power 2 e)))

/-- What is left of a double when multiples of `n` are taken away, from zero up to `n`. -/
def remainder (x : Float) (n : Nat) : Float :=
  match ofFloat x with
  | .finite negative m e =>
    let rest :=
      if floorNat m e < n then x.abs
      else if 0 ≤ e then Float.ofNat (m * power 2 e % n)
      else Float.ofNat (m % (n * power 2 (-e))) / Float.ofNat (power 2 (-e))
    if negative && rest != 0.0 then Float.ofNat n - rest else rest
  | _ => x - x

end Exact

end ReportCard
