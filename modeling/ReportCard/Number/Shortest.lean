import ReportCard.Number.Exact

/-!
# Shortest decimal digits

The fewest decimal digits that single out a double among all doubles, and the two layouts of a number: with a decimal
point in its place, or with an exponent of ten.
-/

namespace ReportCard

/-- A positive decimal number `digits * 10 ^ exponent`. -/
structure Digits where
  digits : Nat
  exponent : Int
deriving Repr, DecidableEq

namespace Digits

/-- The decimal digits of a natural number. -/
def ofNat (n : Nat) : List Char := Nat.toDigits 10 n

/-- The exponent `k` with `10 ^ k ≤ n / d < 10 ^ (k + 1)`, for positive `n` and `d`. -/
def magnitude (n d : Nat) : Int :=
  if d ≤ n then ((ofNat (n / d)).length : Int) - 1
  else -((ofNat ((d + n - 1) / n - 1)).length : Int)

/-- Of the two neighbours of `value / d` on the grid of multiples of `step / d`, the nearer one that lies between
`low / d` and `high / d`, as a multiple of `step`; of two equally near ones the even multiple.  The bounds count as
inside when `closed` holds. -/
def nearestOnGrid (value low high step : Nat) (closed : Bool) : Option Nat :=
  let q := value / step
  let inside c := if closed then low ≤ c * step && c * step ≤ high else low < c * step && c * step < high
  let below := value - q * step
  let above := (q + 1) * step - value
  match inside q, inside (q + 1) with
  | true, true => some (if below < above || (below == above && q % 2 == 0) then q else q + 1)
  | true, false => some q
  | false, true => some (q + 1)
  | false, false => none

/-- The shortest digits of `mantissa * 2 ^ exponent`, the magnitude of a double: on the coarsest decimal grid that has
a point among the numbers that round to this double, the nearest such point.  The numbers that round to it reach half
way to its neighbours, and the neighbour below a power of two is nearer. -/
def shortest (mantissa : Nat) (exponent : Int) : Digits :=
  let num := Exact.power 2 (exponent - 2)
  let den := Exact.power 2 (2 - exponent)
  let value := 4 * mantissa
  let low := if mantissa == Exact.power 2 52 && exponent != -1074 then value - 1 else value - 2
  let high := value + 2
  let k := magnitude (value * num) den
  let onGrid (places : Nat) : Option Digits :=
    let p : Int := k + 1 - places
    let scale := num * Exact.power 10 (-p)
    let step := den * Exact.power 10 p
    (nearestOnGrid (value * scale) (low * scale) (high * scale) step (mantissa % 2 == 0)).map (⟨·, p⟩)
  ((List.range' 1 17).findSome? onGrid).getD ⟨mantissa, 0⟩

/-- The digits without the zeros at their end, and the exponent that makes up for them. -/
def stripZeros (d : Digits) : List Char × Int :=
  let ds := ofNat d.digits
  let kept := (ds.reverse.dropWhile (· == '0')).reverse
  (kept, d.exponent + (ds.length - kept.length : Nat))

/-- Digits with the decimal point after the first `point` of them, padded with zeros. -/
def positional (ds : List Char) (point : Int) : List Char :=
  if point ≤ 0 then '0' :: '.' :: List.replicate (-point).toNat '0' ++ ds
  else if ds.length ≤ point.toNat then ds ++ List.replicate (point.toNat - ds.length) '0'
  else ds.take point.toNat ++ '.' :: ds.drop point.toNat

/-- An exponent of ten with its sign and at least two digits. -/
def exponentText (e : Int) : List Char :=
  let ds := ofNat e.natAbs
  (if e < 0 then '-' else '+') :: (if ds.length < 2 then '0' :: ds else ds)

/-- Digits with a point after the first one and an exponent of ten. -/
def scientific (ds : List Char) (e : Int) : List Char :=
  match ds with
  | [] => []
  | [d] => d :: 'e' :: exponentText e
  | d :: rest => d :: '.' :: rest ++ 'e' :: exponentText e

end Digits

namespace Exact

/-- The text of a double: positional from `0.0001` to below `10 ^ 16` with `.0` on whole numbers, otherwise with an
exponent. -/
def text : Exact → String
  | notANumber => "nan"
  | infinite negative => if negative then "-inf" else "inf"
  | finite negative m e =>
    let sign := if negative then ['-'] else []
    if m = 0 then String.ofList (sign ++ ['0', '.', '0'])
    else
      let (ds, p) := (Digits.shortest m e).stripZeros
      let point := p + ds.length
      if -4 < point ∧ point ≤ 16 then
        let body := Digits.positional ds point
        String.ofList (sign ++ body ++ if body.contains '.' then [] else ['.', '0'])
      else String.ofList (sign ++ Digits.scientific ds (point - 1))

end Exact

/-- The shortest text that reads back as the double. -/
def floatText (x : Float) : String := (Exact.ofFloat x).text

end ReportCard
