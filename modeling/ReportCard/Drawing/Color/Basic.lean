import ReportCard.Text.Blank
import ReportCard.Value.Display
import ReportCard.Value.Quantity

/-!
# Colors

A color by its red, green and blue parts and its opacity, and the other models that these parts are found from: whole
numbers of three bytes, hue with saturation and lightness, and the four inks of a press.  The parts are kept as they
were given; `Color.settle` reads them as doubles.
-/

namespace ReportCard

/-- The inks that a color is printed with, each as a share of full ink. -/
structure Inks where
  cyan : Quantity
  magenta : Quantity
  yellow : Quantity
  key : Quantity
  /-- How much of the inks is put on the paper. -/
  density : Quantity := .whole 1
  /-- The name of an ink of its own, in the form that shows it is a text. -/
  spotName : Option String := none
  /-- Whether inks below are left out, null if that is not said. -/
  knockout : Value := .null
  /-- Whether the inks are written in per cent. -/
  inPercent : Bool := false
  /-- Whether the color gets a plate of its own. -/
  isSeparation : Bool := false

/-- A color by its parts, each between zero and one, and by its inks if it was mixed from those. -/
structure Color where
  red : Quantity
  green : Quantity
  blue : Quantity
  alpha : Quantity := .whole 1
  inks : Option Inks := none

/-- Where an angle lies on the circle of hues: the light goes up, stays high, comes down, and stays low. -/
inductive HueArc (α : Type) where
  | rising (h : α)
  | high
  | falling (h : α)
  | low

namespace HueArc

variable {α : Type} [Scalar α]

/-- The arc of an angle, as a share of the circle. -/
def ofAngle (h : α) : HueArc α :=
  let one : α := Scalar.ofNat 1
  let h := if Scalar.lt h Scalar.zero then h + one else h
  let h := if Scalar.lt one h then h - one else h
  if Scalar.lt (h * Scalar.ofNat 6) one then rising h
  else if Scalar.lt (h * Scalar.ofNat 2) one then high
  else if Scalar.lt (h * Scalar.ofNat 3) (Scalar.ofNat 2) then falling h
  else low

/-- The light on an arc, between the lowest and the highest one. -/
def light (least most : α) : HueArc α → α
  | rising h => least + (most - least) * h * Scalar.ofNat 6
  | high => most
  | falling h => least + (most - least) * (Scalar.ofNat 4 - Scalar.ofNat 6 * h)
  | low => least

end HueArc

/-- Red, green and blue of a hue, as a share of the circle, with a saturation and a lightness. -/
def hueLights {α : Type} [Scalar α] (hue saturation lightness : α) : α × α × α :=
  let high :=
    if Scalar.le lightness (Scalar.ratio 1 2) then lightness * (saturation + Scalar.ofNat 1)
    else lightness + saturation - lightness * saturation
  let low := lightness * Scalar.ofNat 2 - high
  let light (h : α) : α := (HueArc.ofAngle h).light low high
  (light (hue + Scalar.ratio 1 3), light hue, light (hue - Scalar.ratio 1 3))

namespace Color

/-- A byte as a part of a color. -/
def byte (n : Int) : Quantity := .real (Float.ofNat (n % 256).toNat / 255.0)

/-- The color whose parts are the three last bytes of a number. -/
def ofInt (n : Int) : Color := { red := byte (n / 65536), green := byte (n / 256), blue := byte n }

/-- The color black. -/
def black : Color := ofInt 0

/-- The color white. -/
def white : Color := ofInt 0xFFFFFF

/-- The color of no paint at all. -/
def transparent : Color := ⟨.whole 0, .whole 0, .whole 0, .whole 0, none⟩

/-- What an ink and black leave of the light. -/
def uninked (ink key : Quantity) : Quantity :=
  let full := Quantity.real 1.0
  full - Scalar.least full (ink + key)

/-- A part of a color after thinning. -/
def thinned (density light : Quantity) : Quantity := density * (light - .whole 1) + .whole 1

/-- The density as a share of full ink. -/
def share (density : Quantity) : Quantity :=
  let atMost := if Scalar.lt (.whole 1) density then .whole 1 else density
  if Scalar.lt atMost (.whole 0) then .whole 0 else atMost

/-- The color of inks on each other, which have to be numbers. -/
def ofInks (inks : Inks) (alpha : Quantity) : Except Fault Color := do
  let density ← inks.density.checked
  let light (ink : Quantity) : Except Fault Quantity := do
    let light ← (uninked ink inks.key).checked
    return if Scalar.lt density (.whole 1) then thinned density light else light
  return { red := ← light inks.cyan, green := ← light inks.magenta, blue := ← light inks.yellow, alpha
           inks := some { inks with density := share density } }

/-- The color of inks that are given in per cent. -/
def ofPercents (inks : Inks) (alpha : Quantity) : Except Fault Color := do
  let part (q : Quantity) : Except Fault Quantity := (q / .real 100.0).checked
  ofInks { inks with
      cyan := ← part inks.cyan, magenta := ← part inks.magenta, yellow := ← part inks.yellow, key := ← part inks.key
      density := ← part inks.density, inPercent := true }
    (← part alpha)

/-- The color of a hue, as a share of the circle, with a saturation and a lightness. -/
def ofHue (hue saturation lightness : Float) (alpha : Quantity) : Color :=
  let (r, g, b) := hueLights hue saturation lightness
  { red := .real r, green := .real g, blue := .real b, alpha }

/-- A part of a color as a double. -/
def settlePart : Quantity → Except Fault Quantity
  | .other v => v.asFloat.map .real
  | .bytes s =>
    match Numeral.floatOfBytes? s with
    | some x => .ok (.real x)
    | none => .error (.notANumeral (Text.quotedBytes s))
  | q => q.toFloat.map .real

/-- The color with its parts as doubles, if each of them has one. -/
def settle (c : Color) : Except Fault Color := do
  return { red := ← settlePart c.red, green := ← settlePart c.green, blue := ← settlePart c.blue
           alpha := ← settlePart c.alpha }

/-! ### The text of a color -/

/-- How many places after the point a number of a size is shown with: six, and fewer for large numbers. -/
def places (size : Float) : Except Fault Nat := do
  if size ≤ 1.0 then return 6
  let tens ← truncate (size.log / (10.0 : Float).log)
  return min 6 (6 - tens).toNat

/-- A number of a color in few places, without the zeros that say nothing. -/
def partText (q : Quantity) : Except Fault String := do
  let x ← (← q.checked).toFloat
  if x.abs ≤ 1e-7 then return "0"
  let count ← places x.abs
  match Exact.ofFloat x with
  | .finite negative m e =>
    let scaled := Exact.roundNat (m * Exact.power 10 count) e
    let unit := Exact.power 10 count
    let whole := Digits.ofNat (scaled / unit)
    let tail := Digits.ofNat (scaled % unit)
    let fraction := ((List.replicate (count - tail.length) '0' ++ tail).reverse.dropWhile (· == '0')).reverse
    if count = 0 || fraction.isEmpty then return Decimal.signText negative ++ String.ofList whole
    else if negative then return "-" ++ String.ofList (whole ++ '.' :: fraction)
    else return String.ofList ((if whole == ['0'] then [] else whole) ++ '.' :: fraction)
  | _ => return ""

/-- The numbers of a color between commas. -/
def partTexts (qs : List Quantity) : Except Fault String := return Text.joinWith "," (← qs.mapM partText)

/-- The word for the kind of a color. -/
def className (c : Color) : String :=
  match c.inks with
  | none => "Color"
  | some i => (if i.inPercent then "PCMYKColor" else "CMYKColor") ++ (if i.isSeparation then "Sep" else "")

/-- What inks have besides their shares, each with its name in front. -/
def inkDetails (i : Inks) (alpha : Quantity) : Except Fault (List String) := do
  let percent (q : Quantity) : Quantity := if i.inPercent then q * .whole 100 else q
  let density ← if Scalar.eq i.density (.whole 1) then pure []
    else do pure ["density=" ++ (← partText (percent i.density))]
  let knockout ← match Quantity.ofValue i.knockout with
    | .other .null => pure []
    | .whole n => do pure ["knockout=" ++ (← (Value.int n).display)]
    | q => do pure ["knockout=" ++ toString (← truncate (← q.toFloat))]
  let opacity ← match alpha with
    | .other .null => pure []
    | .bytes s => pure ["alpha=" ++ Text.quotedBytes s]
    | q => do pure ["alpha=" ++ (← if i.inPercent then partText (percent q) else q.toValue.bind Value.display)]
  return (i.spotName.map fun s => ["spotName=" ++ s]).getD [] ++ density ++ knockout ++ opacity

/-- The text that shows a color. -/
def display (c : Color) : Except Fault String := do
  match c.inks with
  | none => return "Color(" ++ (← partTexts [c.red, c.green, c.blue, c.alpha]) ++ ")"
  | some i =>
    let percent (q : Quantity) : Quantity := if i.inPercent then q * .whole 100 else q
    let shares ← partTexts ([i.cyan, i.magenta, i.yellow, i.key].map percent)
    return c.className ++ "(" ++ Text.joinWith "," (shares :: (← inkDetails i c.alpha)) ++ ")"

end Color

end ReportCard
