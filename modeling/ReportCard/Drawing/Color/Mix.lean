import ReportCard.Drawing.Color.Name
import ReportCard.Drawing.Color.Paint

/-!
# Mixing colors

The distance of two colors, the colors on the way from one to another, and the ways of light and of ink to say the same
color.  Colors are mixed only with colors of their own kind.
-/

namespace ReportCard

namespace Quantity

/-- The first of some quantities that no other one is less than. -/
def least (q : Quantity) (qs : List Quantity) : Quantity := qs.foldl (fun m x => if Scalar.lt x m then x else m) q

/-- The first of some quantities that no other one is greater than. -/
def greatest (q : Quantity) (qs : List Quantity) : Quantity := qs.foldl (fun m x => if Scalar.lt m x then x else m) q

/-- The length of a vector. -/
def norm (qs : List Quantity) : Except Fault Float :=
  return (← (Scalar.sum (qs.map squared)).toFloat).sqrt

end Quantity

namespace Color

/-- The inks of a color that was mixed from inks. -/
def requireInks (c : Color) : Except Fault Inks := (c.inks.map .ok).getD (.error .missingAttribute)

/-- The distance of two colors as light. -/
def distance (c d : Color) : Except Fault Float :=
  Quantity.norm [c.red - d.red, c.green - d.green, c.blue - d.blue]

/-- The distance of two mixtures of inks. -/
def inkDistance (i j : Inks) : Except Fault Float :=
  Quantity.norm [i.cyan - j.cyan, i.magenta - j.magenta, i.yellow - j.yellow, i.key - j.key]

/-- A place between two ends: how far it is from the first one, and how far the second one is. -/
structure Place where
  done : Quantity
  whole : Quantity

/-- The quantity at a place on the way from one to another. -/
def Place.between (p : Place) (x y : Quantity) : Quantity := x + p.done * (y - x) / p.whole

/-- The share of a quantity that is reached at a place. -/
def Place.reached (p : Place) (x : Quantity) : Quantity := p.done * x / p.whole

/-- The share of a quantity that is left at a place. -/
def Place.left (p : Place) (x : Quantity) : Quantity := x * (.whole 1 - p.done / p.whole)

/-- Inks in the same unit as those they were mixed from. -/
def ofShares (i : Inks) (alpha : Quantity) : Except Fault Color :=
  if i.inPercent then
    let percent (q : Quantity) : Quantity := q * .whole 100
    ofPercents { i with
        cyan := percent i.cyan, magenta := percent i.magenta, yellow := percent i.yellow, key := percent i.key
        density := percent i.density }
      (percent alpha)
  else ofInks i alpha

/-- How near two mixtures of inks are to count as one. -/
def sameInk : Float := 1e-8

/-- The color at a place on the way between two mixtures of inks.  From or to the bare paper only the density changes;
what is left of inks on the way to the bare paper counts in per cent. -/
def mixInks (p : Place) (c d : Color) (i j : Inks) : Except Fault Color := do
  let plain (k : Inks) (density : Quantity) : Inks :=
    { k with density, knockout := .null, inPercent := i.inPercent, isSeparation := false }
  if (← inkDistance i j) < sameInk then
    if i.spotName != j.spotName then throw .invalidColor
    ofShares (plain i (p.between i.density j.density)) (p.between c.alpha d.alpha)
  else if (← inkDistance i bare) < sameInk then ofShares (plain j (p.reached j.density)) (p.reached d.alpha)
  else if (← inkDistance j bare) < sameInk then
    let rest := plain i (p.left i.density)
    if i.inPercent then ofShares rest (p.left c.alpha) else ofPercents rest (p.left c.alpha)
  else
    ofShares {
      cyan := p.between i.cyan j.cyan, magenta := p.between i.magenta j.magenta
      yellow := p.between i.yellow j.yellow, key := p.between i.key j.key
      density := p.between i.density j.density, inPercent := i.inPercent } (p.between c.alpha d.alpha)

/-- The color at a place on the way between two colors of one kind; colors with a plate of their own have no way
between them. -/
def mix (p : Place) (c d : Color) : Reading Color :=
  match c.inks, d.inks with
  | none, none => do
    let part (x y : Quantity) : Except Fault Quantity := (p.between x y).checked
    return { red := ← part c.red d.red, green := ← part c.green d.green, blue := ← part c.blue d.blue
             alpha := ← part c.alpha d.alpha }
  | some i, some j => if i.isSeparation then failure else mixInks p c d i j
  | _, _ => failure

/-- A color without a plate of its own. -/
def joined (c : Color) : Color := { c with inks := c.inks.map fun i => { i with isSeparation := false } }

/-- The color black in the kind of another color. -/
def blackFor (c : Color) : Except Fault Color :=
  match c.inks with
  | none => .ok black
  | some i => if i.inPercent then printedBlackPercent else printedBlack

/-- The color white in the kind of another color. -/
def whiteFor (c : Color) : Except Fault Color :=
  match c.inks with
  | none => .ok white
  | some i => if i.inPercent then unprintedPercent else unprinted

/-- Whether the three parts of a color are the same. -/
def isGray (c : Color) : Bool := Scalar.eq c.red c.blue && Scalar.eq c.blue c.green

/-- Whether inks are only black. -/
def isBlackInk (i : Inks) : Bool :=
  Scalar.eq i.cyan i.magenta && Scalar.eq i.magenta i.yellow && Scalar.eq i.yellow (.whole 0)

/-- The inks that make a color of light, the black that they share taken out. -/
def inksOf (red green blue : Quantity) : List Quantity :=
  let one := Quantity.whole 1
  let zero := Quantity.whole 0
  let inks := [red, green, blue].map (one - ·)
  let key := match inks with
    | q :: qs => Quantity.least q qs
    | [] => zero
  let share (q : Quantity) : Quantity := Quantity.least one [Quantity.greatest zero [q]]
  inks.map (fun q => share (q - key)) ++ [share key]

end Color

namespace Paint

/-- Turns down paints, which have to have a form nevertheless. -/
def refuse (ps : List Paint) : Reading Paint := do
  let _ ← literals ps
  failure

/-- The paint at a place on the way between two paints of one kind. -/
def interpolate (c d : Paint) (x0 x1 x : Quantity) : Reading Paint := do
  if c.kind != d.kind then return ← refuse [c, d]
  let x0 ← x0.checked
  let x1 ← x1.checked
  let x ← x.checked
  let (c, d, x0, x1) := if Scalar.lt x1 x0 then (d, c, x1, x0) else (c, d, x0, x1)
  let slack := Quantity.real 1e-8
  let low ← (x0 - slack).checked
  let high ← if Scalar.lt x low then pure low else (x1 + slack).checked
  if Scalar.lt x low || Scalar.lt high x then
    let _ ← ([x, x0, x1].mapM Quantity.toFloat : Except Fault (List Float))
    failure
  else if Scalar.le x x0 then return c
  else if Scalar.le x1 x then return d
  else
    let place : Color.Place := ⟨x - x0, .real (← (x1 - x0).toFloat)⟩
    match c, d with
    | .color c, .color d => return .color (← Color.mix place c d)
    | _, _ => failure

/-- The color that is some way from an end to a color. -/
def towards (target : Color → Except Fault Color) (p place : Paint) : Reading Paint := do
  match p with
  | color c => interpolate (.color (← target c.joined)) (.color c.joined) (.whole 0) (.whole 1) place.quantity
  | p => interpolate (.color .black) p (.whole 0) (.whole 1) place.quantity

end Paint

end ReportCard
