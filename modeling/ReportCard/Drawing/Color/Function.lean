import ReportCard.Drawing.Color.Basic
import ReportCard.Number.Numeral

/-!
# Color functions

Colors written as the name of a model with its parts in brackets, such as `rgb(1, 2, 3)`.  The opacity is a last part
if the name ends in an `a`, or stands after a slash.  A text of this form either is a color or is none at all.
-/

namespace ReportCard.Color

/-- The models that a color function takes its parts from. -/
inductive Model where
  | rgb
  | hsl
  | cmyk
  /-- Inks in per cent. -/
  | pcmyk
deriving Repr, DecidableEq

namespace Model

/-- The models by their names. -/
def byName : List (String × Model) := [("rgb", rgb), ("hsl", hsl), ("cmyk", cmyk), ("pcmyk", pcmyk)]

/-- How many parts a color has in a model, not counting the opacity. -/
def size : Model → Nat
  | rgb | hsl => 3
  | cmyk | pcmyk => 4

/-- Full opacity and full density in a model. -/
def full : Model → Quantity
  | rgb | hsl | cmyk => .whole 1
  | pcmyk => .whole 100

/-- The greatest opacity in a model. -/
def limit : Model → Float
  | rgb | hsl | cmyk => 1.0
  | pcmyk => 100.0

end Model

/-- A color function by its pieces: the arguments, and what stands after a slash. -/
structure Application where
  model : Model
  hasAlpha : Bool
  arguments : List Char
  opacity : Option (List Char)
deriving Repr

namespace Application

/-- The model that a text begins with, and the rest of the text. -/
def model? (cs : List Char) : Option (Model × List Char) :=
  Model.byName.findSome? fun entry => (entry.1.toList.isPrefixOf? cs).map (entry.2, ·)

/-- Whether the text after a slash has the form of an opacity: at most three digits, then perhaps a point with digits,
then perhaps a sign of per cent. -/
def isOpacity (cs : List Char) : Bool :=
  let isPlace c := (Text.digit? c).isSome
  let rest := match cs.dropWhile isPlace with
    | '.' :: r => r.dropWhile isPlace
    | r => r
  (cs.takeWhile isPlace).length ≤ 3 && (rest.isEmpty || rest == ['%'])

/-- The pieces of what stands between the brackets.  Blanks may stand before an opacity, and no text after a slash
counts as no slash. -/
def ofInner? (model : Model) (hasAlpha : Bool) (cs : List Char) : Option Application :=
  match Text.splitBy (· == '/') cs with
  | [front] => some ⟨model, hasAlpha, front, none⟩
  | [front, back] =>
    let opacity := back.dropWhile Text.isBlank
    if isOpacity opacity then some ⟨model, hasAlpha, front, if opacity.isEmpty then none else some opacity⟩
    else none
  | _ => none

/-- The pieces of what stands behind the name of a function, if it is put between brackets. -/
def ofRest? (model : Model) (hasAlpha : Bool) (cs : List Char) : Option Application :=
  match cs, cs.reverse with
  | '(' :: _, ')' :: _ =>
    let inner := cs.tail.dropLast
    if cs.length < 2 || inner.contains ')' then none else ofInner? model hasAlpha inner
  | _, _ => none

/-- What stands behind the name of a function that a text begins with, up to the end of the line; only blanks may
follow. -/
def start? (s : String) : Option (Model × Bool × List Char) := do
  let (model, cs) ← model? (s.toList.dropWhile Text.isBlank)
  let (hasAlpha, cs) := match cs with
    | 'a' :: rest => (true, rest)
    | rest => (false, rest)
  let line := cs.dropWhile Text.isBlank
  if (line.dropWhile (· != '\n')).all Text.isBlank then some (model, hasAlpha, line.takeWhile (· != '\n')) else none

/-- The single arguments, between commas if there are any, else between blanks. -/
def split (cs : List Char) : List String :=
  if cs.contains ',' then (Text.splitBy (· == ',') cs).map String.ofList else Text.words (String.ofList cs)

/-- The number that a text stands for unless it is below zero or above `limit`. -/
def bounded? (limit : Float) (s : String) : Option Float :=
  (Numeral.float? s).filter fun x => !(x < 0.0 || limit < x)

/-- Whether a text has a sign of per cent. -/
def hasPercent (s : String) : Bool := s.toList.contains '%'

/-- The share that a text with signs of per cent, or without, stands for. -/
def share? (s : String) : Option Float :=
  let body := ((Text.trim s).toList.reverse.dropWhile (· == '%')).reverse
  (bounded? 100.0 (String.ofList body)).map (· / 100.0)

/-- The number that a text stands for, with whatever blanks around it. -/
def trimmed? (limit : Float) (s : String) : Option Float := bounded? limit (Text.trim s)

/-- An opacity: a share if it is marked as one, else a number up to `limit`. -/
def opacity? (limit : Float) (s : String) : Option Float :=
  if hasPercent s then share? s else bounded? limit s

/-- The integer part of a double that is not negative, as a share of a byte. -/
def byteShare? (x : Float) : Option Float :=
  match Exact.ofFloat x with
  | .finite _ m e => some (Float.ofNat (Exact.floorNat m e) / 255.0)
  | _ => none

/-- The parts of red, green and blue: shares if one of them is marked so, else parts if one has a point, else bytes. -/
def lights? (args : List String) : Option (List Float) :=
  if args.any hasPercent then args.mapM fun a => (share? a).bind fun p => byteShare? (p * 255.0 + 0.5)
  else if args.any (·.toList.contains '.') then args.mapM (trimmed? 1.0)
  else args.mapM fun a => (trimmed? 255.0 a).bind byteShare?

/-- The share of the circle of hues that an angle in degrees stands for. -/
def hue? (s : String) : Option Float :=
  (Numeral.float? (Text.trim s)).map fun x => Exact.remainder (Exact.remainder x 360 + 360.0) 360 / 360.0

/-- The color of the arguments without the opacity. -/
def color? (model : Model) (args : List String) (alpha : Quantity) : Option Color := do
  let inks (limit : Float) (args : List String) : Option Inks := do
    match ← args.mapM (trimmed? limit) with
    | [c, m, y, k] => return ⟨.real c, .real m, .real y, .real k, model.full, none, .null, false, false⟩
    | _ => none
  match model, args with
  | .rgb, args =>
    match ← lights? args with
    | [r, g, b] => return ⟨.real r, .real g, .real b, alpha, none⟩
    | _ => none
  | .hsl, [h, s, l] => return ofHue (← hue? h) (← share? s) (← share? l) alpha
  | .cmyk, args => (ofInks (← inks 1.0 args) alpha).toOption
  | .pcmyk, args => (ofPercents (← inks 100.0 args) alpha).toOption
  | _, _ => none

/-- The color of a function.  An opacity is given once: as the last argument or after a slash. -/
def eval? (a : Application) : Option Color := do
  let args := split a.arguments
  let n := a.model.size
  let opacity ←
    if a.hasAlpha then if a.opacity.isNone && args.length = n + 1 then some args[n]? else none
    else if args.length = n then some (a.opacity.map String.ofList) else none
  let alpha ← match opacity with
    | some text => (opacity? a.model.limit text).map .real
    | none => some a.model.full
  color? a.model (args.take n) alpha

end Application

/-- The color of a text that begins like a color function: none inside if it is one of no color. -/
def ofFunction? (s : String) : Option (Option Color) :=
  (Application.start? s).map fun (model, hasAlpha, rest) =>
    (Application.ofRest? model hasAlpha rest).bind Application.eval?

end ReportCard.Color
