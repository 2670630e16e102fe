import ReportCard.Drawing.Color.Function
import ReportCard.Drawing.Color.Mix
import ReportCard.Text.Encoding

/-!
# Operations on colors

The functions that color terms apply: those that make colors from parts or inks, those that mix colors, and those that
measure or convert them.  Each has named parameters, of which some may be left out.
-/

namespace ReportCard.Color

/-- What arguments an operation takes. -/
inductive Signature where
  /-- One paint for each of some parameters, of which those with a paint may be left out. -/
  | parameters (ps : List (String × Option Paint))
  /-- Any number of paints without labels. -/
  | row
  /-- Any number of paints with labels. -/
  | labels

/-- A function of color terms: its arguments, and what it makes of them in the order of its parameters. -/
structure Operation where
  signature : Signature
  run : List Paint → Reading Paint

namespace Operation

/-- The paints for parameters in their order; paints that have no place, or parameters without a paint, are a fault. -/
def bind (parameters : List (String × Option Paint)) (placed : List Paint) (labelled : List (String × Paint)) :
    Except Fault (List Paint) := do
  let free := parameters.drop placed.length
  if parameters.length < placed.length || labelled.any (fun a => !(free.map (·.1)).contains a.1) then throw .wrongKind
  let back ← free.mapM fun p => (((labelled.lookup p.1).or p.2).map .ok).getD (.error .wrongKind)
  return placed ++ back

/-- Writes a paint with a label, in place if the label is there. -/
def putLabel (labelled : List (String × Paint)) (a : String × Paint) : List (String × Paint) :=
  if labelled.any (·.1 == a.1) then labelled.map fun b => if b.1 == a.1 then a else b else labelled ++ [a]

/-- Applies an operation to arguments; the last of several with one label counts. -/
def apply (operation : Operation) (placed : List Paint) (labelled : List (String × Paint)) : Reading Paint := do
  let labelled := labelled.foldl putLabel []
  match operation.signature with
  | .parameters parameters => operation.run (← bind parameters placed labelled)
  | .row => if labelled.isEmpty then operation.run placed else OptionT.mk (.error .wrongKind)
  | .labels =>
    if placed.isEmpty && !labelled.any (·.1 == Paint.spread) then operation.run (labelled.map (·.2))
    else OptionT.mk (.error .wrongKind)

/-- Parameters that have to be given. -/
def required (names : List String) : List (String × Option Paint) := names.map (·, none)

/-- Parameters that are zero if they are not given. -/
def zeros (names : List String) : List (String × Option Paint) := names.map (·, some (.plain (.int 0)))

/-- A parameter that has a whole number by default. -/
def wholeByDefault (name : String) (n : Int) : String × Option Paint := (name, some (.plain (.int n)))

/-- A parameter that is nothing by default. -/
def optional (name : String) : String × Option Paint := (name, some .nothing)

/-- A certain paint. -/
def answer (p : Except Fault Paint) : Reading Paint := OptionT.mk (p.map some)

/-- A certain color. -/
def answerColor (c : Except Fault Color) : Reading Paint := answer (c.map .color)

/-- Quantities in a row. -/
def answerRow (qs : List Quantity) : Reading Paint := answer do return .tuple (← qs.mapM Paint.ofQuantity)

/-- An operation of one paint. -/
def unary (f : Paint → Reading Paint) : List Paint → Reading Paint
  | [p] => f p
  | _ => failure

/-- An operation of two paints. -/
def binary (f : Paint → Paint → Reading Paint) : List Paint → Reading Paint
  | [p, q] => f p q
  | _ => failure

/-- An operation of three paints. -/
def ternary (f : Paint → Paint → Paint → Reading Paint) : List Paint → Reading Paint
  | [p, q, r] => f p q r
  | _ => failure

/-- An operation of three numbers. -/
def onNumbers (f : Quantity → Quantity → Quantity → Reading Paint) : List Paint → Reading Paint :=
  ternary fun p q r => do f (← p.number) (← q.number) (← r.number)

/-! ### Making colors -/

/-- The color with four parts. -/
def ofParts : List Paint → Reading Paint
  | [r, g, b, a] => return .color ⟨r.quantity, g.quantity, b.quantity, a.quantity, none⟩
  | _ => failure

/-- The form of the name of an ink, if there is one. -/
def spotName (p : Paint) : Option String := if p.isTruthy then p.literal.toOption else none

/-- A paint as a value; what is no value is only known to be there. -/
def valueOf : Paint → Value
  | .plain v => v
  | _ => .list []

/-- Inks from the paints for their shares and what else there is to say about them. -/
def inksOf (c m y k density spot knockout : Paint) (isSeparation : Bool) : Inks :=
  ⟨c.quantity, m.quantity, y.quantity, k.quantity, density.quantity, spotName spot, valueOf knockout, false,
    isSeparation⟩

/-- The parameters for the four inks. -/
def inkNames : List String := ["cyan", "magenta", "yellow", "black"]

/-- The color of inks. -/
def inked : List Paint → Reading Paint
  | [c, m, y, k, spot, density, knockout, alpha] =>
    answerColor (Color.ofInks (inksOf c m y k density spot knockout false) alpha.quantity)
  | _ => failure

/-- The color of inks in per cent. -/
def inkedPercent : List Paint → Reading Paint
  | [c, m, y, k, density, spot, knockout, alpha] =>
    answerColor (Color.ofPercents (inksOf c m y k density spot knockout false) alpha.quantity)
  | _ => failure

/-- The color of inks with a plate of its own. -/
def plated : List Paint → Reading Paint
  | [c, m, y, k, spot, density, alpha] =>
    answerColor (Color.ofInks (inksOf c m y k density spot .nothing true) alpha.quantity)
  | _ => failure

/-- The color of inks in per cent with a plate of its own. -/
def platedPercent : List Paint → Reading Paint
  | [c, m, y, k, spot, density, alpha] =>
    answerColor (Color.ofPercents (inksOf c m y k density spot .nothing true) alpha.quantity)
  | _ => failure

/-- The number that a text writes for a color: decimal, or in base sixteen after a mark.  Decimal numbers and some
marks may be ruled out. -/
def numeral? (markOnly : Bool) (s : String) : Option Int :=
  match s.toList with
  | '#' :: cs => Numeral.hexInt? (String.ofList cs)
  | cs =>
    if markOnly then none
    else match cs with
      | '0' :: 'x' :: cs | '0' :: 'X' :: cs => Numeral.hexInt? (String.ofList cs)
      | _ => (Numeral.int s).toOption

/-- The text that bytes are the form of. -/
def decoded (s : String) : Except Fault String :=
  ((Text.Encoding.utf8 false).decode? (s.toList.map Char.toNat)).elim (.error .wrongKind) .ok

/-- The number that a paint is or writes for a color. -/
def colorNumber (markOnly : Bool) : Paint → Reading Int
  | .plain (.int n) => return n
  | .plain (.bool b) => return if b then 1 else 0
  | .plain (.text s) => OptionT.mk (.ok (numeral? markOnly s))
  | .bytes s => do OptionT.mk (.ok (numeral? markOnly (← decoded s)))
  | _ => OptionT.mk (.error .wrongKind)

/-- The color of a number, of three bytes or of four with the opacity last. -/
def ofNumber : List Paint → Reading Paint
  | [p, markOnly, hasAlpha] => do
    let n ← colorNumber markOnly.isTruthy p
    return .color <| if hasAlpha.isTruthy then ⟨byte (n / 16777216), byte (n / 65536), byte (n / 256), byte n, none⟩
      else Color.ofInt n
  | _ => failure

/-! ### Reading colors -/

/-- Whether a paint is a text that begins like a color function. -/
def isBegun : Paint → Bool
  | .plain (.text s) => (ofFunction? s).isSome
  | .bytes s => ((decoded s).toOption.bind ofFunction?).isSome
  | _ => false

/-- The color of a paint, or another one if it is none; a text that begins like a color function is not replaced. -/
def colorOr (color : Paint → Reading Paint) (p default : Paint) : Reading Paint :=
  match default with
  | .plain .null => color p
  | default => if isBegun p then color p else color p <|> pure default

/-- The color of a text that is a color function, nothing for other texts. -/
def functionColor : Paint → Reading Paint
  | .plain (.text s) =>
    match ofFunction? s with
    | some c => OptionT.mk (.ok (c.map .color))
    | none => return .nothing
  | _ => OptionT.mk (.error .wrongKind)

/-- The text that bytes are in the encoding with a name; no bytes are no text in all of them. -/
def decodedAs (name s : String) : Reading Paint :=
  if name.toList.contains '\x00' then failure
  else if s.isEmpty then return .plain (.text "")
  else match Text.Encoding.ofName? name with
    | some encoding =>
      match encoding.decode? (s.toList.map Char.toNat) with
      | some t => return .plain (.text t)
      | none => OptionT.mk (.error .wrongKind)
    | none => OptionT.mk (.error .unknownEncoding)

/-- A text as it is, or the text of bytes. -/
def textOf (p encoding : Paint) : Reading Paint :=
  match p, encoding with
  | .plain (.text s), _ => return .plain (.text s)
  | .bytes s, .plain (.text name) => decodedAs name s
  | .bytes _, _ => OptionT.mk (.error .wrongKind)
  | _, _ => OptionT.mk (.error .missingAttribute)

/-- Whether a paint is a text, of characters or of bytes. -/
def isText : Paint → Bool
  | .plain (.text _) | .bytes _ => true
  | _ => false

/-- The color that an operation is to work on. -/
def given (color : Paint → Reading Paint) (p : Paint) : Reading Color := do
  match ← color p with
  | .color c => return c
  | _ => failure

/-- The color of a paint if it has one; a text that begins like a color function has to have one. -/
def colorIfAny (color : Paint → Reading Paint) (p : Paint) : Reading (Option Paint) :=
  if isBegun p then some <$> color p else OptionT.mk ((color p).run.map some)

/-- Whether a color can be set to a paint: it is one, or a row of such ones. -/
def isSettable (color : Paint → Reading Paint) : Paint → Reading Bool
  | .list ps | .tuple ps => do
    return (← ps.mapM (colorIfAny color)).all fun
      | none | some (.list []) => false
      | some _ => true
  | p => return (← colorIfAny color p).isSome

/-- Sets colors by labels.  That is only possible without any: the first one that is set spoils going through the
rest. -/
def setAll (color : Paint → Reading Paint) (ps : List Paint) : Reading Paint := do
  if ps.isEmpty then return .nothing
  else if ← ps.anyM (isSettable color) then OptionT.mk (.error .changedMeanwhile)
  else Paint.refuse ps

/-! ### Colors of one kind only -/

/-- A gray as black ink that is thinned. -/
def thinnedBlack (c : Color) : Except Fault Color := do
  Color.ofInks { bare with key := .whole 1, density := ← (Quantity.whole 1 - c.red).checked } (.whole 1)

/-- Whether a color has a plate of its own. -/
def hasPlate (c : Color) : Bool := (c.inks.map Inks.isSeparation).getD false

/-- Turns down a paint as it was given unless its color has a plate of its own. -/
def onlyPlates (given : Paint) : Paint → Reading Paint
  | .color c => if hasPlate c then return .color c else Paint.refuse [given]
  | _ => Paint.refuse [given]

/-- A color with a plate of its own, a gray, or inks of some sort; turns down a paint with another color. -/
def onlyPlatesOr (admitted : Inks → Bool) (given : Paint) : Paint → Reading Paint
  | .color c =>
    if hasPlate c then return .color c
    else if c.isGray then answerColor (thinnedBlack c)
    else if (c.inks.map admitted).getD false then return .color c
    else Paint.refuse [given]
  | _ => Paint.refuse [given]

/-- A color of inks, or a gray; turns down a paint with another color. -/
def onlyInks (given : Paint) : Paint → Reading Paint
  | .color c =>
    match c.inks with
    | some i => return .color (if i.isSeparation then { c with inks := some { i with
        isSeparation := false, inPercent := false } } else c)
    | none =>
      if c.isGray then answerColor do
        Color.ofInks { bare with key := ← (Quantity.whole 1 - c.red).checked } c.alpha
      else Paint.refuse [given]
  | _ => OptionT.mk (.error .missingAttribute)

/-- A color of light, or black ink; turns down a paint with inks of color.  What is no color passes. -/
def onlyLight (given : Paint) : Paint → Reading Paint
  | .color c =>
    match c.inks with
    | none => return .color c
    | some i =>
      if isBlackInk i then
        let light := Quantity.whole 1 - i.key * i.density
        return .color ⟨light, light, light, c.alpha, none⟩
      else Paint.refuse [given]
  | p => return p

/-- The operations that let only colors of one kind pass, by the words for the kinds. -/
def spaces : List (String × String) :=
  [("CMYK", "_enforceCMYK"), ("RGB", "_enforceRGB"), ("SEP", "_enforceSEP"), ("SEP_BLACK", "_enforceSEP_BLACK"),
    ("SEP_CMYK", "_enforceSEP_CMYK")]

/-- Turns down a paint in a message with one gap, which a tuple only fills with its items. -/
def refuseInGap : Paint → Reading Paint
  | .tuple ps => do
    let _ ← Paint.literals (ps.take 1)
    if ps.length = 1 then failure else OptionT.mk (.error .wrongKind)
  | p => Paint.refuse [p]

/-- The operation that lets only colors of a kind pass. -/
def spaceFor : Paint → Reading Paint
  | .plain .null => return .nothing
  | .operation name => return .operation name
  | .plain (.text s) => OptionT.mk (.ok ((spaces.lookup (Text.upper s)).map .operation))
  | p => refuseInGap p

/-! ### Measuring and converting -/

/-- Red, green and blue of a color or of a row. -/
def lightsOf (color : Paint → Reading Paint) (p : Paint) : Reading Paint := do
  match p with
  | .color c => answerRow [c.red, c.green, c.blue]
  | .list ps | .tuple ps =>
    if ps.length = 3 then return .tuple ps
    else if ps.length = 4 then
      let c ← given color (.tuple ps)
      answerRow [c.red, c.green, c.blue]
    else refuseInGap p
  | _ => return .nothing

/-- The paint at an angle of the circle of hues; at some angles it is one of those at the ends, whatever that is. -/
def hueAt (low high angle : Paint) : Reading Paint := do
  match HueArc.ofAngle (← angle.number) with
  | .high => return high
  | .low => return low
  | arc => answer (Paint.ofQuantity (arc.light low.quantity high.quantity))

/-- A color at several densities, in per cent. -/
def faded (c shares : Paint) : Reading Paint := answer do
  let colors ← (← shares.items).mapM fun p => do
    let share ← (p.quantity * .real 0.01).checked
    let i ← (← c.asColor).requireInks
    Color.ofInks { i with
      cyan := share * i.cyan, magenta := share * i.magenta, yellow := share * i.yellow, key := share * i.key
      density := share * i.density, knockout := .null, inPercent := false, isSeparation := false } (.whole 1)
  return .list (colors.map .color)

/-- A color without its hue. -/
def grayed (p : Paint) : Reading Paint := answerColor do
  let c ← p.asColor
  let light ← ((c.red + c.green + c.blue) / .real 3.0).checked
  return ⟨light, light, light, c.alpha, none⟩

/-- Whether a paint is a color that covers what is below. -/
def isOpaque : Paint → Except Fault Bool
  | .color c => do return Scalar.le (.whole 1) (← c.alpha.checked)
  | _ => .ok false

/-- The light of four inks. -/
def lightOfInks (p : Paint) : Reading Paint := do
  match ← p.items with
  | [c, m, y, k] => answerRow ([c, m, y].map fun ink => uninked ink.quantity k.quantity)
  | _ => failure

/-- Numbers as colors show them, between spaces. -/
def shownNumbers (ps : List Paint) : Reading Paint := answer do
  let ps ← match ps with
    | [.list ps] | [.tuple ps] => pure ps
    | ps => pure ps
  return .plain (.text (Text.joinWith " " (← ps.mapM fun p => partText p.quantity)))

/-- The distance of two colors by some measure. -/
def distanceBy (measure : Color → Color → Except Fault Float) (p q : Paint) : Reading Paint := answer do
  return .plain (.float (← measure (← p.asColor) (← q.asColor)))

/-- The named color that is nearest to a color, and its distance, if that is below ten. -/
def nearest (c : Color) : Except Fault (Option (String × Float)) :=
  named.foldlM (fun best e => do
    let distance ← c.distance e.2
    return if distance < (best.map (·.2)).getD 10.0 then some (e.1, distance) else best) none

/-- A distance with four places after the point. -/
def distanceText (x : Float) : String :=
  match Exact.ofFloat x with
  | .finite _ m e =>
    let n := Exact.roundNat (m * 10000) e
    toString (n / 10000) ++ "." ++ padded 4 (n % 10000)
  | _ => ""

/-- The words for the nearest named color. -/
def nearestText (best : Option (String × Float)) : String :=
  "best match is " ++ (best.map (·.1)).getD "None" ++ ", distance " ++ distanceText ((best.map (·.2)).getD 10.0)

/-- The nearest named color in one of three ways: said aloud for zero, in words for any other number up to one, as a
pair for two.  A color in place of the number counts as one that is small and not zero. -/
def described (p way : Paint) : Reading Paint := do
  let best ← OptionT.lift (nearest (← p.asColor))
  let words : Paint := .plain (.text (nearestText best))
  if way.isColor then return words
  let mode ← way.number
  if Scalar.le mode (.whole 1) then
    return if Scalar.eq mode (.whole 0) then .nothing else words
  else if Scalar.eq mode (.whole 2) then
    return match best with
      | some (name, distance) => .tuple [.plain (.text name), .plain (.float distance)]
      | none => .tuple [.nothing, .plain (.int 10)]
  else failure

/-- An operation with these parameters. -/
def taking (parameters : List (String × Option Paint)) (run : List Paint → Reading Paint) : Operation :=
  ⟨.parameters parameters, run⟩

/-- The operations that make colors of parts, inks and numbers. -/
def makers : List (String × Operation) :=
  let alpha := wholeByDefault "alpha"
  let density := wholeByDefault "density"
  let no : Option Paint := some (.plain (.bool false))
  let plain := taking (zeros ["red", "green", "blue"] ++ [alpha 1]) ofParts
  [("Color", plain), ("ColorType", plain),
    ("CMYKColor", taking (zeros inkNames ++ [optional "spotName", density 1, optional "knockout", alpha 1]) inked),
    ("PCMYKColor", taking (required inkNames ++ [density 100, optional "spotName", optional "knockout", alpha 100])
      inkedPercent),
    ("CMYKColorSep", taking (zeros inkNames ++ [optional "spotName", density 1, alpha 1]) plated),
    ("PCMYKColorSep", taking (zeros inkNames ++ [optional "spotName", density 100, alpha 100]) platedPercent),
    ("HexColor", taking (required ["val"] ++ [("htmlOnly", no), ("hasAlpha", no)]) ofNumber)]

/-- The operations that read colors, given what color a paint is. -/
def readers (color : Paint → Reading Paint) : List (String × Operation) :=
  [("toColor", taking (required ["arg"] ++ [optional "default"]) (binary (colorOr color))),
    ("toColorOrNone", taking (required ["arg"] ++ [optional "default"]) (binary fun p default =>
      match p with
      | .plain .null => return .nothing
      | p => colorOr color p default)),
    ("cssParse", taking (required ["s"]) (unary functionColor)),
    ("asNative", taking (required ["v"] ++ [("enc", some (.plain (.text "utf8")))]) (binary textOf)),
    ("isStr", taking (required ["v"]) (unary fun p => return .plain (.bool (isText p)))),
    ("setColors", ⟨.labels, setAll color⟩),
    ("getAllNamedColors", taking [] fun _ =>
      return .mapping (named.map fun e => (.plain (.text e.1), .color e.2)))]

/-- The operations that mix colors or let only some pass, given what color a paint is. -/
def mixers (color : Paint → Reading Paint) : List (String × Operation) :=
  let way (target : Color → Except Fault Color) : Operation :=
    taking (required ["c", "f"]) (binary fun c f => do Paint.towards target (← color c) f)
  let only (f : Paint → Paint → Reading Paint) : Operation :=
    taking (required ["c"]) (unary fun p => do f p (← color p))
  [("Blacker", way blackFor),
    ("Whiter", way whiteFor),
    ("linearlyInterpolatedColor", taking (required ["c0", "c1", "x0", "x1", "x"]) fun
      | [c, d, x0, x1, x] => Paint.interpolate c d x0.quantity x1.quantity x.quantity
      | _ => failure),
    ("fade", taking (required ["aSpotColor", "percentages"]) (binary faded)),
    ("color2bw", taking (required ["colorRGB"]) (unary grayed)),
    ("_chooseEnforceColorSpace", taking (required ["enforceColorSpace"]) (unary spaceFor)),
    ("_enforceError", taking (required ["kind", "c", "tc"]) fun ps => Paint.refuse (ps.take 2)),
    ("_enforceSEP", only onlyPlates),
    ("_enforceSEP_BLACK", only (onlyPlatesOr isBlackInk)),
    ("_enforceSEP_CMYK", only (onlyPlatesOr fun _ => true)),
    ("_enforceCMYK", only onlyInks),
    ("_enforceRGB", only onlyLight)]

/-- The operations that measure colors and convert numbers, given what color a paint is. -/
def measures (color : Paint → Reading Paint) : List (String × Operation) :=
  [("obj_R_G_B", taking (required ["c"]) (unary (lightsOf color))),
    ("opaqueColor", taking (required ["c"]) (unary fun p => answer do return .plain (.bool (← isOpaque p)))),
    ("colorDistance", taking (required ["col1", "col2"]) (binary (distanceBy Color.distance))),
    ("cmykDistance", taking (required ["col1", "col2"]) (binary (distanceBy fun c d => do
      inkDistance (← c.requireInks) (← d.requireInks)))),
    ("rgb2cmyk", taking (required ["r", "g", "b"]) (onNumbers fun r g b => answerRow (Color.inksOf r g b))),
    ("cmyk2rgb", taking (required ["cmyk"] ++ [wholeByDefault "density" 1]) (binary fun p _ => lightOfInks p)),
    ("hsl2rgb", taking (required ["h", "s", "l"]) (onNumbers fun h s l =>
      let (r, g, b) := hueLights h s l
      answerRow [r, g, b])),
    ("hue2rgb", taking (required ["m1", "m2", "h"]) (ternary hueAt)),
    ("describe", taking (required ["aColor"] ++ [wholeByDefault "mode" 0]) (binary described)),
    ("fp_str", ⟨.row, shownNumbers⟩)]

/-- The operations by their names, given what color a paint is. -/
def byName (color : Paint → Reading Paint) : List (String × Operation) :=
  makers ++ readers color ++ mixers color ++ measures color

end Operation

end ReportCard.Color
