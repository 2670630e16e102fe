import ReportCard.Drawing.Basic
import ReportCard.Drawing.Color.Written
import ReportCard.Drawing.Metrics
import ReportCard.Value.Path

/-!
# The page canvas

Drawings as calls on the canvas of a page, whose lengths are measured from the lower left corner and which keeps a
current color, line style and font.
-/

namespace ReportCard

/-- Where a line of text stands relative to its position. -/
inductive Anchor where
  | left
  | center
  | right
deriving Repr, DecidableEq

/-- A call on the canvas of a page. -/
inductive Call (α : Type) where
  | saveState
  | restoreState
  | setFillColor (paint : Paint)
  | setStrokeColor (paint : Paint)
  | setLineWidth (width : α)
  | setDash (pattern : List α)
  | rect (box : Box α) (stroke fill : Bool)
  | line (x1 y1 x2 y2 : α)
  | setFont (name : String) (size : α)
  | drawString (anchor : Anchor) (x y : α) (text : Value)
  | beginPath
  | pathRect (box : Box α)
  | clipPath
  | drawImage (width height : Nat) (box : Box α)
  | setFillAlpha (alpha : α)
  | translate (x y : α)
  | rotate (degrees : α)
  | showPage
  | save

namespace Call

/-- A box with its lengths in another type, if each of them can be in it. -/
def boxM {α β : Type} (f : α → Except Fault β) (b : Box α) : Except Fault (Box β) :=
  return ⟨← f b.x, ← f b.y, ← f b.width, ← f b.height⟩

/-- The call with its lengths in another type and its paint as a canvas takes it, if that is possible. -/
def mapM {α β : Type} (f : α → Except Fault β) : Call α → Except Fault (Call β)
  | saveState => return .saveState
  | restoreState => return .restoreState
  | setFillColor paint => return .setFillColor (← paint.inked)
  | setStrokeColor paint => return .setStrokeColor (← paint.inked)
  | setLineWidth width => return .setLineWidth (← f width)
  | setDash pattern => return .setDash (← pattern.mapM f)
  | rect box stroke fill => return .rect (← boxM f box) stroke fill
  | line x1 y1 x2 y2 => return .line (← f x1) (← f y1) (← f x2) (← f y2)
  | setFont name size => return .setFont name (← f size)
  | drawString anchor x y text => return .drawString anchor (← f x) (← f y) (← text.inked)
  | beginPath => return .beginPath
  | pathRect box => return .pathRect (← boxM f box)
  | clipPath => return .clipPath
  | drawImage width height box => return .drawImage width height (← boxM f box)
  | setFillAlpha alpha => return .setFillAlpha (← f alpha)
  | translate x y => return .translate (← f x) (← f y)
  | rotate degrees => return .rotate (← f degrees)
  | showPage => return .showPage
  | save => return .save

end Call

namespace Canvas

variable {α : Type} [Scalar α]

/-- The box seen from the lower left corner of a page of the given height. -/
def flip (pageHeight : α) (b : Box α) : Box α := ⟨b.x, pageHeight - (b.y + b.height), b.width, b.height⟩

/-- A call that takes the paint that is written, black if none is. -/
def withColor (written : Value) (call : Paint → Call α) : Script (Call α) :=
  .tryIt (Color.resolve written (.color .black)) fun (notes, paint) => .all (notes.map .note ++ [.act (call paint)])

/-- The face that a lettering names. -/
def faceOf (l : Lettering α) : Except Fault Face := do
  let known := (l.fontName.text?).bind Face.ofName?
  if l.fontName.isSearchable then (known.map .ok).getD (.error .missingKey) else throw .wrongKind

/-- A text that is drawn, which has to be one. -/
def textOf (text : Value) : Except Fault String := (text.text?.map .ok).getD (.error .missingAttribute)

/-- Half of a length. -/
def half (x : α) : α := x / Scalar.ofNat 2

/-- The anchor and the position of lines that are aligned in a box. -/
def anchored (align : Value) (x width : α) : Anchor × α :=
  match align.text? with
  | some "center" => (.center, x + half width)
  | some "right" => (.right, x + width)
  | _ => (.left, x)

/-- Calls for lines of text below each other, the first of them on a baseline. -/
def textLines (pageHeight step : α) (anchor : Anchor) (x baseline : α) : List String → List (Script (Call α))
  | [] => []
  | s :: rest =>
    .act (.drawString anchor x (pageHeight - baseline) (.text s)) ::
      textLines pageHeight step anchor x (baseline + step) rest

/-- What the calls for a text in lines have to know before the first of them: the face, the lines, and how far text
reaches above its baseline. -/
def textLayout (text : Value) (width : α) (l : Lettering α) : Except Fault (Face × List String × α) := do
  let width ← Scalar.checked width
  let text ← textOf text
  let face ← faceOf l
  let lines ←
    if Scalar.isPos width then do
      let _ ← Scalar.checked (face.width l.fontSize " ")
      pure (face.wrap l.fontSize width text)
    else pure ((Text.splitBy (· == '\n') text.toList).map String.ofList)
  return (face, lines, ← Scalar.checked (Face.ascent l.fontSize))

/-- The calls for a text in lines: broken at a width if that is positive, else only where the text says so. -/
def textBox (pageHeight : α) (text : Value) (x y width : α) (l : Lettering α) (align : Value) : Script (Call α) :=
  .tryIt (textLayout text width l) fun (face, lines, ascent) =>
    let (anchor, start) := anchored align x width
    let step := l.fontSize * Scalar.ratio 12 10
    .seq (withColor l.color .setFillColor) <| .seq (.act (.setFont face.name l.fontSize)) <|
      .tryIt (Scalar.checked (y + ascent)) fun baseline =>
        .all (textLines pageHeight step anchor start baseline lines ++ [.tryIt (Scalar.checked step) fun _ => .done])

/-- A script for a box, unless the box has no extent. -/
def withExtent (b : Box α) (p : Script (Call α)) : Script (Call α) :=
  .tryIt (Scalar.checked b.width) fun width => .when (!Scalar.isNonpos width) <|
    .tryIt (Scalar.checked b.height) fun height => .when (!Scalar.isNonpos height) p

/-- The face and the baseline of a line of text in the middle of a box. -/
def cellLayout (b : Box α) (l : Lettering α) : Except Fault (Face × α) := do
  let face ← faceOf l
  let middle := half (Face.ascent l.fontSize - Face.descent l.fontSize)
  return (face, ← Scalar.checked (b.y + half b.height + middle))

/-- The calls for a line of text in the middle of a box; a box without extent shows nothing. -/
def textCell (pageHeight : α) (text : Value) (b : Box α) (l : Lettering α) : Script (Call α) :=
  withExtent b <| .tryIt (cellLayout b l) fun (face, baseline) =>
    .all [.act .saveState, .act .beginPath, .act (.pathRect (flip pageHeight b)), .act .clipPath,
      withColor l.color .setFillColor, .act (.setFont face.name l.fontSize),
      .tryIt (textOf text) fun text => .act <|
        .drawString .center (b.x + half b.width) (pageHeight - baseline) (.text (Text.joinWith " " (Text.lines text))),
      .act .restoreState]

/-- The calls for an image in a box: as large as both sides allow, at the upper left corner. -/
def image (pageHeight : α) (data : ImageData) (b : Box α) : Script (Call α) :=
  withExtent b <| match data with
    | .other _ => .fail .undecodableImage
    | .picture w h =>
      if w = 0 || h = 0 then .fail .pixellessImage
      else
        let fit := Scalar.least (b.width / Scalar.ofNat w) (b.height / Scalar.ofNat h)
        let width := Scalar.ofNat w * fit
        let height := Scalar.ofNat h * fit
        .act (.drawImage w h (flip pageHeight ⟨b.x, b.y, width, height⟩))

/-- The calls that make a drawing on a page of the given height. -/
def calls (pageHeight : α) : Drawing α → Script (Call α)
  | .saveState => .act .saveState
  | .restoreState => .act .restoreState
  | .fillRect b color => .seq (withColor color .setFillColor) (.act (.rect (flip pageHeight b) false true))
  | .strokeRect b color lineWidth dash =>
    .seq (withColor color .setStrokeColor) <| .all [.act (.setLineWidth lineWidth), .act (.setDash (dash.getD [])),
      .act (.rect (flip pageHeight b) true false)]
  | .line x1 y1 x2 y2 color lineWidth =>
    .seq (withColor color .setStrokeColor) <| .all [.act (.setLineWidth lineWidth), .act (.setDash []),
      .act (.line x1 (pageHeight - y1) x2 (pageHeight - y2))]
  | .textBox text x y width l align => textBox pageHeight text x y width l align
  | .textCell text b l => textCell pageHeight text b l
  | .image data b => image pageHeight data b

/-- The surface of a page, given what each call does to its canvas. -/
def surface {σ : Type} (size : Size α) (perform : Call α → σ → Outcome σ) : Surface α σ where
  size
  perform d s := (calls size.height d).run perform s

/-- A canvas that keeps the calls as data, with their lengths as `settle` makes them.  A call without such lengths is
a fault, and is not kept. -/
def record {β : Type} (settle : α → Except Fault β) (call : Call α) (journal : Array (Call β)) :
    Outcome (Array (Call β)) :=
  match call.mapM settle with
  | .ok call => .ok (journal.push call)
  | .error fault => .stop journal fault

/-- The calls for a pale text across a page. -/
def watermark (size : Size α) (text : Value) : Script (Call α) :=
  .acts [.saveState, .setFont "Helvetica-Bold" (Scalar.ofNat 40), .setFillColor (.color (.ofInt 0xD3D3D3)),
    .setFillAlpha (Scalar.ratio 15 100), .translate (half size.width) (half size.height),
    .rotate (Scalar.ofNat 45), .drawString .center Scalar.zero Scalar.zero text, .restoreState]

end Canvas

end ReportCard
