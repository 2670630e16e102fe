import ReportCard.Drawing.Script
import ReportCard.Element.Template
import ReportCard.Image.Data
import ReportCard.Number.Scalar

/-!
# Drawings and surfaces

The drawings that an element is painted with, and surfaces, which give them a meaning.  Lengths are measured in points
from the upper left corner.
-/

namespace ReportCard

/-- How a text looks. -/
structure Lettering (α : Type) where
  fontName : Value := .text "Helvetica"
  fontSize : α
  color : Value := .null

/-- The lettering with its lengths in another type. -/
def Lettering.map {α β : Type} (f : α → β) (l : Lettering α) : Lettering β := { l with fontSize := f l.fontSize }

/-- A drawing operation.  Its text, font, alignment and color are what was asked for, mostly texts; the color null is
black. -/
inductive Drawing (α : Type) where
  | saveState
  | restoreState
  | fillRect (box : Box α) (color : Value)
  | strokeRect (box : Box α) (color : Value) (lineWidth : α) (dash : Option (List α))
  | line (x1 y1 x2 y2 : α) (color : Value) (lineWidth : α)
  /-- Text in lines of a width, the first of them at the top. -/
  | textBox (text : Value) (x y width : α) (lettering : Lettering α) (align : Value)
  /-- One line of text in the middle of a box, and clipped to it. -/
  | textCell (text : Value) (box : Box α) (lettering : Lettering α)
  /-- An image as large as fits into a box. -/
  | image (data : ImageData) (box : Box α)

namespace Drawing

variable {α β : Type}

/-- The drawing with its lengths in another type. -/
def map (f : α → β) : Drawing α → Drawing β
  | saveState => saveState
  | restoreState => restoreState
  | fillRect b color => fillRect (b.map f) color
  | strokeRect b color lineWidth dash => strokeRect (b.map f) color (f lineWidth) (dash.map (·.map f))
  | line x1 y1 x2 y2 color lineWidth => line (f x1) (f y1) (f x2) (f y2) color (f lineWidth)
  | textBox text x y width l align => textBox text (f x) (f y) (f width) (l.map f) align
  | textCell text b l => textCell text (b.map f) (l.map f)
  | image data b => image data (b.map f)

/-- The name of the operation. -/
def operation : Drawing α → String
  | saveState => "save_state"
  | restoreState => "restore_state"
  | fillRect .. => "fill_rect"
  | strokeRect .. => "stroke_rect"
  | line .. => "line"
  | textBox .. => "text_box"
  | textCell .. => "text_cell"
  | image .. => "image"

/-- The text that is drawn. -/
def text? : Drawing α → Option Value
  | textBox text .. => some text
  | textCell text .. => some text
  | _ => none

/-- A script between saving the graphics state and restoring it; it is restored after a failure too. -/
def isolated (body : Script (Drawing α)) : Script (Drawing α) :=
  .seq (.act saveState) (.ensure body (.act restoreState))

end Drawing

/-- A surface with states in `σ`: its size, and what each drawing does to it. -/
structure Surface (α σ : Type) where
  size : Size α
  perform : Drawing α → σ → Outcome σ

namespace Surface

variable {α β σ : Type}

/-- The surface for lengths in another type: `into` turns those of drawings into its own, `back` its size. -/
def via (into : β → α) (back : α → β) (surface : Surface α σ) : Surface β σ :=
  ⟨surface.size.map back, fun d => surface.perform (d.map into)⟩

/-- Paints a script. -/
def paint (surface : Surface α σ) (p : Script (Drawing α)) (s : σ) : Outcome σ := p.run surface.perform s

/-- A surface of no size on which every drawing fails. -/
def blank [Scalar α] : Surface α σ := ⟨⟨Scalar.zero, Scalar.zero⟩, fun _ s => .stop s .unsupported⟩

end Surface

end ReportCard
