import ReportCard.Page.Settings

/-!
# Scaling

Templates are designed on a canvas of a reference width.  Every position, extent, font size and column weight is
multiplied by one factor, the width of the page over the reference width; border widths are not.
-/

namespace ReportCard

/-- A linear scale from the template canvas to the page. -/
structure Scaler (α : Type) where
  pageWidth : α
  referenceWidth : α
deriving Repr

namespace Scaler

section

variable {α : Type} [Scalar α]

/-- What a length on the canvas is multiplied by. -/
def factor (s : Scaler α) : α := s.pageWidth / s.referenceWidth

/-- A length of the canvas on the page. -/
def scale (s : Scaler α) (x : α) : α := x * s.factor

/-- A box of the canvas on the page. -/
def box (s : Scaler α) (b : Box α) : Box α := ⟨s.scale b.x, s.scale b.y, s.scale b.width, s.scale b.height⟩

/-- An element of the canvas on the page. -/
def apply (s : Scaler α) (e : Element α) : Element α :=
  { e with
    box := s.box e.box
    style := { e.style with fontSize := e.style.fontSize.map s.scale }
    metadata := { e.metadata with columnWidths := e.metadata.columnWidths.map (·.map s.scale) } }

end

/-- The scaler between two widths.  The reference width is compared with zero as it is given, before either width is
read as a number; one so small that its double is zero does not divide. -/
def ofValues (pageWidth reference : Value) : Except Fault (Scaler Float) := do
  if ← reference.isNonpositive then throw (reference.told .nonpositiveReference)
  let page ← pageWidth.asFloat
  let width ← reference.asFloat
  if width == 0.0 then throw .divisionByZero
  return ⟨page, width⟩

/-- The scaler for a page and a template: from the canvas of the template if it declares one, otherwise from the
configured width. -/
def forPage (settings : Settings) (pageWidth : Value) (canvasWidth : Option Value) : Except Fault (Scaler Float) := do
  match canvasWidth with
  | some w => ofValues pageWidth w
  | none => ofValues pageWidth (.float (← settings.reference))

/-- The text that shows a scaler. -/
def display (s : Scaler Float) : String :=
  "Scaler(page_width=" ++ floatText s.pageWidth ++ ", reference_width=" ++ floatText s.referenceWidth ++ ")"

/-- A value of the canvas on the page, if it is a number. -/
def scaleValue (s : Scaler Float) (v : Value) : Except Fault Float :=
  match v with
  | .bool _ | .int _ | .float _ => v.asFloat.map s.scale
  | _ => .error .wrongKind

end Scaler

end ReportCard
