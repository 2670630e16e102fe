import ReportCard.Proofs.Drawing.Drawable
import ReportCard.Proofs.Drawing.Substitution

/-!
# The state of a canvas

A canvas paints with a state: colors, a line style, a font, an opacity, a transformation and a clip.  Calls change it,
save it on a stack and restore it.  A call paints as its drawing asks (`Drawing.Asks`) if it finds there what the
drawing itself has set, and nothing that was left behind by another one.
-/

namespace ReportCard

/-- A step of the transformation of a canvas. -/
inductive Move where
  | shift (x y : Float)
  | turn (degrees : Float)

/-- What a canvas paints with.  The opacity is the one that is set by itself: a paint has one of its own besides. -/
structure Graphics where
  fill : Paint := .color .black
  stroke : Paint := .color .black
  lineWidth : Float := 1.0
  dash : List Float := []
  font : String × Float := ("Helvetica", 12.0)
  alpha : Float := 1.0
  moves : List Move := []
  /-- Paths of boxes; only what lies in each of them is painted. -/
  clip : List (List (Box Float)) := []

/-- Neither moved nor faded nor clipped. -/
structure Graphics.IsBare (g : Graphics) : Prop where
  moves : g.moves = []
  alpha : g.alpha = 1.0
  clip : g.clip = []

/-- The state of a canvas with the states that were saved, the latest first, and the path that is being made. -/
structure CanvasState where
  now : Graphics
  saved : List Graphics
  path : List (Box Float)

namespace CanvasState

/-- The state of a new page. -/
def fresh : CanvasState := ⟨{}, [], []⟩

/-- The state after a call. -/
def after (s : CanvasState) : Call Float → CanvasState
  | .saveState => { s with saved := s.now :: s.saved }
  | .restoreState =>
    match s.saved with
    | [] => s
    | g :: rest => { s with now := g, saved := rest }
  | .setFillColor paint => { s with now.fill := paint }
  | .setStrokeColor paint => { s with now.stroke := paint }
  | .setLineWidth width => { s with now.lineWidth := width }
  | .setDash pattern => { s with now.dash := pattern }
  | .setFont name size => { s with now.font := (name, size) }
  | .setFillAlpha alpha => { s with now.alpha := alpha }
  | .translate x y => { s with now.moves := .shift x y :: s.now.moves }
  | .rotate degrees => { s with now.moves := .turn degrees :: s.now.moves }
  | .beginPath => { s with path := [] }
  | .pathRect box => { s with path := s.path ++ [box] }
  | .clipPath => { s with now.clip := s.path :: s.now.clip }
  | .showPage => fresh
  | .rect .. | .line .. | .drawString .. | .drawImage .. | .save => s

theorem after_restoreState {s : CanvasState} {g : Graphics} {rest : List Graphics} (h : s.saved = g :: rest) :
    s.after .restoreState = { s with now := g, saved := rest } := by
  simp [after, h]

/-- The state after calls. -/
def run (s : CanvasState) (calls : List (Call Float)) : CanvasState := calls.foldl after s

theorem run_append (s : CanvasState) (calls calls' : List (Call Float)) :
    s.run (calls ++ calls') = (s.run calls).run calls' :=
  List.foldl_append ..

end CanvasState

/-- The paint that a value writes, as a canvas takes it; black if it writes none. -/
def Color.ink (v : Value) : Except Fault Paint := do (← resolve v (.color .black)).2.inked

namespace Drawing

/-- What a drawing is clipped to on a page of the given height: a text in a box to that box. -/
def clip (pageHeight : Float) : Drawing Float → List (List (Box Float))
  | textCell _ b _ => [[Canvas.flip pageHeight b]]
  | _ => []

/-- A call that paints is one of the drawing's own, and paints with the colors, the line style and the font that the
drawing asks for. -/
def Styles (d : Drawing Float) (g : Graphics) (call : Call Float) : Prop :=
  match call, d with
  | .rect _ false true, fillRect _ color => Color.ink color = .ok g.fill
  | .rect _ true false, strokeRect _ color lineWidth dash =>
    Color.ink color = .ok g.stroke ∧ g.lineWidth = lineWidth ∧ g.dash = dash.getD []
  | .line .., line _ _ _ _ color lineWidth => Color.ink color = .ok g.stroke ∧ g.lineWidth = lineWidth ∧ g.dash = []
  | .drawString .., textBox _ _ _ _ l _ | .drawString .., textCell _ _ l =>
    Color.ink l.color = .ok g.fill ∧ l.fontName = .text g.font.1 ∧ g.font.2 = l.fontSize
  | .drawImage .., image .. => True
  | .rect .., _ | .line .., _ | .drawString .., _ | .drawImage .., _ => False
  | _, _ => True

end Drawing

/-- Whether a call puts something on the page. -/
def Call.paints {α : Type} : Call α → Bool
  | rect .. | line .. | drawString .. | drawImage .. => true
  | _ => false

/-- A call for a drawing, if it paints, paints as the drawing asks: with what this has set, in its own place, and
clipped to its box if that is asked for. -/
structure Drawing.Asks (pageHeight : Float) (d : Drawing Float) (g : Graphics) (call : Call Float) : Prop where
  styles : d.Styles g call
  moves : call.paints = true → g.moves = []
  alpha : call.paints = true → g.alpha = 1.0
  clip : call.paints = true → g.clip = d.clip pageHeight

end ReportCard
