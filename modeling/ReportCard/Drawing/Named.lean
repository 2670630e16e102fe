import ReportCard.Drawing.Basic
import ReportCard.Value.Quantity

/-!
# Named arguments

A drawing as a command: the name of its operation and named arguments.  All surfaces have the same operations with the
same parameters.  Arguments that an operation has no parameter for, and missing ones that it needs, are faults; the
other missing ones have defaults.
-/

namespace ReportCard.Drawing

/-- An argument of a drawing. -/
inductive Argument (α : Type) where
  | length (x : α)
  | dash (pattern : Option (List α))
  | value (v : Value)
  | picture (data : ImageData)

/-- A command to a surface. -/
structure Command (α : Type) where
  operation : String
  arguments : List (String × Argument α)

/-- A parameter of an operation.  One without a default needs an argument. -/
structure Parameter (α : Type) where
  name : String
  default? : Option (Argument α) := none

variable {α : Type}

/-! ### Commands of drawings -/

/-- The arguments for a box. -/
def boxArguments (b : Box α) : List (String × Argument α) :=
  [("x", .length b.x), ("y", .length b.y), ("width", .length b.width), ("height", .length b.height)]

/-- The arguments for a lettering. -/
def letteringArguments (l : Lettering α) : List (String × Argument α) :=
  [("font_name", .value l.fontName), ("font_size", .length l.fontSize), ("color", .value l.color)]

/-- The arguments of a drawing by their names. -/
def arguments : Drawing α → List (String × Argument α)
  | saveState | restoreState => []
  | fillRect b color => boxArguments b ++ [("color", .value color)]
  | strokeRect b color lineWidth dash =>
    boxArguments b ++ [("color", .value color), ("line_width", .length lineWidth), ("dash", .dash dash)]
  | line x1 y1 x2 y2 color lineWidth =>
    [("x1", .length x1), ("y1", .length y1), ("x2", .length x2), ("y2", .length y2), ("color", .value color),
      ("line_width", .length lineWidth)]
  | textBox text x y width l align =>
    [("text", .value text), ("x", .length x), ("y", .length y), ("width", .length width)] ++
      letteringArguments l ++ [("align", .value align)]
  | textCell text b l => ("text", .value text) :: boxArguments b ++ letteringArguments l
  | image data b => ("data", .picture data) :: boxArguments b

/-- The command for a drawing, with all its arguments. -/
def command (d : Drawing α) : Command α := ⟨d.operation, d.arguments⟩

/-! ### Drawings of commands -/

section

variable [Scalar α]

/-- Parameters that need an argument. -/
def needed (names : List String) : List (Parameter α) := names.map fun name => { name }

/-- The parameters for a lettering. -/
def letteringParameters : List (Parameter α) :=
  [⟨"font_name", some (.value (.text "Helvetica"))⟩, ⟨"font_size", some (.length (Scalar.ofNat 12))⟩,
    ⟨"color", some (.value .null)⟩]

/-- The parameter for the width of lines. -/
def lineWidthParameter : Parameter α := ⟨"line_width", some (.length (Scalar.ofNat 1))⟩

/-- The parameters of an operation. -/
def parameters? : String → Option (List (Parameter α))
  | "save_state" | "restore_state" => some []
  | "fill_rect" => some (needed ["x", "y", "width", "height", "color"])
  | "stroke_rect" =>
    some (needed ["x", "y", "width", "height", "color"] ++ [lineWidthParameter, ⟨"dash", some (.dash none)⟩])
  | "line" => some (needed ["x1", "y1", "x2", "y2", "color"] ++ [lineWidthParameter])
  | "text_box" =>
    some (needed ["text", "x", "y", "width"] ++ letteringParameters ++ [⟨"align", some (.value (.text "left"))⟩])
  | "text_cell" => some (needed ["text", "x", "y", "width", "height"] ++ letteringParameters)
  | "image" => some (needed ["data", "x", "y", "width", "height"])
  | _ => none

/-- The drawing of an operation with an argument for each of its parameters. -/
def make : String → List (Argument α) → Except Fault (Drawing α)
  | "save_state", [] => .ok .saveState
  | "restore_state", [] => .ok .restoreState
  | "fill_rect", [.length x, .length y, .length width, .length height, .value color] =>
    .ok (.fillRect ⟨x, y, width, height⟩ color)
  | "stroke_rect",
      [.length x, .length y, .length width, .length height, .value color, .length lineWidth, .dash dash] =>
    .ok (.strokeRect ⟨x, y, width, height⟩ color lineWidth dash)
  | "line", [.length x1, .length y1, .length x2, .length y2, .value color, .length lineWidth] =>
    .ok (.line x1 y1 x2 y2 color lineWidth)
  | "text_box",
      [.value text, .length x, .length y, .length width, .value fontName, .length fontSize, .value color,
        .value align] =>
    .ok (.textBox text x y width ⟨fontName, fontSize, color⟩ align)
  | "text_cell",
      [.value text, .length x, .length y, .length width, .length height, .value fontName, .length fontSize,
        .value color] =>
    .ok (.textCell text ⟨x, y, width, height⟩ ⟨fontName, fontSize, color⟩)
  | "image", [.picture data, .length x, .length y, .length width, .length height] =>
    .ok (.image data ⟨x, y, width, height⟩)
  | _, _ => .error .wrongKind

/-- The argument that a parameter has among named ones. -/
def Parameter.argument (p : Parameter α) (args : List (String × Argument α)) : Except Fault (Argument α) :=
  (((args.lookup p.name).or p.default?).map .ok).getD (.error .wrongKind)

/-- An argument for each parameter, if each of the named ones has a parameter. -/
def bound (ps : List (Parameter α)) (args : List (String × Argument α)) : Except Fault (List (Argument α)) :=
  if args.all fun a => ps.any (·.name == a.1) then ps.mapM (·.argument args) else .error .wrongKind

/-- The drawing that a command asks for. -/
def Command.drawing (c : Command α) : Except Fault (Drawing α) := do
  let ps ← ((parameters? c.operation).map .ok).getD (.error .missingKey)
  make c.operation (← bound ps c.arguments)

end

/-! ### Commands with values -/

/-- A value as a dash pattern; an empty one is none. -/
def dashOf (v : Value) : Option (List Quantity) :=
  match v.items? with
  | none | some [] => none
  | some items => some (items.map Quantity.ofValue)

/-- A value as the argument with a name. -/
def Argument.ofValue (name : String) (v : Value) : Argument Quantity :=
  match name with
  | "text" | "font_name" | "color" | "align" => value v
  | "dash" => dash (dashOf v)
  | _ => length (.ofValue v)

/-- The drawing of an operation with named values; an image is given besides. -/
def ofNamed (operation : String) (data : ImageData) (es : Entries) : Except Fault (Drawing Quantity) :=
  let args := es.map fun e => (e.1, Argument.ofValue e.1 e.2)
  Command.drawing ⟨operation, if operation == "image" then ("data", .picture data) :: args else args⟩

end ReportCard.Drawing

namespace ReportCard

/-- Carries out a command on a surface. -/
def Surface.invoke {α σ : Type} [Scalar α] (surface : Surface α σ) (c : Drawing.Command α) (s : σ) : Outcome σ :=
  match c.drawing with
  | .ok d => surface.perform d s
  | .error fault => .stop s fault

end ReportCard
