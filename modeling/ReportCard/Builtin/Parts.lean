import ReportCard.Value.Basic

/-!
# Parts of built-in templates

Templates as they are authored: untyped values.  Whole numbers and texts stand for themselves here, and a part is an
element, or the few elements that belong together.
-/

namespace ReportCard.Builtin

scoped instance (n : Nat) : OfNat Value n := ⟨.int n⟩

scoped instance : Coe String Value := ⟨.text⟩

/-- A box of the canvas in whole units. -/
structure Place where
  x : Nat
  y : Nat
  width : Nat
  height : Nat

/-- A list of texts as a value. -/
def texts (ss : List String) : Value := .list (ss.map .text)

/-- A list of whole numbers as a value. -/
def numbers (ns : List Nat) : Value := .list (ns.map fun (n : Nat) => .int n)

/-- An element. -/
def element (kind id : String) (p : Place) (style metadata : Entries) (content : Option String) : Value :=
  let fields : Entries := [("id", .text id), ("type", .text kind), ("x", .int p.x), ("y", .int p.y),
    ("width", .int p.width), ("height", .int p.height), ("style", .mapping style), ("metadata", .mapping metadata)]
  match content with
  | none => .mapping fields
  | some content => .mapping (fields.put "content" (.text content))

/-- A box or a line. -/
def shape (id : String) (p : Place) (style : Entries) : Value := element "shape" id p style [] none

/-- A fixed text. -/
def text (id : String) (p : Place) (content : String) (style : Entries) : Value :=
  element "text" id p style [] (some content)

/-- The text of a field. -/
def dynamic (id : String) (p : Place) (field : String) (style : Entries) : Value :=
  element "dynamic" id p style [("field", field)] none

/-- An image with a placeholder. -/
def image (id : String) (p : Place) : Value :=
  element "image" id p [] [("field", id), ("isPlaceholder", .bool true)] none

/-- A table. -/
def table (id : String) (p : Place) (style metadata : Entries) : Value := element "table" id p style metadata none

/-- Bold text of a size and a color. -/
def bold (size : Value) (color : String) : Entries := [("fontSize", size), ("fontWeight", "bold"), ("color", color)]

/-- Plain text of a size and a color. -/
def plain (size : Value) (color : String) : Entries := [("fontSize", size), ("color", color)]

/-- A style with its text in the middle. -/
def centered (style : Entries) : Entries := style.put "textAlign" "center"

/-- Slanted text of a size. -/
def slanted (size : Value) : Entries := [("fontSize", size), ("fontStyle", "italic")]

/-- A label in front of the value of the field that it names. -/
def labelled (field : String) (x y : Nat) (label color : String) (labelWidth valueWidth : Nat) : List Value :=
  [text (field ++ "_label") ⟨x, y, labelWidth, 16⟩ label (bold 10 color),
    dynamic (field ++ "_value") ⟨x + labelWidth, y, valueWidth, 16⟩ field (plain 10 "#111827")]

end ReportCard.Builtin
