import ReportCard.Element.Kind
import ReportCard.Element.Style

/-!
# Elements

One positioned item of a template: its box, its style and what its kind needs to know.  Reading an element never
guesses: a missing property has a default, a property of the wrong kind counts as missing, and only a number outside
the range of doubles, a count that is not finite, or a number that is too long for a text stops the reading.
-/

namespace ReportCard

/-- A box, by its upper left corner; lengths grow to the right and downwards. -/
structure Box (α : Type) where
  x : α
  y : α
  width : α
  height : α
deriving Repr

/-- The box with its lengths in another type. -/
def Box.map {α β : Type} (f : α → β) (b : Box α) : Box β := ⟨f b.x, f b.y, f b.width, f b.height⟩

/-- What the kinds of elements need beyond box and style. -/
structure Metadata (α : Type) where
  field : Option String := none
  displayType : Option String := none
  isPlaceholder : Bool := false
  rows : Option Int := none
  cols : Option Int := none
  headers : List String := []
  tableKind : Option TableKind := none
  columnWidths : Option (List α) := none
  traits : Option (List String) := none
  skills : Option (List String) := none
deriving Repr

namespace Metadata

/-- The metadata with its lengths in another type. -/
def map {α β : Type} (f : α → β) (m : Metadata α) : Metadata β :=
  { m with columnWidths := m.columnWidths.map (·.map f) }

/-- The text of an item of a list, empty for null. -/
def itemText (v : Value) : String := if v.isNull then "" else v.spelled

/-- The texts of the items of a list; anything but a list has none. -/
def texts (v : Value) : Except Fault (List String) :=
  ((v.items?).getD []).mapM fun (item : Value) => item.written (itemText item)

/-- The weights of the columns, if a list of them is given. -/
def weights? (v : Value) : Except Fault (Option (List Float)) :=
  match v.items? with
  | some items => (items.mapM fun (w : Value) => w.numberD 0.0).map some
  | none => .ok none

/-- The texts at a key, if there is such a key. -/
def texts? (es : Entries) (key : String) : Except Fault (Option (List String)) :=
  match es.lookup key with
  | some v => (texts v).map some
  | none => .ok none

/-- The metadata that the entries of a mapping describe. -/
def ofEntries (es : Entries) : Except Fault (Metadata Float) := do
  let columnWidths ← weights? (es.get "columnWidths")
  let field ← (es.get "field").displayTrimmed?
  let displayType ← (es.get "displayType").displayTrimmed?
  let rows ← (es.get "rows").whole?
  let cols ← (es.get "cols").whole?
  let headers ← texts (es.get "headers")
  let traits ← texts? es "traits"
  let skills ← texts? es "skills"
  return {
    field, displayType, isPlaceholder := (es.get "isPlaceholder").isTruthy, rows, cols, headers,
    tableKind := TableKind.ofValue? (es.get "tableType"), columnWidths, traits, skills }

/-- The metadata that a value describes; anything but a mapping describes none. -/
def ofValue (v : Value) : Except Fault (Metadata Float) :=
  match v.entries? with
  | some es => ofEntries es
  | none => .ok {}

end Metadata

/-- An item of a template.  An element without a kind is of a kind that is not known; `rawKind` is its name. -/
structure Element (α : Type) where
  kind : Option ElementKind
  rawKind : String
  box : Box α
  style : Style α
  metadata : Metadata α
  content : Option String
  id : Option String
deriving Repr

namespace Element

/-- The element with its lengths in another type. -/
def map {α β : Type} (f : α → β) (e : Element α) : Element β :=
  { e with box := e.box.map f, style := e.style.map f, metadata := e.metadata.map f }

/-- The extent unless it is below zero. -/
def extent (x : Float) : Float := if 0.0 > x then 0.0 else x

/-- The box that the entries of an element describe. -/
def boxOfEntries (es : Entries) : Except Fault (Box Float) := do
  let x ← (es.get "x").numberD 0.0
  let y ← (es.get "y").numberD 0.0
  let width ← (es.get "width").numberD 0.0
  let height ← (es.get "height").numberD 0.0
  return ⟨x, y, extent width, extent height⟩

/-- The element that the entries of a mapping describe. -/
def ofEntries (es : Entries) : Except Fault (Element Float) := do
  let rawKind ← ((es.get "type").orElse (.text "")).display
  let box ← boxOfEntries es
  let style ← Style.ofValue (es.get "style")
  let metadata ← Metadata.ofValue (es.get "metadata")
  let content ← (es.get "content").display?
  let id ← (es.get "id").displayTrimmed?
  return { kind := ElementKind.ofValue? (es.get "type"), rawKind, box, style, metadata, content, id }

/-- The element that a value describes; anything but a mapping describes none. -/
def ofValue? (v : Value) : Except Fault (Option (Element Float)) :=
  match v.entries? with
  | some es => (ofEntries es).map some
  | none => .ok none

end Element

end ReportCard
