import ReportCard.Drawing.Basic
import ReportCard.Value.Path
import ReportCard.Value.Quantity

/-!
# The layout of tables

A table splits the width of its box between its columns and the height below the header between its rows; no row grows
to fit what is in it.
-/

namespace ReportCard.Table

variable {α : Type} [Scalar α]

/-- How many columns a table has, three if it does not say. -/
def colCount (m : Metadata α) : Nat := (m.cols.getD 3).toNat

/-- How many rows a table has, three if it does not say; without columns there are no rows. -/
def rowCount (m : Metadata α) : Nat := if colCount m = 0 then 0 else (m.rows.getD 3).toNat

/-- The widths of the columns: in proportion to the weights if there is one for each column and they have a positive
sum, otherwise equal. -/
def columnWidths (weights : Option (List α)) (width : α) (cols : Nat) : List α :=
  let equal := List.replicate cols (width / Scalar.ofNat cols)
  match weights with
  | none => equal
  | some ws =>
    let total := Scalar.sum ws
    if ws.length = cols ∧ Scalar.isPos total then ws.map fun w => w / total * width else equal

/-- Whether some header has text. -/
def hasHeaders (headers : List String) : Bool := headers.any fun h => !Text.allBlank h

/-- The items for the columns, `blank` where there are too few. -/
def padded {β : Type} (blank : β) (items : List β) (cols : Nat) : List β :=
  items.take cols ++ List.replicate (cols - items.length) blank

/-- The headers of the columns, empty where there are too few. -/
def paddedHeaders (headers : List String) (cols : Nat) : List String := padded "" headers cols

/-- Whether some header has text, where headers may be anything: those that do not count as given have none, and others
have to be texts. -/
def hasLooseHeaders : List Value → Except Fault Bool
  | [] => .ok false
  | h :: hs =>
    if h.isTruthy then
      match h with
      | .text s => if Text.allBlank s then hasLooseHeaders hs else .ok true
      | _ => .error .missingAttribute
    else hasLooseHeaders hs

/-- The widths of columns whose weights, width and number may be anything.  Without columns nothing is looked at. -/
def looseColumnWidths (weights : Value) (width cols : Quantity) : Except Fault (List Quantity) := do
  let cols ← cols.checked
  if Scalar.isNonpos cols then return []
  let ws ← if weights.isTruthy then weights.listed else pure []
  let quantities := ws.map Quantity.ofValue
  let total := Scalar.sum quantities
  if !ws.isEmpty && Scalar.eq (.whole ws.length) cols then
    let total ← total.checked
    if Scalar.isPos total then return ← (quantities.map fun w => w / total * width).mapM Quantity.checked
  match cols with
  | .whole n => (List.replicate n.toNat (width / cols)).mapM Quantity.checked
  | _ => throw .wrongKind

/-- A column: its position, its header, and its extent. -/
structure Column (α : Type) where
  index : Nat
  header : String
  left : α
  width : α
  isLast : Bool
deriving Repr

/-- Columns next to each other from `left` on. -/
def columnsFrom (index : Nat) (left : α) : List (String × α) → List (Column α)
  | [] => []
  | (header, width) :: rest =>
    ⟨index, header, left, width, rest.isEmpty⟩ :: columnsFrom (index + 1) (left + width) rest

/-- The place below `n` rows of a height. -/
def below (top height : α) : Nat → α
  | 0 => top
  | n + 1 => below (top + height) height n

/-- The geometry of a table. -/
structure Layout (α : Type) where
  columnWidths : List α
  headerHeight : α
  rowHeight : α
  top : α
  bottom : α
deriving Repr

/-- Whether the header band is shown. -/
def showsHeader (e : Element α) : Bool := hasHeaders e.metadata.headers

/-- The height of the header band. -/
def headerHeight (e : Element α) (scale : α) : α :=
  if showsHeader e then Scalar.ofNat 22 * scale else Scalar.zero

/-- The height of a row. -/
def rowHeight (e : Element α) (scale : α) : α :=
  (e.box.height - headerHeight e scale) / Scalar.ofNat (max 1 (rowCount e.metadata))

/-- Where the rows begin. -/
def bodyTop (e : Element α) (scale : α) : α :=
  if showsHeader e then e.box.y + headerHeight e scale else e.box.y

/-- Where the rows end. -/
def bottom (e : Element α) (scale : α) : α :=
  below (bodyTop e scale) (rowHeight e scale) (rowCount e.metadata)

/-- The widths of the columns of a table. -/
def widths (e : Element α) : List α :=
  columnWidths e.metadata.columnWidths e.box.width (colCount e.metadata)

/-- The columns of a table. -/
def columns (e : Element α) : List (Column α) :=
  columnsFrom 0 e.box.x ((paddedHeaders e.metadata.headers (colCount e.metadata)).zip (widths e))

/-- The layout of a table element. -/
def layout (e : Element α) (scale : α) : Layout α where
  columnWidths := widths e
  headerHeight := headerHeight e scale
  rowHeight := if rowCount e.metadata = 0 then Scalar.zero else rowHeight e scale
  top := e.box.y
  bottom := bottom e scale

end ReportCard.Table
