import ReportCard.Painting.Table.Cell
import ReportCard.Painting.Table.Layout

/-!
# Tables

Paints a table: a header band if some header has text, then row after row with a rule above it and dividers between
its columns, and at the end a rule below and a frame.  What there is to show beyond the last row is only noted.
-/

namespace ReportCard.Table

/-- What the rows of a table show. -/
inductive Source where
  | subjects (results : List Entries)
  | ratings (names : List String) (ratings : Value)
  | nothing

namespace Source

/-- How many rows there would be to show. -/
def size : Source → Nat
  | subjects results => results.length
  | ratings names _ => names.length
  | nothing => 0

/-- The cell in a row and a column. -/
def cell (source : Source) (cols row column : Nat) (header : String) : Except Fault Cell :=
  match source with
  | subjects results => (results[row]?.map fun r => subjectCell header column (.mapping r)).getD (.ok ⟨"", false⟩)
  | ratings names rs =>
    (names[row]?.map fun name => (traitCell name header column rs cols).map (⟨·, false⟩)).getD (.ok ⟨"", false⟩)
  | nothing => .ok ⟨"", false⟩

end Source

variable {α : Type}

/-- The traits or skills that a table lists. -/
def traitNames (m : Metadata α) : TableKind → List String
  | .psychomotor => (m.skills.or m.traits).getD []
  | _ => (m.traits.or m.skills).getD []

/-- The ratings that a table shows. -/
def traitRatings (r : Record) : TableKind → Value
  | .affective => (r.firstResult.get "affectiveTraits").orDefault (.mapping [])
  | _ => (r.firstResult.get "psychomotorSkills").orDefault (.mapping [])

/-- What a table shows of a record. -/
def sourceOf (m : Metadata α) (r : Record) : Source :=
  match m.tableKind with
  | some .subjects => .subjects r.results
  | some kind => .ratings (traitNames m kind) (traitRatings r kind)
  | none => .nothing

variable [Scalar α]

/-- The color of rules and frames. -/
def borderColor (e : Element α) : String := e.style.borderColor.getD "#000000"

/-- The width of rules and frames. -/
def borderWidth (e : Element α) : α := Scalar.orElse e.style.borderWidth (Scalar.ratio 1 2)

/-- The font size of cells. -/
def fontSize (e : Element α) (scale : α) : α := Scalar.orElse e.style.fontSize (Scalar.ofNat 11 * scale)

/-- A rule of a table. -/
def rule (e : Element α) (x1 y1 x2 y2 : α) : Drawing α :=
  .line x1 y1 x2 y2 (.text (borderColor e)) (borderWidth e)

/-- The rule between a column and the next one. -/
def divider (e : Element α) (c : Column α) (top height : α) : Script (Drawing α) :=
  .when (!c.isLast) (.act (rule e (c.left + c.width) top (c.left + c.width) (top + height)))

/-- A text within a column, two points away from its sides. -/
def cellText (c : Column α) (top height : α) (text : String) (l : Lettering α) : Script (Drawing α) :=
  .when (!text.isEmpty) <| .act <|
    .textCell (.text text) ⟨c.left + Scalar.ofNat 2, top, c.width - Scalar.ofNat 4, height⟩ l

/-- The lettering of headers. -/
def headerLettering (e : Element α) (scale : α) : Lettering α :=
  { fontName := .text "Helvetica-Bold", fontSize := fontSize e scale
    color := .text (e.style.headerTextColor.getD "#ffffff") }

/-- The lettering of cells. -/
def cellLettering (e : Element α) (scale : α) (bold : Bool) : Lettering α :=
  { fontName := .text (if bold then "Helvetica-Bold" else "Helvetica"), fontSize := fontSize e scale
    color := .text (e.style.color.getD "#000000") }

/-- Paints a header and the divider after it. -/
def paintHeader (e : Element α) (scale : α) (c : Column α) : Script (Drawing α) :=
  let height := headerHeight e scale
  .seq (cellText c e.box.y height (Text.upper c.header) (headerLettering e scale))
    (divider e c e.box.y height)

/-- Paints the header band. -/
def paintHeaders (e : Element α) (scale : α) : Script (Drawing α) :=
  .when (showsHeader e) <| .seq
    (.act (.fillRect ⟨e.box.x, e.box.y, e.box.width, headerHeight e scale⟩
      (.text (e.style.headerBgColor.getD "#1e293b"))))
    (.all ((columns e).map (paintHeader e scale)))

/-- Paints a cell and the divider after it. -/
def paintCell (e : Element α) (scale : α) (source : Source) (row : Nat) (top : α) (c : Column α) :
    Script (Drawing α) :=
  let height := rowHeight e scale
  .tryIt (source.cell (colCount e.metadata) row c.index c.header) fun cell =>
    .seq (cellText c top height cell.text (cellLettering e scale cell.bold)) (divider e c top height)

/-- Paints a row: every other one on a ground of its own, if there is a color for that. -/
def paintRow (e : Element α) (scale : α) (source : Source) (row : Nat) (top : α) : Script (Drawing α) :=
  let ground := match e.style.altRowColor with
    | some color => .when (row % 2 == 1) <|
      .act (.fillRect ⟨e.box.x, top, e.box.width, rowHeight e scale⟩ (.text color))
    | none => .done
  .seq ground <| .seq (.act (rule e e.box.x top (e.box.x + e.box.width) top)) <|
    .all ((columns e).map (paintCell e scale source row top))

/-- Paints `n` rows from a position and a height on. -/
def paintRows (e : Element α) (scale : α) (source : Source) (row : Nat) (top : α) : Nat → List (Script (Drawing α))
  | 0 => []
  | n + 1 => paintRow e scale source row top :: paintRows e scale source (row + 1) (top + rowHeight e scale) n

/-- Paints the rule below the rows and the frame, if the table has any height. -/
def paintFrame (e : Element α) (scale : α) : Script (Drawing α) :=
  let b := e.box
  let foot := bottom e scale
  .when (Scalar.lt b.y foot) <| .acts [
    rule e b.x foot (b.x + b.width) foot,
    .strokeRect ⟨b.x, b.y, b.width, foot - b.y⟩ (.text (borderColor e)) (borderWidth e) none]

/-- The note on what a table has no room for. -/
def overflowNote (m : Metadata α) (source : Source) : Script (Drawing α) :=
  match m.tableKind with
  | none => .done
  | some kind => .when (rowCount m < source.size) <| .note ⟨.debug,
      "Table " ++ kind.symbol ++ " shows " ++ toString (rowCount m) ++ " of " ++ toString source.size ++ " rows.", none⟩

/-- Paints a table. -/
def paint (e : Element α) (r : Record) (scale : α) : Script (Drawing α) :=
  let source := sourceOf e.metadata r
  let rows := paintRows e scale source 0 (bodyTop e scale) (rowCount e.metadata)
  .seq (Drawing.isolated (.seq (paintHeaders e scale) (.seq (.all rows) (paintFrame e scale))))
    (overflowNote e.metadata source)

end ReportCard.Table
