import Mathlib.Data.List.Basic
import ReportCard.Painting.Table.Basic
import ReportCard.Proofs.Drawing.Transcript
import ReportCard.Proofs.Table.Columns

/-!
# What a table draws

A table is painted by two loops that move along as they draw.  `Table.drawings` says without them what is drawn and
where: each field of a row stands at the left edge of its column and at the top of its row.  The loops come to exactly
that if the cells of the table can be read, and otherwise not to their end (`Table.comesTo_paint`,
`Table.fault?_paint_eq_none`).
-/

namespace ReportCard.Table

open Script (ComesTo)

variable {α : Type}

theorem sourceOf_of_ratings {m : Metadata α} {kind : TableKind} (hkind : m.tableKind = some kind)
    (hratings : kind ≠ .subjects) (r : Record) : sourceOf m r = .ratings (traitNames m kind) (traitRatings r kind) := by
  cases kind <;> simp_all [sourceOf]

/-- The cells that a table shows of a record can be read, and are those of the grid. -/
def HasCells (m : Metadata α) (r : Record) (grid : Nat → Nat → Cell) : Prop :=
  ∀ row < rowCount m, ∀ column < colCount m,
    (sourceOf m r).cell (colCount m) row column (m.headers.getD column "") = .ok (grid row column)

variable [Scalar α] (e : Element α) (scale : α)

/-- Where a row begins. -/
def rowTop (row : Nat) : α := below (bodyTop e scale) (rowHeight e scale) row

/-- The drawings of a field: its text, unless it is empty, two points away from the sides of its column, and the divider
behind it, unless the column is the last one. -/
def fieldDrawings (column : Nat) (top height : α) (text : String) (l : Lettering α) : List (Drawing α) :=
  (if text.isEmpty then [] else
    [.textCell (.text text)
      ⟨columnLeft e column + Scalar.ofNat 2, top, columnWidth e column - Scalar.ofNat 4, height⟩ l]) ++
  if column + 1 < colCount e.metadata then
    [rule e (columnLeft e (column + 1)) top (columnLeft e (column + 1)) (top + height)]
  else []

/-- The drawings of the header band: its ground and its fields. -/
def headerDrawings : List (Drawing α) :=
  if showsHeader e then
    .fillRect ⟨e.box.x, e.box.y, e.box.width, headerHeight e scale⟩ (.text (e.style.headerBgColor.getD "#1e293b")) ::
      (List.range (colCount e.metadata)).flatMap fun column =>
        fieldDrawings e column e.box.y (headerHeight e scale) (Text.upper (e.metadata.headers.getD column ""))
          (headerLettering e scale)
  else []

/-- The drawings of a row: its ground, for every other row if there is a color for that, the rule above it, and its
fields. -/
def rowDrawings (grid : Nat → Nat → Cell) (row : Nat) : List (Drawing α) :=
  let top := rowTop e scale row
  (if row % 2 = 1 then
    e.style.altRowColor.toList.map fun color =>
      .fillRect ⟨e.box.x, top, e.box.width, rowHeight e scale⟩ (.text color)
  else []) ++
  rule e e.box.x top (e.box.x + e.box.width) top ::
    (List.range (colCount e.metadata)).flatMap fun column =>
      fieldDrawings e column top (rowHeight e scale) (grid row column).text
        (cellLettering e scale (grid row column).bold)

/-- The drawings around a table: the rule below its rows and its frame, if it has any height. -/
def frameDrawings : List (Drawing α) :=
  if Scalar.lt e.box.y (bottom e scale) then
    [rule e e.box.x (bottom e scale) (e.box.x + e.box.width) (bottom e scale),
      .strokeRect ⟨e.box.x, e.box.y, e.box.width, bottom e scale - e.box.y⟩ (.text (borderColor e)) (borderWidth e)
        none]
  else []

/-- The drawings of a table with a grid of cells. -/
def drawings (grid : Nat → Nat → Cell) : List (Drawing α) :=
  .saveState ::
    (headerDrawings e scale ++ ((List.range (rowCount e.metadata)).flatMap (rowDrawings e scale grid) ++
      frameDrawings e scale) ++ [.restoreState])

section Membership

variable {e scale} {d : Drawing α}

theorem mem_fieldDrawings {column : Nat} {top height : α} {text : String} {l : Lettering α} :
    d ∈ fieldDrawings e column top height text l ↔
      text.isEmpty = false ∧ d = .textCell (.text text)
        ⟨columnLeft e column + Scalar.ofNat 2, top, columnWidth e column - Scalar.ofNat 4, height⟩ l ∨
      column + 1 < colCount e.metadata ∧
        d = rule e (columnLeft e (column + 1)) top (columnLeft e (column + 1)) (top + height) := by
  rw [fieldDrawings, List.mem_append]
  refine or_congr ?_ ?_
  · cases text.isEmpty <;> simp
  · by_cases hcolumn : column + 1 < colCount e.metadata <;> simp [hcolumn]

theorem mem_headerDrawings :
    d ∈ headerDrawings e scale ↔ showsHeader e = true ∧
      (d = .fillRect ⟨e.box.x, e.box.y, e.box.width, headerHeight e scale⟩
          (.text (e.style.headerBgColor.getD "#1e293b")) ∨
        ∃ column < colCount e.metadata, d ∈ fieldDrawings e column e.box.y (headerHeight e scale)
          (Text.upper (e.metadata.headers.getD column "")) (headerLettering e scale)) := by
  unfold headerDrawings
  cases showsHeader e <;> simp

theorem mem_rowDrawings {grid : Nat → Nat → Cell} {row : Nat} :
    d ∈ rowDrawings e scale grid row ↔
      (row % 2 = 1 ∧ ∃ color, e.style.altRowColor = some color ∧
        d = .fillRect ⟨e.box.x, rowTop e scale row, e.box.width, rowHeight e scale⟩ (.text color)) ∨
      d = rule e e.box.x (rowTop e scale row) (e.box.x + e.box.width) (rowTop e scale row) ∨
      ∃ column < colCount e.metadata, d ∈ fieldDrawings e column (rowTop e scale row) (rowHeight e scale)
        (grid row column).text (cellLettering e scale (grid row column).bold) := by
  rw [rowDrawings, List.mem_append, List.mem_cons, List.mem_flatMap]
  refine or_congr ?_ (or_congr Iff.rfl (by simp))
  split
  · rename_i hrow
    cases e.style.altRowColor <;> simp [hrow]
  · rename_i hrow
    simp [hrow]

theorem mem_frameDrawings :
    d ∈ frameDrawings e scale ↔ Scalar.lt e.box.y (bottom e scale) = true ∧
      (d = rule e e.box.x (bottom e scale) (e.box.x + e.box.width) (bottom e scale) ∨
        d = .strokeRect ⟨e.box.x, e.box.y, e.box.width, bottom e scale - e.box.y⟩ (.text (borderColor e))
          (borderWidth e) none) := by
  unfold frameDrawings
  cases Scalar.lt e.box.y (bottom e scale) <;> simp

theorem mem_drawings {grid : Nat → Nat → Cell} :
    d ∈ drawings e scale grid ↔ d = .saveState ∨ d ∈ headerDrawings e scale ∨
      (∃ row < rowCount e.metadata, d ∈ rowDrawings e scale grid row) ∨ d ∈ frameDrawings e scale ∨
      d = .restoreState := by
  simp [drawings]

end Membership

/-! ### The loops -/

/-- Rows are painted one below the other. -/
theorem paintRows_eq_map (source : Source) (row : Nat) (top : α) (n : Nat) :
    paintRows e scale source row top n =
      (List.range n).map fun i => paintRow e scale source (row + i) (below top (rowHeight e scale) i) := by
  induction n generalizing row top with
  | zero => rfl
  | succ n ih =>
    rw [paintRows, ih, List.range_succ_eq_map, List.map_cons, List.map_map]
    refine congrArg _ (List.map_congr_left fun i _ => ?_)
    simp only [Function.comp_apply, Nat.succ_eq_add_one, Nat.add_right_comm row 1 i, Nat.add_assoc, below]

private theorem comesTo_cellText (column : Nat) (top height : α) (text : String) (l : Lettering α) :
    ComesTo (cellText (columnAt e column) top height text l)
      (if text.isEmpty then [] else
        [.textCell (.text text)
          ⟨columnLeft e column + Scalar.ofNat 2, top, columnWidth e column - Scalar.ofNat 4, height⟩ l]) := by
  unfold cellText
  cases text.isEmpty
  · exact .act _
  · exact .done

private theorem comesTo_divider {column : Nat} (h : column < colCount e.metadata) (top height : α) :
    ComesTo (divider e (columnAt e column) top height)
      (if column + 1 < colCount e.metadata then
        [rule e (columnLeft e (column + 1)) top (columnLeft e (column + 1)) (top + height)] else []) := by
  unfold divider columnAt
  by_cases hlast : column + 1 = colCount e.metadata
  · rw [hlast, if_neg (Nat.lt_irrefl _), beq_self_eq_true]
    exact .done
  · rw [if_pos (by omega), beq_false_of_ne hlast, columnLeft_succ h]
    exact .act _

/-- A text in a column and the divider behind it. -/
private theorem comesTo_field {column : Nat} (h : column < colCount e.metadata) (top height : α) (text : String)
    (l : Lettering α) :
    ComesTo (.seq (cellText (columnAt e column) top height text l) (divider e (columnAt e column) top height))
      (fieldDrawings e column top height text l) :=
  (comesTo_cellText e column top height text l).seq (comesTo_divider e h top height)

private theorem comesTo_paintHeaders : ComesTo (paintHeaders e scale) (headerDrawings e scale) := by
  refine ComesTo.when fun _ => (ComesTo.act _).seq ?_
  rw [columns_eq_map_range, List.map_map]
  refine ComesTo.all_map fun column hcolumn => ?_
  exact comesTo_field e (List.mem_range.1 hcolumn) _ _ _ _

variable {e} {r : Record} {grid : Nat → Nat → Cell}

private theorem comesTo_paintRow (h : HasCells e.metadata r grid) {row : Nat} (hrow : row < rowCount e.metadata) :
    ComesTo (paintRow e scale (sourceOf e.metadata r) row (rowTop e scale row)) (rowDrawings e scale grid row) := by
  refine ComesTo.seq ?_ ((ComesTo.act _).seq ?_)
  · cases e.style.altRowColor with
    | none => simpa using ComesTo.done
    | some color => simpa using ComesTo.when (c := row % 2 == 1) fun _ => ComesTo.act _
  · rw [columns_eq_map_range, List.map_map]
    refine ComesTo.all_map fun column hcolumn => ComesTo.tryIt (h row hrow column (List.mem_range.1 hcolumn)) ?_
    exact comesTo_field e (List.mem_range.1 hcolumn) _ _ _ _

private theorem comesTo_paintRows (h : HasCells e.metadata r grid) :
    ComesTo (.all (paintRows e scale (sourceOf e.metadata r) 0 (bodyTop e scale) (rowCount e.metadata)))
      ((List.range (rowCount e.metadata)).flatMap (rowDrawings e scale grid)) := by
  rw [paintRows_eq_map]
  refine ComesTo.all_map fun row hrow => ?_
  rw [Nat.zero_add]
  exact comesTo_paintRow scale h (List.mem_range.1 hrow)

variable (e)

private theorem comesTo_paintFrame : ComesTo (paintFrame e scale) (frameDrawings e scale) :=
  ComesTo.when fun _ => ComesTo.acts _

omit [Scalar α] in
private theorem comesTo_overflowNote (m : Metadata α) (source : Source) :
    ComesTo (overflowNote m source : Script (Drawing α)) [] := by
  unfold overflowNote
  split
  · exact .done
  · simpa using ComesTo.when fun _ => ComesTo.note _

variable {e}

/-- A table whose cells can be read is painted to its end. -/
theorem comesTo_paint (h : HasCells e.metadata r grid) : ComesTo (paint e r scale) (drawings e scale grid) := by
  have hbody := (comesTo_paintHeaders e scale).seq ((comesTo_paintRows scale h).seq (comesTo_paintFrame e scale))
  have hpaint := (Drawing.comesTo_isolated hbody).seq (comesTo_overflowNote e.metadata (sourceOf e.metadata r))
  rw [List.append_nil] at hpaint
  exact hpaint

/-- Only the rows of a table can stop it. -/
theorem fault?_paint (e : Element α) (r : Record) (scale : α) :
    (paint e r scale).fault? =
      (Script.all (paintRows e scale (sourceOf e.metadata r) 0 (bodyTop e scale) (rowCount e.metadata))).fault? := by
  have hheaders := (comesTo_paintHeaders e scale).fault
  have hframe := (comesTo_paintFrame e scale).fault
  have hnote := (comesTo_overflowNote e.metadata (sourceOf e.metadata r)).fault
  simp only [paint, Script.fault?, Drawing.fault?_isolated, hheaders, hframe, hnote, Option.none_or, Option.or_none]

/-- Only the cells of a row can stop it. -/
theorem fault?_paintRow (e : Element α) (scale : α) (source : Source) (row : Nat) (top : α) :
    (paintRow e scale source row top).fault? =
      (Script.all ((columns e).map (paintCell e scale source row top))).fault? := by
  simp only [paintRow, Script.fault?]
  cases e.style.altRowColor with
  | none => rfl
  | some color => rw [(ComesTo.when fun _ => ComesTo.act _).fault, Option.none_or, Option.none_or]

/-- A cell stops at the fault with which it is read. -/
theorem fault?_paintCell (e : Element α) (scale : α) (source : Source) (row : Nat) (top : α) {column : Nat}
    (h : column < colCount e.metadata) :
    (paintCell e scale source row top (columnAt e column)).fault? =
      match source.cell (colCount e.metadata) row column (e.metadata.headers.getD column "") with
      | .ok _ => none
      | .error fault => some fault := by
  show (Script.tryIt (source.cell (colCount e.metadata) row column (e.metadata.headers.getD column "")) _).fault? = _
  cases source.cell (colCount e.metadata) row column (e.metadata.headers.getD column "") with
  | error fault => rfl
  | ok cell => exact (comesTo_field e h _ _ _ _).fault

/-- A table is painted to its end exactly if its cells can be read. -/
theorem fault?_paint_eq_none : (paint e r scale).fault? = none ↔ ∃ grid, HasCells e.metadata r grid := by
  constructor
  · intro h
    rw [fault?_paint, paintRows_eq_map, Script.fault?_all_eq_none] at h
    let read (row column : Nat) :=
      (sourceOf e.metadata r).cell (colCount e.metadata) row column (e.metadata.headers.getD column "")
    refine ⟨fun row column => (read row column).toOption.getD ⟨"", false⟩, fun row hrow column hcolumn => ?_⟩
    have hcells := h _ (List.mem_map_of_mem (List.mem_range.2 hrow))
    rw [fault?_paintRow, columns_eq_map_range, List.map_map, Script.fault?_all_eq_none] at hcells
    have hcell := hcells _ (List.mem_map_of_mem (List.mem_range.2 hcolumn))
    rw [Function.comp_apply, fault?_paintCell _ _ _ _ _ hcolumn, Nat.zero_add] at hcell
    show read row column = .ok ((read row column).toOption.getD ⟨"", false⟩)
    cases hread : read row column with
    | ok cell => rfl
    | error fault =>
      rw [show (sourceOf e.metadata r).cell _ row column _ = .error fault from hread] at hcell
      cases hcell
  · rintro ⟨grid, hgrid⟩
    exact (comesTo_paint scale hgrid).fault

end ReportCard.Table
