import Mathlib.Algebra.BigOperators.Ring.List
import Mathlib.Algebra.Order.Field.Rat
import Mathlib.Tactic.FieldSimp
import Mathlib.Tactic.Ring
import ReportCard.Proofs.Table.Drawings

/-!
# How a table tiles its box

With exact numbers the loops over rows and columns keep to partial sums: a column begins where the widths of the
columns before it end, and rows of one height follow each other below the header band.  The last column ends at the
right side of the box, and the last row at its lower side (`Table.paint_tiles`).
-/

namespace ReportCard

private theorem foldl_add_rat (x : Rat) (ws : List Rat) : ws.foldl (· + ·) x = x + ws.sum := by
  induction ws generalizing x with
  | nil => simp
  | cons w ws ih => rw [List.foldl_cons, ih, List.sum_cons, add_assoc]

theorem Scalar.sum_rat (ws : List Rat) : Scalar.sum ws = ws.sum :=
  (foldl_add_rat 0 ws).trans (zero_add _)

namespace Table

variable (e : Element Rat) (scale : Rat)

/-! ### Columns -/

/-- The widths of columns add up to the width that is split. -/
theorem sum_columnWidths (weights : Option (List Rat)) (width : Rat) {cols : Nat} (h : 0 < cols) :
    (columnWidths weights width cols).sum = width := by
  have hcols : (cols : Rat) ≠ 0 := Nat.cast_ne_zero.2 h.ne'
  have hequal : (List.replicate cols (width / Scalar.ofNat cols)).sum = width := by
    rw [List.sum_replicate, nsmul_eq_mul]
    exact mul_div_cancel₀ width hcols
  cases weights with
  | none => exact hequal
  | some ws =>
    simp only [columnWidths]
    split
    · rename_i hws
      have htotal : ws.sum ≠ 0 := by
        have hpos : 0 < Scalar.sum ws := of_decide_eq_true hws.2
        rw [Scalar.sum_rat] at hpos
        exact hpos.ne'
      have hmap : (fun w => w / Scalar.sum ws * width) = fun w => w * (width / ws.sum) := by
        funext w
        rw [Scalar.sum_rat, div_mul_eq_mul_div, mul_div_assoc]
      rw [hmap, List.sum_map_mul_right, List.map_id', mul_div_cancel₀ width htotal]
    · exact hequal

/-- A column begins where the widths of the columns before it end. -/
theorem columnLeft_eq (column : Nat) : columnLeft e column = e.box.x + ((widths e).take column).sum :=
  foldl_add_rat e.box.x _

/-- The last column ends where the table ends. -/
theorem columnLeft_colCount (h : 0 < colCount e.metadata) :
    columnLeft e (colCount e.metadata) = e.box.x + e.box.width := by
  rw [columnLeft_eq, List.take_of_length_le (length_widths e).le, widths, sum_columnWidths _ _ h]

/-! ### Rows -/

private theorem below_eq (top height : Rat) (n : Nat) : below top height n = top + n * height := by
  induction n generalizing top with
  | zero => simp [below]
  | succ n ih =>
    rw [below, ih, Nat.cast_succ]
    ring

theorem headerHeight_eq : headerHeight e scale = if showsHeader e then 22 * scale else 0 := rfl

theorem rowHeight_eq (h : 0 < rowCount e.metadata) :
    rowHeight e scale = (e.box.height - headerHeight e scale) / rowCount e.metadata := by
  rw [rowHeight, Nat.max_eq_right h]
  rfl

/-- Rows of one height follow each other below the header band. -/
theorem rowTop_eq (row : Nat) :
    rowTop e scale row = e.box.y + headerHeight e scale + row * rowHeight e scale := by
  have hbody : bodyTop e scale = e.box.y + headerHeight e scale := by
    unfold bodyTop headerHeight
    cases showsHeader e
    · exact (add_zero e.box.y).symm
    · rfl
  rw [rowTop, below_eq, hbody]

/-- A table without rows ends below the header band. -/
theorem bottom_of_eq_zero (h : rowCount e.metadata = 0) : bottom e scale = e.box.y + headerHeight e scale := by
  have hbottom : bottom e scale = rowTop e scale (rowCount e.metadata) := rfl
  rw [hbottom, rowTop_eq, h, Nat.cast_zero, zero_mul, add_zero]

/-- The last row ends where the box ends. -/
theorem bottom_of_pos (h : 0 < rowCount e.metadata) : bottom e scale = e.box.y + e.box.height := by
  have hrows : (rowCount e.metadata : Rat) ≠ 0 := Nat.cast_ne_zero.2 h.ne'
  have hbottom : bottom e scale = rowTop e scale (rowCount e.metadata) := rfl
  rw [hbottom, rowTop_eq, rowHeight_eq _ _ h, mul_div_cancel₀ _ hrows]
  ring

/-- The frame of a table with rows is its box. -/
theorem frameDrawings_of_pos (h : 0 < rowCount e.metadata) (hheight : 0 < e.box.height) :
    frameDrawings e scale =
      [rule e e.box.x (e.box.y + e.box.height) (e.box.x + e.box.width) (e.box.y + e.box.height),
        .strokeRect e.box (.text (borderColor e)) (borderWidth e) none] := by
  have hlt : Scalar.lt e.box.y (e.box.y + e.box.height) = true := decide_eq_true (lt_add_of_pos_right _ hheight)
  rw [frameDrawings, bottom_of_pos e scale h, if_pos hlt, add_sub_cancel_left]

/-! ### Tables -/

/-- A table whose painting comes to its end has drawn its fields side by side in rows one below the other.  Columns
begin at the partial sums of their widths, which add up to the width of the box; rows begin at multiples of their height
below the header band, and end with the box.  A table without rows ends with its header band. -/
theorem paint_tiles {size : Size Rat} {e : Element Rat} {r : Record} {scale : Rat} {start : Recording Rat}
    (hreturns : ((Recording.accepting size).paint (paint e r scale) start).fault = none) :
    let m := e.metadata
    let b := e.box
    let l := layout e scale
    (∃ grid, HasCells m r grid ∧
      ((Recording.accepting size).paint (paint e r scale) start).state = start ++ (drawings e scale grid).toArray) ∧
    l.columnWidths.length = colCount m ∧
    (∀ column < colCount m, l.columnWidths[column]? = some (columnWidth e column)) ∧
    (∀ column, columnLeft e column = b.x + (l.columnWidths.take column).sum) ∧
    (0 < colCount m → columnLeft e (colCount m) = b.x + b.width) ∧
    l.headerHeight = (if showsHeader e then 22 * scale else 0) ∧
    (0 < rowCount m →
      l.rowHeight = (b.height - l.headerHeight) / rowCount m ∧ rowHeight e scale = l.rowHeight ∧
      (∀ row, rowTop e scale row = b.y + l.headerHeight + row * l.rowHeight) ∧
      l.bottom = b.y + b.height ∧
      (0 < b.height → frameDrawings e scale =
        [rule e b.x (b.y + b.height) (b.x + b.width) (b.y + b.height),
          .strokeRect b (.text (borderColor e)) (borderWidth e) none])) ∧
    (rowCount m = 0 → l.bottom = b.y + l.headerHeight) := by
  intro m b l
  rw [Recording.paint_accepting] at hreturns ⊢
  obtain ⟨grid, hgrid⟩ := (fault?_paint_eq_none scale).1 hreturns
  refine ⟨⟨grid, hgrid, ?_⟩, length_widths e, fun column => getElem?_widths, columnLeft_eq e,
    columnLeft_colCount e, headerHeight_eq e scale, fun hrows => ?_, bottom_of_eq_zero e scale⟩
  · rw [(comesTo_paint scale hgrid).actions]
  · have hheight : l.rowHeight = rowHeight e scale := if_neg hrows.ne'
    refine ⟨hheight.trans (rowHeight_eq e scale hrows), hheight.symm, fun row => ?_, bottom_of_pos e scale hrows,
      frameDrawings_of_pos e scale hrows⟩
    rw [hheight]
    exact rowTop_eq e scale row

/-- A table of two rows and three columns, the first of them twice as wide, ten points from the left and twenty from
above. -/
def marksTable : Element Rat :=
  ⟨some .table, "table", ⟨10, 20, 200, 122⟩, {},
    { rows := some 2, cols := some 3, headers := ["Subject", "", "Grade"], tableKind := some .subjects,
      columnWidths := some [2, 1, 1] }, none, none⟩

/-- A record with one result. -/
def marksRecord : Record where
  results := [[("subject", .mapping [("name", .text "Art")]), ("grade", .text "B")]]

theorem paint_tiles_marks :
    let o := (Recording.accepting (⟨600, 800⟩ : Size Rat)).paint (paint marksTable marksRecord 1) #[]
    let l := layout marksTable 1
    o.fault = none ∧
      o.state.toList.filterMap (fun d => match d with
        | .line x₁ y₁ x₂ y₂ _ _ => some [x₁, y₁, x₂, y₂]
        | _ => none) =
        [[110, 20, 110, 42], [160, 20, 160, 42], [10, 42, 210, 42], [110, 42, 110, 92], [160, 42, 160, 92],
          [10, 92, 210, 92], [110, 92, 110, 142], [160, 92, 160, 142], [10, 142, 210, 142]] ∧
      l.columnWidths = [100, 50, 50] ∧
      (∃ grid, HasCells marksTable.metadata marksRecord grid ∧
        o.state = #[] ++ (drawings marksTable 1 grid).toArray) ∧
      columnLeft marksTable 3 = 10 + 200 ∧ l.rowHeight = (122 - l.headerHeight) / (2 : Nat) ∧ l.bottom = 20 + 122 := by
  intro o l
  have hreturns : o.fault = none := by decide +kernel
  obtain ⟨hdrawings, -, -, -, hright, -, hrows, -⟩ := paint_tiles hreturns
  obtain ⟨hheight, -, -, hbottom, -⟩ := hrows (by decide)
  exact ⟨hreturns, by decide +kernel, by decide +kernel, hdrawings, hright (by decide), hheight, hbottom⟩

end Table

end ReportCard
