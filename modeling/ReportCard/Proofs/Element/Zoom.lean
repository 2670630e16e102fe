import Mathlib.Algebra.Order.Field.Rat
import Mathlib.Tactic.Ring
import ReportCard.Painting.Page
import ReportCard.Proofs.Drawing.Relation
import ReportCard.Proofs.Record.Writing
import ReportCard.Proofs.Table.Proportion

/-!
# Zooming in on an element

Painting an element that is `k` times as large, with a scale that is `k` times as large, makes the same drawings at
`k` times the distance from the upper left corner (`Element.rel_paint_zoom`).  Lines stay as wide as they are, and so
does the margin that a text in a cell keeps to its sides.
-/

namespace ReportCard

/-- A drawing and the same drawing `k` times as large, except that a text in a box keeps a margin to either side.  What
is drawn and in which colors, fonts and line widths is the same; nothing is said about font sizes. -/
def Drawing.ZoomedBy (k margin : Rat) : Drawing Rat → Drawing Rat → Prop
  | saveState, saveState | restoreState, restoreState => True
  | fillRect b color, fillRect b' color' => b' = b.map (k * ·) ∧ color' = color
  | strokeRect b color lineWidth dash, strokeRect b' color' lineWidth' dash' =>
    b' = b.map (k * ·) ∧ color' = color ∧ lineWidth' = lineWidth ∧ dash' = dash
  | line x1 y1 x2 y2 color lineWidth, line x1' y1' x2' y2' color' lineWidth' =>
    x1' = k * x1 ∧ y1' = k * y1 ∧ x2' = k * x2 ∧ y2' = k * y2 ∧ color' = color ∧ lineWidth' = lineWidth
  | textBox text x y width l align, textBox text' x' y' width' l' align' =>
    text' = text ∧ x' = k * x ∧ y' = k * y ∧ width' = k * width ∧ l'.fontName = l.fontName ∧ l'.color = l.color ∧
      align' = align
  | textCell text b l, textCell text' b' l' =>
    text' = text ∧ b'.x - margin = k * (b.x - margin) ∧ b'.width + 2 * margin = k * (b.width + 2 * margin) ∧
      b'.y = k * b.y ∧ b'.height = k * b.height ∧ l'.fontName = l.fontName ∧ l'.color = l.color
  | image data b, image data' b' => data' = data ∧ b' = b.map (k * ·)
  | _, _ => False

/-- The element with all lengths of its box, its texts and its columns `k` times as large, and borders as they are. -/
def Element.zoom (k : Rat) (e : Element Rat) : Element Rat :=
  { e with
    box := e.box.map (k * ·)
    style := { e.style with fontSize := e.style.fontSize.map (k * ·) }
    metadata := { e.metadata with columnWidths := e.metadata.columnWidths.map (·.map (k * ·)) } }

@[simp]
theorem Element.zoom_box (k : Rat) (e : Element Rat) : (e.zoom k).box = e.box.map (k * ·) := rfl

@[simp]
theorem Element.zoom_style (k : Rat) (e : Element Rat) :
    (e.zoom k).style = { e.style with fontSize := e.style.fontSize.map (k * ·) } :=
  rfl

@[simp]
theorem Element.zoom_metadata (k : Rat) (e : Element Rat) :
    (e.zoom k).metadata = { e.metadata with columnWidths := e.metadata.columnWidths.map (·.map (k * ·)) } :=
  rfl

namespace Scaler

variable (k w reference : Rat)

theorem factor_mul : (⟨k * w, reference⟩ : Scaler Rat).factor = k * (⟨w, reference⟩ : Scaler Rat).factor :=
  mul_div_assoc k w reference

/-- On a page that is `k` times as wide, elements are `k` times as large. -/
theorem apply_mul (e : Element Rat) :
    (⟨k * w, reference⟩ : Scaler Rat).apply e = ((⟨w, reference⟩ : Scaler Rat).apply e).zoom k := by
  have hscale : (⟨k * w, reference⟩ : Scaler Rat).scale = (k * ·) ∘ (⟨w, reference⟩ : Scaler Rat).scale := by
    funext x
    simp only [scale, factor_mul, Function.comp_apply]
    ring
  simp [apply, Element.zoom, box, Box.map, hscale, Function.comp_def]

end Scaler

variable {k : Rat}

/-! ### The layout of tables -/

namespace Table

/-- The column of a table that is `k` times as large. -/
def Column.zoom (k : Rat) (c : Column Rat) : Column Rat := { c with left := k * c.left, width := k * c.width }

private theorem columnWidths_zoom (hk : 0 < k) (weights : Option (List Rat)) (width : Rat) (cols : Nat) :
    columnWidths (weights.map (·.map (k * ·))) (k * width) cols = (columnWidths weights width cols).map (k * ·) := by
  rw [columnWidths_mul_weights hk, columnWidths_mul_width]

private theorem columnsFrom_zoom (i : Nat) (left : Rat) (l : List (String × Rat)) :
    columnsFrom i (k * left) (l.map (Prod.map id (k * ·))) = (columnsFrom i left l).map (Column.zoom k) := by
  induction l generalizing i left with
  | nil => rfl
  | cons c l ih =>
    simp only [List.map_cons, columnsFrom, Prod.map, ← mul_add, ih]
    simp [Column.zoom]

private theorem columns_zoom (hk : 0 < k) (e : Element Rat) : columns (e.zoom k) = (columns e).map (Column.zoom k) := by
  rw [columns, columns, ← columnsFrom_zoom, ← List.zip_map_right, widths, widths, ← columnWidths_zoom hk]
  rfl

private theorem headerHeight_zoom (e : Element Rat) (scale : Rat) :
    headerHeight (e.zoom k) (k * scale) = k * headerHeight e scale := by
  show (if showsHeader e then _ else _) = k * (if showsHeader e then _ else _)
  split
  · ring
  · exact (mul_zero k).symm

private theorem rowHeight_zoom (e : Element Rat) (scale : Rat) :
    rowHeight (e.zoom k) (k * scale) = k * rowHeight e scale := by
  rw [rowHeight, headerHeight_zoom]
  show (k * e.box.height - _) / _ = _
  rw [rowHeight, ← mul_sub, mul_div_assoc]
  rfl

private theorem bodyTop_zoom (e : Element Rat) (scale : Rat) :
    bodyTop (e.zoom k) (k * scale) = k * bodyTop e scale := by
  rw [bodyTop, headerHeight_zoom]
  show (if showsHeader e then k * e.box.y + _ else k * e.box.y) = k * (if showsHeader e then _ else _)
  split
  · rw [← mul_add]
  · rfl

private theorem below_zoom (top height : Rat) (n : Nat) : below (k * top) (k * height) n = k * below top height n := by
  induction n generalizing top with
  | zero => rfl
  | succ n ih => rw [below, ← mul_add, ih, below]

private theorem bottom_zoom (e : Element Rat) (scale : Rat) : bottom (e.zoom k) (k * scale) = k * bottom e scale := by
  rw [bottom, bodyTop_zoom, rowHeight_zoom, below_zoom]
  rfl

/-! ### Tables -/

open Drawing (ZoomedBy)
open Script (Rel)

private theorem rel_rule (e : Element Rat) (x1 y1 x2 y2 : Rat) :
    Rel (ZoomedBy k 2) (.act (rule e x1 y1 x2 y2)) (.act (rule (e.zoom k) (k * x1) (k * y1) (k * x2) (k * y2))) :=
  .act ⟨rfl, rfl, rfl, rfl, rfl, rfl⟩

private theorem rel_divider (e : Element Rat) (c : Column Rat) (top height : Rat) :
    Rel (ZoomedBy k 2) (divider e c top height) (divider (e.zoom k) (c.zoom k) (k * top) (k * height)) := by
  unfold divider
  simp only [Column.zoom, ← mul_add]
  exact .when (rel_rule ..)

private theorem rel_cellText (c : Column Rat) (top height : Rat) (s : String) {l l' : Lettering Rat}
    (hname : l'.fontName = l.fontName) (hcolor : l'.color = l.color) :
    Rel (ZoomedBy k 2) (cellText c top height s l) (cellText (c.zoom k) (k * top) (k * height) s l') := by
  refine .when (.act ⟨rfl, ?_, ?_, rfl, rfl, hname, hcolor⟩)
  · simp [Column.zoom, Scalar.ofNat]
  · simp only [Column.zoom, Scalar.ofNat]
    push_cast
    ring

private theorem rel_paintHeaders (hk : 0 < k) (e : Element Rat) (scale : Rat) :
    Rel (ZoomedBy k 2) (paintHeaders e scale) (paintHeaders (e.zoom k) (k * scale)) := by
  refine .when (.seq (.act ⟨?_, rfl⟩) ?_)
  · simp [headerHeight_zoom, Box.map]
  · rw [columns_zoom hk, List.map_map]
    refine .all_map fun c _ => ?_
    simp only [Function.comp_apply, paintHeader, headerHeight_zoom]
    exact .seq (rel_cellText c _ _ _ rfl rfl) (rel_divider e c _ _)

private theorem rel_paintCell (e : Element Rat) (scale : Rat) (source : Source) (row : Nat) (top : Rat)
    (c : Column Rat) :
    Rel (ZoomedBy k 2) (paintCell e scale source row top c)
      (paintCell (e.zoom k) (k * scale) source row (k * top) (c.zoom k)) := by
  simp only [paintCell, rowHeight_zoom]
  exact .tryIt fun cell => .seq (rel_cellText c _ _ _ rfl rfl) (rel_divider e c _ _)

private theorem rel_paintRow (hk : 0 < k) (e : Element Rat) (scale : Rat) (source : Source) (row : Nat) (top : Rat) :
    Rel (ZoomedBy k 2) (paintRow e scale source row top) (paintRow (e.zoom k) (k * scale) source row (k * top)) := by
  simp only [paintRow, Element.zoom_style]
  refine .seq ?_ (.seq ?_ ?_)
  · cases e.style.altRowColor with
    | none => exact .done
    | some color => exact .when (.act ⟨by simp [rowHeight_zoom, Box.map], rfl⟩)
  · have h := rel_rule (k := k) e e.box.x top (e.box.x + e.box.width) top
    rw [mul_add] at h
    exact h
  · rw [columns_zoom hk, List.map_map]
    exact .all_map fun c _ => rel_paintCell e scale source row top c

private theorem rel_paintRows (hk : 0 < k) (e : Element Rat) (scale : Rat) (source : Source) (row : Nat) (top : Rat)
    (n : Nat) :
    List.Forall₂ (Rel (ZoomedBy k 2)) (paintRows e scale source row top n)
      (paintRows (e.zoom k) (k * scale) source row (k * top) n) := by
  induction n generalizing row top with
  | zero => exact .nil
  | succ n ih =>
    rw [paintRows, paintRows, rowHeight_zoom, ← mul_add]
    exact .cons (rel_paintRow hk e scale source row top) (ih _ _)

private theorem rel_paintFrame (hk : 0 < k) (e : Element Rat) (scale : Rat) :
    Rel (ZoomedBy k 2) (paintFrame e scale) (paintFrame (e.zoom k) (k * scale)) := by
  have hlt : Scalar.lt (e.zoom k).box.y (bottom (e.zoom k) (k * scale)) = Scalar.lt e.box.y (bottom e scale) := by
    rw [bottom_zoom]
    simp [Scalar.lt, Box.map, hk]
  unfold paintFrame
  dsimp only
  rw [hlt, bottom_zoom]
  refine .when (.acts (.cons ?_ (.cons ?_ .nil)))
  · exact ⟨rfl, rfl, (mul_add ..).symm, rfl, rfl, rfl⟩
  · exact ⟨by simp [Box.map, mul_sub], rfl, rfl, rfl⟩

private theorem rel_overflowNote (m : Metadata Rat) (source : Source) :
    Rel (ZoomedBy k 2) (overflowNote m source) (overflowNote m source) := by
  unfold overflowNote
  cases m.tableKind with
  | none => exact .done
  | some kind => exact .when (.note _)

theorem rel_paint (hk : 0 < k) (e : Element Rat) (r : Record) (scale : Rat) :
    Rel (ZoomedBy k 2) (paint e r scale) (paint (e.zoom k) r (k * scale)) := by
  have hrows := rel_paintRows hk e scale (sourceOf e.metadata r) 0 (bodyTop e scale) (rowCount e.metadata)
  unfold paint
  dsimp only
  rw [bodyTop_zoom]
  refine .seq (.isolated trivial trivial (.seq (rel_paintHeaders hk e scale) (.seq (.all hrows) ?_))) ?_
  · exact rel_paintFrame hk e scale
  · exact rel_overflowNote e.metadata (sourceOf e.metadata r)

end Table

/-! ### Other elements -/

namespace Element

open Drawing (ZoomedBy)
open Script (Rel)

private theorem rel_edge (m : Rat) (e : Element Rat) : Rel (ZoomedBy k m) e.edge (e.zoom k).edge := by
  simp only [edge, zoom_style]
  split
  · exact .act ⟨rfl, rfl, rfl, rfl⟩
  · cases e.style.borderBottom with
    | none => exact .done
    | some rule => exact .tryIt fun r => .act ⟨rfl, (mul_add ..).symm, (mul_add ..).symm, (mul_add ..).symm, rfl, rfl⟩

private theorem rel_paintShape (m : Rat) (e : Element Rat) :
    Rel (ZoomedBy k m) e.paintShape (e.zoom k).paintShape := by
  refine .isolated trivial trivial (.seq ?_ (rel_edge m e))
  simp only [zoom_style]
  cases e.style.backgroundColor with
  | none => exact .done
  | some color => exact .act ⟨rfl, rfl⟩

private theorem rel_paintContent (m : Rat) (e : Element Rat) (content : String) :
    Rel (ZoomedBy k m) (e.paintContent content) ((e.zoom k).paintContent content) := by
  unfold paintContent
  split
  · exact .done
  · exact .tryIt fun face => .isolated trivial trivial (.act ⟨rfl, rfl, rfl, rfl, rfl, rfl, rfl⟩)

private theorem rel_paintDynamic (m : Rat) (e : Element Rat) (r : Record) :
    Rel (ZoomedBy k m) (e.paintDynamic r) ((e.zoom k).paintDynamic r) :=
  .tryIt fun content => .seq (.when (.note _)) (rel_paintContent m e content)

private theorem rel_paintImageError (e : Element Rat) (scale : Rat) :
    Rel (ZoomedBy k 5) (e.paintImageError scale) ((e.zoom k).paintImageError (k * scale)) := by
  refine .isolated trivial trivial (.acts (.cons ⟨rfl, rfl, rfl, rfl⟩ (.cons ⟨rfl, ?_, ?_, rfl, rfl, rfl, rfl⟩ .nil)))
  · simp [Box.map, Scalar.ofNat]
  · simp only [zoom_box, Box.map, Scalar.ofNat]
    push_cast
    ring

private theorem rel_paintFailed (e : Element Rat) (reason : String) (scale : Rat) :
    Rel (ZoomedBy k 5) (e.paintFailed reason scale) ((e.zoom k).paintFailed reason (k * scale)) :=
  .seq (.note _) (rel_paintImageError e scale)

private theorem rel_paintLoaded (e : Element Rat) (source : String) (data : ImageData) (scale : Rat) :
    Rel (ZoomedBy k 5) (e.paintLoaded source data scale) ((e.zoom k).paintLoaded source data (k * scale)) :=
  .recover (.isolated trivial trivial (.act ⟨rfl, rfl⟩)) fun _ => .seq (.note _) (rel_paintImageError e scale)

private theorem rel_paintPlaceholder (e : Element Rat) (scale : Rat) :
    Rel (ZoomedBy k 0) (e.paintPlaceholder scale) ((e.zoom k).paintPlaceholder (k * scale)) := by
  refine .isolated trivial trivial (.acts (.cons ⟨rfl, rfl, rfl, rfl⟩ (.cons ⟨rfl, ?_, ?_, rfl, rfl, rfl, rfl⟩ .nil)))
  · simp [Box.map]
  · simp [Box.map]

/-- The margin that a text in a cell keeps to its sides: two points in tables, five in the box for a failed image, and
none in that for a missing one. -/
def margin (e : Element Rat) (r : Record) : Rat :=
  match e.kind with
  | some .table => 2
  | some .image => if (r.sourceText e.metadata.field).isSome then 5 else 0
  | _ => 0

private theorem rel_paintSource (e : Element Rat) (images : Images) (scale : Rat) (source : String) :
    Rel (ZoomedBy k 5) (e.paintSource images scale source) ((e.zoom k).paintSource images (k * scale) source) := by
  unfold paintSource
  rcases images.lookup source with _ | data | reason
  · exact rel_paintFailed e _ scale
  · exact rel_paintLoaded e source data scale
  · exact rel_paintFailed e reason scale

private theorem rel_paintImage (e : Element Rat) (r : Record) (images : Images) (scale : Rat) :
    Rel (ZoomedBy k (if (r.sourceText e.metadata.field).isSome then 5 else 0)) (e.paintImage r images scale)
      ((e.zoom k).paintImage r images (k * scale)) := by
  simp only [paintImage, zoom_metadata]
  cases hsource : r.imageSource e.metadata.field with
  | error fault => exact .fail fault
  | ok source? =>
    rw [Record.sourceText_of_imageSource hsource]
    cases source? with
    | none => exact .when (rel_paintPlaceholder e scale)
    | some source => exact rel_paintSource e images scale source

/-- An element that is `k` times as large is painted `k` times as large. -/
theorem rel_paint_zoom (hk : 0 < k) (e : Element Rat) (r : Record) (images : Images) (scale : Rat) :
    Rel (ZoomedBy k (e.margin r)) (e.paint r images scale) ((e.zoom k).paint r images (k * scale)) := by
  have hkind : (e.zoom k).kind = e.kind := rfl
  unfold paint margin
  rw [hkind]
  rcases e.kind with _ | _ | _ | _ | _ | _ | _
  · exact .done
  · exact rel_paintShape 0 e
  · exact rel_paintShape 0 e
  · exact rel_paintContent 0 e _
  · exact rel_paintDynamic 0 e r
  · exact rel_paintImage e r images scale
  · exact Table.rel_paint hk e r scale

end Element

end ReportCard
