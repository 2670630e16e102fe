import Mathlib.Algebra.Order.BigOperators.Group.List
import Mathlib.Tactic.Linarith
import ReportCard.Proofs.Element.Reading
import ReportCard.Proofs.Page.Exact
import ReportCard.Proofs.Table.Tiling

/-!
# How far a table reaches

The header band of a table is as high as its scale says, whatever the height of its box, and the weights of its columns
may be negative.  So a table may reach beyond its box: exactly if the band is higher than the box, or if a divider falls
to one of its sides (`Table.paint_stays_in_iff`).  Where the band fits, no rectangle is turned over, and the rules go
from top to bottom.
-/

namespace ReportCard

/-! ### Boxes of elements -/

theorem Exact.nonneg_of_rat? {x : Float} {q : Rat} (hq : rat? x = some q) (hx : ¬x < 0.0) : 0 ≤ q := by
  rw [lt_zero_iff_unpack] at hx
  unfold rat? ofFloat at hq
  cases hu : x.toModel.unpack with
  | notANumber => simp [hu] at hq
  | infinity s => simp [hu] at hq
  | zero s =>
    rw [hu] at hq
    cases s <;> simp [signed, isNegative] at hq <;> exact hq.le
  | finite s m e hm =>
    rw [hu] at hx hq
    cases s with
    | negative => exact absurd rfl hx
    | positive =>
      have hpow : (0 : Rat) ≤ (2 : Rat) ^ e := zpow_nonneg (by norm_num) e
      rw [← Option.some.inj hq]
      exact mul_nonneg (Int.cast_nonneg (Int.natCast_nonneg m)) hpow

namespace Element

private theorem nonneg_of_extent {x : Float} {q : Rat} (hq : Exact.rat? (extent x) = some q) : 0 ≤ q := by
  unfold extent at hq
  split at hq
  · exact Exact.nonneg_of_rat? hq (by decide)
  · rename_i hx
    exact Exact.nonneg_of_rat? hq hx

private theorem exists_extents {v : Value} {e : Element Float} (hread : ofValue? v = .ok (some e)) :
    ∃ width height, e.box.width = extent width ∧ e.box.height = extent height := by
  obtain ⟨es, -, hes⟩ := exists_entries_of_ofValue? hread
  obtain ⟨width, height, -, -, hextents⟩ := extents_of_boxOfEntries (ofEntries_eq_ok_iff.1 hes).box
  exact ⟨width, height, hextents⟩

private theorem rat?_extents {e : Element Float} {q : Element Rat} (hq : e.rational? = some q) :
    Exact.rat? e.box.width = some q.box.width ∧ Exact.rat? e.box.height = some q.box.height := by
  unfold rational? at hq
  split at hq
  · rename_i hfinite
    have hrat : ∀ z ∈ e.lengths, Exact.rat? z = some ((Exact.rat? z).getD 0) := fun z hz => by
      obtain ⟨p, hp⟩ := Option.isSome_iff_exists.1 (hfinite z hz)
      rw [hp, Option.getD_some]
    rw [← Option.some.inj hq]
    exact ⟨hrat _ (by simp [lengths]), hrat _ (by simp [lengths])⟩
  · cases hq

/-- An element that has been read is no narrower and no lower than nothing. -/
theorem nonneg_of_rational? {v : Value} {e : Element Float} {q : Element Rat} (hread : ofValue? v = .ok (some e))
    (hq : e.rational? = some q) : 0 ≤ q.box.width ∧ 0 ≤ q.box.height := by
  obtain ⟨width, height, hwidth, hheight⟩ := exists_extents hread
  obtain ⟨hw, hh⟩ := rat?_extents hq
  rw [hwidth] at hw
  rw [hheight] at hh
  exact ⟨nonneg_of_extent hw, nonneg_of_extent hh⟩

end Element

/-! ### Drawings in a box -/

/-- The point lies in the box. -/
def Box.Holds (b : Box Rat) (x y : Rat) : Prop := (b.x ≤ x ∧ x ≤ b.x + b.width) ∧ b.y ≤ y ∧ y ≤ b.y + b.height

instance (b : Box Rat) (x y : Rat) : Decidable (b.Holds x y) := inferInstanceAs (Decidable ((_ ∧ _) ∧ _))

namespace Drawing

/-- The area or the rule that is drawn lies in the box; of texts and images nothing is said. -/
def StaysIn (b : Box Rat) : Drawing Rat → Prop
  | fillRect a _ | strokeRect a _ _ _ => b.Holds a.x a.y ∧ b.Holds (a.x + a.width) (a.y + a.height)
  | line x1 y1 x2 y2 _ _ => b.Holds x1 y1 ∧ b.Holds x2 y2
  | _ => True

instance (b : Box Rat) : DecidablePred (StaysIn b)
  | fillRect .. => inferInstanceAs (Decidable (_ ∧ _))
  | strokeRect .. => inferInstanceAs (Decidable (_ ∧ _))
  | line .. => inferInstanceAs (Decidable (_ ∧ _))
  | saveState | restoreState | textBox .. | textCell .. | image .. => inferInstanceAs (Decidable True)

/-- The area that is drawn goes to the right and downwards, if anywhere. -/
def IsUpright : Drawing Rat → Prop
  | fillRect a _ | strokeRect a _ _ _ => 0 ≤ a.width ∧ 0 ≤ a.height
  | _ => True

/-- The height at which a level rule is drawn. -/
def level? : Drawing Rat → Option Rat
  | line _ y1 _ y2 _ _ => if y1 = y2 then some y1 else none
  | _ => none

/-- The heights of the level rules among drawings, in the order in which they are drawn. -/
def levels (ds : List (Drawing Rat)) : List Rat := ds.filterMap level?

private theorem mem_levels {ds : List (Drawing Rat)} {y : Rat} : y ∈ levels ds ↔ ∃ d ∈ ds, d.level? = some y :=
  List.mem_filterMap

private theorem levels_append (ds ds' : List (Drawing Rat)) : levels (ds ++ ds') = levels ds ++ levels ds' :=
  List.filterMap_append

private theorem levels_flatMap {β : Type} (l : List β) (f : β → List (Drawing Rat)) :
    levels (l.flatMap f) = l.flatMap fun b => levels (f b) :=
  List.filterMap_flatMap

end Drawing

namespace Table

open Drawing (StaysIn IsUpright levels)

variable (e : Element Rat) (scale : Rat)

/-- Every divider of a table stands between its sides. -/
def DividersFit : Prop :=
  ∀ column, column + 1 < colCount e.metadata →
    0 ≤ ((widths e).take (column + 1)).sum ∧ ((widths e).take (column + 1)).sum ≤ e.box.width

variable {e scale}

theorem dividersFit_iff :
    DividersFit e ↔ ∀ column, column + 1 < colCount e.metadata →
      e.box.x ≤ columnLeft e (column + 1) ∧ columnLeft e (column + 1) ≤ e.box.x + e.box.width := by
  refine forall_congr' fun column => imp_congr_right fun _ => ?_
  rw [columnLeft_eq, le_add_iff_nonneg_right, add_le_add_iff_left]

private theorem nonneg_of_mem_widths (hwidth : 0 ≤ e.box.width)
    (h : ∀ ws, e.metadata.columnWidths = some ws → ∀ w ∈ ws, 0 ≤ w) {w : Rat} (hw : w ∈ widths e) : 0 ≤ w := by
  have hequal : ∀ w ∈ List.replicate (colCount e.metadata) (e.box.width / Scalar.ofNat (colCount e.metadata)),
      0 ≤ w := fun w hw => by
    rw [List.eq_of_mem_replicate hw]
    exact div_nonneg hwidth (Nat.cast_nonneg _)
  unfold widths columnWidths at hw
  cases hweights : e.metadata.columnWidths with
  | none =>
    rw [hweights] at hw
    exact hequal w hw
  | some ws =>
    simp only [hweights] at hw
    split at hw
    · rename_i hws
      obtain ⟨v, hv, rfl⟩ := List.mem_map.1 hw
      have hpos : 0 < Scalar.sum ws := of_decide_eq_true hws.2
      exact mul_nonneg (div_nonneg (h ws hweights v hv) hpos.le) hwidth
    · exact hequal w hw

/-- Dividers fit between the sides if no column is weighed less than nothing. -/
theorem dividersFit_of_nonneg (hwidth : 0 ≤ e.box.width)
    (h : ∀ ws, e.metadata.columnWidths = some ws → ∀ w ∈ ws, 0 ≤ w) : DividersFit e := by
  intro column hcolumn
  have hnonneg : ∀ w ∈ widths e, 0 ≤ w := fun w => nonneg_of_mem_widths hwidth h
  have hsum : ((widths e).take (column + 1)).sum + ((widths e).drop (column + 1)).sum = e.box.width := by
    rw [List.sum_take_add_sum_drop, widths, sum_columnWidths _ _ (by omega)]
  have htake : 0 ≤ ((widths e).take (column + 1)).sum :=
    List.sum_nonneg fun w hw => hnonneg w (List.mem_of_mem_take hw)
  have hdrop : 0 ≤ ((widths e).drop (column + 1)).sum :=
    List.sum_nonneg fun w hw => hnonneg w (List.mem_of_mem_drop hw)
  exact ⟨htake, by linarith⟩

/-! ### Where rows stand -/

theorem headerHeight_nonneg (hscale : 0 < scale) : 0 ≤ headerHeight e scale := by
  rw [headerHeight_eq]
  split
  · linarith
  · exact le_rfl

section Band

variable (hband : headerHeight e scale ≤ e.box.height)

include hband

private theorem rowHeight_nonneg : 0 ≤ rowHeight e scale :=
  div_nonneg (sub_nonneg.2 hband) (Nat.cast_nonneg _)

private theorem rowTop_mono {row row' : Nat} (h : row ≤ row') : rowTop e scale row ≤ rowTop e scale row' := by
  rw [rowTop_eq, rowTop_eq, add_le_add_iff_left]
  exact mul_le_mul_of_nonneg_right (Nat.cast_le.2 h) (rowHeight_nonneg hband)

private theorem bottom_le : bottom e scale ≤ e.box.y + e.box.height := by
  rcases Nat.eq_zero_or_pos (rowCount e.metadata) with hrows | hrows
  · rw [bottom_of_eq_zero e scale hrows, add_le_add_iff_left]
    exact hband
  · exact (bottom_of_pos e scale hrows).le

/-- The rows of a table, and where they end, lie between the upper and the lower side of its box. -/
private theorem rowTop_between (hscale : 0 < scale) {row : Nat} (h : row ≤ rowCount e.metadata) :
    e.box.y ≤ rowTop e scale row ∧ rowTop e scale row ≤ e.box.y + e.box.height := by
  have hupper : e.box.y ≤ rowTop e scale 0 := by
    rw [rowTop_eq, Nat.cast_zero, zero_mul, add_zero]
    exact le_add_of_nonneg_right (headerHeight_nonneg hscale)
  exact ⟨hupper.trans (rowTop_mono hband (Nat.zero_le row)), (rowTop_mono hband h).trans (bottom_le hband)⟩

end Band

private theorem rowTop_add (row : Nat) : rowTop e scale row + rowHeight e scale = rowTop e scale (row + 1) := by
  rw [rowTop_eq, rowTop_eq, Nat.cast_succ]
  ring

/-! ### Drawings in the box -/

private theorem staysIn_fieldDrawings {b : Box Rat} {column : Nat} {top height : Rat} {text : String}
    {l : Lettering Rat} :
    (∀ d ∈ fieldDrawings e column top height text l, d.StaysIn b) ↔
      (column + 1 < colCount e.metadata →
        b.Holds (columnLeft e (column + 1)) top ∧ b.Holds (columnLeft e (column + 1)) (top + height)) := by
  constructor
  · intro h hcolumn
    exact h _ (mem_fieldDrawings.2 (.inr ⟨hcolumn, rfl⟩))
  · intro h d hd
    rcases mem_fieldDrawings.1 hd with ⟨-, rfl⟩ | ⟨hcolumn, rfl⟩
    · exact trivial
    · exact h hcolumn

section InBox

variable (hwidth : 0 ≤ e.box.width) (hheight : 0 ≤ e.box.height) (hscale : 0 < scale)
  (hband : headerHeight e scale ≤ e.box.height) {d : Drawing Rat}

include hwidth hscale hband

private theorem staysIn_of_mem_headerDrawings (hfit : DividersFit e) (hd : d ∈ headerDrawings e scale) :
    d.StaysIn e.box := by
  have hright : e.box.x ≤ e.box.x + e.box.width := le_add_of_nonneg_right hwidth
  have hfoot : e.box.y ≤ e.box.y + headerHeight e scale := le_add_of_nonneg_right (headerHeight_nonneg hscale)
  have hlow : e.box.y + headerHeight e scale ≤ e.box.y + e.box.height := (add_le_add_iff_left _).2 hband
  rcases (mem_headerDrawings.1 hd).2 with rfl | ⟨column, -, hd⟩
  · exact ⟨⟨⟨le_rfl, hright⟩, le_rfl, hfoot.trans hlow⟩, ⟨hright, le_rfl⟩, hfoot, hlow⟩
  · refine staysIn_fieldDrawings.2 (fun hcolumn => ?_) d hd
    have hsides := dividersFit_iff.1 hfit column hcolumn
    exact ⟨⟨hsides, le_rfl, hfoot.trans hlow⟩, hsides, hfoot, hlow⟩

private theorem staysIn_of_mem_rowDrawings (hfit : DividersFit e) {grid : Nat → Nat → Cell} {row : Nat}
    (hrow : row < rowCount e.metadata) (hd : d ∈ rowDrawings e scale grid row) : d.StaysIn e.box := by
  have hright : e.box.x ≤ e.box.x + e.box.width := le_add_of_nonneg_right hwidth
  have htop := rowTop_between hband hscale hrow.le
  have hfoot := rowTop_between hband hscale (Nat.succ_le_of_lt hrow)
  rcases mem_rowDrawings.1 hd with ⟨-, color, -, rfl⟩ | rfl | ⟨column, -, hd⟩
  · exact ⟨⟨⟨le_rfl, hright⟩, htop⟩, ⟨hright, le_rfl⟩, by rwa [rowTop_add]⟩
  · exact ⟨⟨⟨le_rfl, hright⟩, htop⟩, ⟨hright, le_rfl⟩, htop⟩
  · refine staysIn_fieldDrawings.2 (fun hcolumn => ?_) d hd
    have hsides := dividersFit_iff.1 hfit column hcolumn
    exact ⟨⟨hsides, htop⟩, hsides, by rwa [rowTop_add]⟩

include hheight

private theorem staysIn_of_mem_frameDrawings (hd : d ∈ frameDrawings e scale) : d.StaysIn e.box := by
  have hright : e.box.x ≤ e.box.x + e.box.width := le_add_of_nonneg_right hwidth
  have hlower : e.box.y ≤ e.box.y + e.box.height := le_add_of_nonneg_right hheight
  have hfoot : e.box.y ≤ bottom e scale ∧ bottom e scale ≤ e.box.y + e.box.height :=
    rowTop_between hband hscale le_rfl
  rcases (mem_frameDrawings.1 hd).2 with rfl | rfl
  · exact ⟨⟨⟨le_rfl, hright⟩, hfoot⟩, ⟨hright, le_rfl⟩, hfoot⟩
  · exact ⟨⟨⟨le_rfl, hright⟩, le_rfl, hlower⟩, ⟨hright, le_rfl⟩, by rwa [add_sub_cancel]⟩

end InBox

/-- The first field of a table with a divider shows whether that divider stands between the sides. -/
private theorem dividersFit_of_staysIn {grid : Nat → Nat → Cell}
    (hshown : showsHeader e = true ∨ 0 < rowCount e.metadata)
    (h : ∀ d ∈ drawings e scale grid, d.StaysIn e.box) : DividersFit e := by
  refine dividersFit_iff.2 fun column hcolumn => ?_
  rcases hshown with hheader | hrows
  · have hfields := staysIn_fieldDrawings.1 (fun d hd => h d (mem_drawings.2 (.inr (.inl
      (mem_headerDrawings.2 ⟨hheader, .inr ⟨column, by omega, hd⟩⟩)))))
    exact (hfields hcolumn).1.1
  · have hfields := staysIn_fieldDrawings.1 (fun d hd => h d (mem_drawings.2 (.inr (.inr (.inl
      ⟨0, hrows, mem_rowDrawings.2 (.inr (.inr ⟨column, by omega, hd⟩))⟩)))))
    exact (hfields hcolumn).1.1

/-- A table stays in its box exactly if its header band is no higher than that, and its dividers fit between its
sides. -/
private theorem staysIn_drawings_iff (hwidth : 0 ≤ e.box.width) (hheight : 0 ≤ e.box.height) (hscale : 0 < scale)
    (grid : Nat → Nat → Cell) :
    (∀ d ∈ drawings e scale grid, d.StaysIn e.box) ↔
      headerHeight e scale ≤ e.box.height ∧ (showsHeader e = true ∨ 0 < rowCount e.metadata → DividersFit e) := by
  constructor
  · intro h
    refine ⟨?_, fun hshown => dividersFit_of_staysIn hshown h⟩
    cases hheader : showsHeader e with
    | false => rwa [headerHeight_eq, hheader]
    | true =>
      have hground := h _ (mem_drawings.2 (.inr (.inl (mem_headerDrawings.2 ⟨hheader, .inl rfl⟩))))
      exact (add_le_add_iff_left e.box.y).1 hground.2.2.2
  · rintro ⟨hband, hfit⟩ d hd
    rcases mem_drawings.1 hd with rfl | hd | ⟨row, hrow, hd⟩ | hd | rfl
    · exact trivial
    · exact staysIn_of_mem_headerDrawings hwidth hscale hband (hfit (.inl (mem_headerDrawings.1 hd).1)) hd
    · exact staysIn_of_mem_rowDrawings hwidth hscale hband (hfit (.inr (by omega))) hrow hd
    · exact staysIn_of_mem_frameDrawings hwidth hheight hscale hband hd
    · exact trivial

private theorem isUpright_of_mem_fieldDrawings {column : Nat} {top height : Rat} {text : String} {l : Lettering Rat}
    {d : Drawing Rat} (h : d ∈ fieldDrawings e column top height text l) : d.IsUpright := by
  rcases mem_fieldDrawings.1 h with ⟨-, rfl⟩ | ⟨-, rfl⟩
  · exact trivial
  · exact trivial

/-- Where the header band fits, no area is turned over. -/
private theorem isUpright_of_mem_drawings (hwidth : 0 ≤ e.box.width) (hscale : 0 < scale)
    (hband : headerHeight e scale ≤ e.box.height) {grid : Nat → Nat → Cell} {d : Drawing Rat}
    (hd : d ∈ drawings e scale grid) : d.IsUpright := by
  rcases mem_drawings.1 hd with rfl | hd | ⟨row, -, hd⟩ | hd | rfl
  · exact trivial
  · rcases (mem_headerDrawings.1 hd).2 with rfl | ⟨column, -, hd⟩
    · exact ⟨hwidth, headerHeight_nonneg hscale⟩
    · exact isUpright_of_mem_fieldDrawings hd
  · rcases mem_rowDrawings.1 hd with ⟨-, color, -, rfl⟩ | rfl | ⟨column, -, hd⟩
    · exact ⟨hwidth, rowHeight_nonneg hband⟩
    · exact trivial
    · exact isUpright_of_mem_fieldDrawings hd
  · obtain ⟨hlt, rfl | rfl⟩ := mem_frameDrawings.1 hd
    · exact trivial
    · exact ⟨hwidth, sub_nonneg.2 (of_decide_eq_true hlt : e.box.y < bottom e scale).le⟩
  · exact trivial

/-! ### Rules from top to bottom -/

private theorem level?_rule (x1 y1 x2 y2 : Rat) :
    (rule e x1 y1 x2 y2).level? = if y1 = y2 then some y1 else none :=
  rfl

/-- A divider is level only where its field has no height. -/
private theorem level?_of_mem_fieldDrawings {column : Nat} {top height : Rat} {text : String} {l : Lettering Rat}
    {d : Drawing Rat} {y : Rat} (hd : d ∈ fieldDrawings e column top height text l) (hy : d.level? = some y) :
    y = top ∧ height = 0 := by
  rcases mem_fieldDrawings.1 hd with ⟨-, rfl⟩ | ⟨-, rfl⟩
  · cases hy
  · rw [level?_rule] at hy
    split at hy
    · rename_i hlevel
      exact ⟨(Option.some.inj hy).symm, by linarith⟩
    · cases hy

private theorem levels_headerDrawings (hscale : 0 < scale) : levels (headerDrawings e scale) = [] := by
  refine List.eq_nil_iff_forall_not_mem.2 fun y hy => ?_
  obtain ⟨d, hd, hy⟩ := Drawing.mem_levels.1 hy
  obtain ⟨hheader, rfl | ⟨column, -, hd⟩⟩ := mem_headerDrawings.1 hd
  · cases hy
  · have hzero := (level?_of_mem_fieldDrawings hd hy).2
    rw [headerHeight_eq, if_pos hheader] at hzero
    linarith

private theorem eq_of_mem_levels_rowDrawings {grid : Nat → Nat → Cell} {row : Nat} {y : Rat}
    (hy : y ∈ levels (rowDrawings e scale grid row)) : y = rowTop e scale row := by
  obtain ⟨d, hd, hy⟩ := Drawing.mem_levels.1 hy
  rcases mem_rowDrawings.1 hd with ⟨-, color, -, rfl⟩ | rfl | ⟨column, -, hd⟩
  · cases hy
  · rw [level?_rule, if_pos rfl] at hy
    exact (Option.some.inj hy).symm
  · exact (level?_of_mem_fieldDrawings hd hy).1

private theorem levels_frameDrawings :
    levels (frameDrawings e scale) = if Scalar.lt e.box.y (bottom e scale) then [bottom e scale] else [] := by
  unfold frameDrawings
  split
  · rw [levels, List.filterMap_cons, level?_rule, if_pos rfl]
    rfl
  · rfl

/-- Where the header band fits, the level rules go from top to bottom. -/
private theorem pairwise_levels (hscale : 0 < scale) (hband : headerHeight e scale ≤ e.box.height)
    (grid : Nat → Nat → Cell) : (levels (drawings e scale grid)).Pairwise (· ≤ ·) := by
  have hlevels : levels (drawings e scale grid) =
      (List.range (rowCount e.metadata)).flatMap (fun row => levels (rowDrawings e scale grid row)) ++
        if Scalar.lt e.box.y (bottom e scale) then [bottom e scale] else [] := by
    show levels (_ ++ _ ++ _) = _
    rw [Drawing.levels_append, Drawing.levels_append, Drawing.levels_append, Drawing.levels_flatMap,
      levels_headerDrawings hscale, levels_frameDrawings]
    exact List.append_nil _
  rw [hlevels, List.pairwise_append, List.pairwise_flatMap]
  refine ⟨⟨fun row _ => ?_, ?_⟩, ?_, ?_⟩
  · -- within a row all of them are at its top
    refine List.pairwise_of_forall_mem_list fun y hy z hz => ?_
    rw [eq_of_mem_levels_rowDrawings hy, eq_of_mem_levels_rowDrawings hz]
  · refine List.pairwise_lt_range.imp fun {row row'} h y hy z hz => ?_
    rw [eq_of_mem_levels_rowDrawings hy, eq_of_mem_levels_rowDrawings hz]
    exact rowTop_mono hband h.le
  · split <;> simp
  · intro y hy z hz
    obtain ⟨row, hrow, hy⟩ := List.mem_flatMap.1 hy
    split at hz
    · rw [List.mem_singleton.1 hz, eq_of_mem_levels_rowDrawings hy]
      exact rowTop_mono hband (List.mem_range.1 hrow).le
    · cases hz

/-! ### Tables -/

/-- A table that has been read, and whose painting comes to its end, stays in its box exactly if the header band is no
higher than the box and every divider stands between its sides, as it does if no column is weighed less than nothing.
Where the band fits, no area is turned over, and the level rules, which are those above the rows and the one below the
last, go from top to bottom. -/
theorem paint_stays_in_iff {v : Value} {e : Element Float} {q : Element Rat} {size : Size Rat} {r : Record}
    {scale : Rat} {start : Recording Rat} (hread : Element.ofValue? v = .ok (some e)) (hq : e.rational? = some q)
    (hscale : 0 < scale)
    (hreturns : ((Recording.accepting size).paint (paint q r scale) start).fault = none) :
    ∃ ds, ((Recording.accepting size).paint (paint q r scale) start).state = start ++ ds.toArray ∧
      ((∀ d ∈ ds, d.StaysIn q.box) ↔
        headerHeight q scale ≤ q.box.height ∧ (showsHeader q = true ∨ 0 < rowCount q.metadata → DividersFit q)) ∧
      ((∀ ws, q.metadata.columnWidths = some ws → ∀ w ∈ ws, 0 ≤ w) → DividersFit q) ∧
      (headerHeight q scale ≤ q.box.height →
        (∀ d ∈ ds, d.IsUpright) ∧ (levels ds).Pairwise (· ≤ ·) ∧
          ∀ row < rowCount q.metadata, rowTop q scale row ∈ levels ds) := by
  obtain ⟨hwidth, hheight⟩ := Element.nonneg_of_rational? hread hq
  rw [Recording.paint_accepting] at hreturns ⊢
  obtain ⟨grid, hgrid⟩ := (fault?_paint_eq_none scale).1 hreturns
  refine ⟨drawings q scale grid, ?_, staysIn_drawings_iff hwidth hheight hscale grid, dividersFit_of_nonneg hwidth,
    fun hband => ⟨fun d => isUpright_of_mem_drawings hwidth hscale hband, pairwise_levels hscale hband grid, ?_⟩⟩
  · rw [(comesTo_paint scale hgrid).actions]
  · intro row hrow
    have hrule : rule q q.box.x (rowTop q scale row) (q.box.x + q.box.width) (rowTop q scale row) ∈
        rowDrawings q scale grid row := mem_rowDrawings.2 (.inr (.inl rfl))
    exact Drawing.mem_levels.2 ⟨_, mem_drawings.2 (.inr (.inr (.inl ⟨row, hrow, hrule⟩))), if_pos rfl⟩

/-- A table with one header, a hundred points wide. -/
def headedTable (height rows : Int) (weights : List Int) : Value :=
  .mapping [("type", .text "table"), ("width", .int 100), ("height", .int height),
    ("style", .mapping [("altRowColor", .text "#eeeeee")]),
    ("metadata", .mapping [("headers", .list [.text "A"]), ("rows", .int rows), ("cols", .int weights.length),
      ("columnWidths", .list (weights.map .int))])]

/-- What a table comes to for an empty record, with exact numbers. -/
def recorded (q : Element Rat) : Outcome (Recording Rat) :=
  (Recording.accepting ⟨600, 800⟩).paint (paint q {} 1) #[]

private theorem exists_rational {v : Value} {p : Element Rat → Bool}
    (h : (Element.ofValue? v).toOption.join.any (fun e => e.rational?.any p) = true) :
    ∃ e q, Element.ofValue? v = .ok (some e) ∧ e.rational? = some q ∧ p q = true := by
  obtain ⟨e, hread, he⟩ := Element.exists_of_any_ofValue? h
  cases hq : e.rational? with
  | none => simp [hq] at he
  | some q => exact ⟨e, q, hread, hq, by rwa [hq] at he⟩

/-- A table with two rows of twenty points stays in its box. -/
theorem paint_stays_in_iff_high :
    ∃ e q, Element.ofValue? (headedTable 62 2 [1, 3]) = .ok (some e) ∧ e.rational? = some q ∧
      (recorded q).fault = none ∧ levels (recorded q).state.toList = [22, 42, 62] ∧
      (∀ d ∈ (recorded q).state.toList, d.StaysIn q.box) ∧ (∀ d ∈ (recorded q).state.toList, d.IsUpright) := by
  obtain ⟨e, q, hread, hq, hp⟩ := exists_rational (v := headedTable 62 2 [1, 3])
    (p := fun q => decide ((recorded q).fault = none ∧ levels (recorded q).state.toList = [22, 42, 62] ∧
      headerHeight q 1 ≤ q.box.height ∧ q.metadata.columnWidths = some [1, 3])) (by decide +kernel)
  obtain ⟨hreturns, hlevels, hband, hweights⟩ := of_decide_eq_true hp
  obtain ⟨ds, hds, hstays, hfit, hupright⟩ := paint_stays_in_iff hread hq one_pos hreturns
  have hstate : (recorded q).state.toList = ds := by
    rw [recorded, hds]
    simp
  have hdividers : DividersFit q := hfit fun ws hws w hw => by
    obtain rfl : [1, 3] = ws := Option.some.inj (hweights.symm.trans hws)
    rcases List.mem_pair.1 hw with rfl | rfl <;> norm_num
  refine ⟨e, q, hread, hq, hreturns, hlevels, ?_⟩
  rw [hstate]
  exact ⟨hstays.2 ⟨hband, fun _ => hdividers⟩, (hupright hband).1⟩

/-- The header band of a table of ten points reaches below it, and its rows go back from there. -/
theorem paint_leaves_low_box :
    ∃ e q, Element.ofValue? (headedTable 10 2 [1]) = .ok (some e) ∧ e.rational? = some q ∧
      (recorded q).fault = none ∧ levels (recorded q).state.toList = [22, 16, 10] ∧
      ¬∀ d ∈ (recorded q).state.toList, d.StaysIn q.box := by
  obtain ⟨e, q, hread, hq, hp⟩ := exists_rational (v := headedTable 10 2 [1])
    (p := fun q => decide ((recorded q).fault = none ∧ levels (recorded q).state.toList = [22, 16, 10] ∧
      ¬∀ d ∈ (recorded q).state.toList, d.StaysIn q.box)) (by decide +kernel)
  exact ⟨e, q, hread, hq, of_decide_eq_true hp⟩

end Table

end ReportCard
