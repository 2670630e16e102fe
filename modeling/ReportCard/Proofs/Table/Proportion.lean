import Mathlib.Tactic.Linarith
import ReportCard.Page.Scaler
import ReportCard.Proofs.Table.Tiling

/-!
# How columns share a width

With exact numbers the widths of the columns of a table are shares of its width.  They do not change with the unit in
which the weights are given, and grow with the width that is split, so that it does not matter whether a table is scaled
before its width is split or after (`Table.columnWidths_shares`).
-/

namespace ReportCard.Table

variable {weights : Option (List Rat)} {width k : Rat} {cols : Nat}

private theorem sum_mul (k : Rat) (ws : List Rat) : Scalar.sum (ws.map (k * ·)) = k * Scalar.sum ws := by
  rw [Scalar.sum_rat, Scalar.sum_rat, List.sum_map_mul_left, List.map_id']

private theorem isPos_mul (hk : 0 < k) (x : Rat) : Scalar.isPos (k * x) = Scalar.isPos x := by
  simp [Scalar.isPos, Scalar.lt, Scalar.zero, Scalar.ofNat, mul_pos_iff_of_pos_left hk]

/-- Only the proportions of the weights count. -/
theorem columnWidths_mul_weights (hk : 0 < k) :
    columnWidths (weights.map (·.map (k * ·))) width cols = columnWidths weights width cols := by
  cases weights with
  | none => rfl
  | some ws =>
    simp only [columnWidths, Option.map_some, sum_mul, isPos_mul hk, List.length_map]
    split
    · -- the unit cancels against that of the total
      rw [List.map_map]
      refine List.map_congr_left fun w _ => ?_
      rw [Function.comp_apply, mul_div_mul_left _ _ hk.ne']
    · rfl

/-- The columns grow with the width that they share. -/
theorem columnWidths_mul_width (k : Rat) :
    columnWidths weights (k * width) cols = (columnWidths weights width cols).map (k * ·) := by
  have hequal : List.replicate cols (k * width / Scalar.ofNat cols) =
      (List.replicate cols (width / Scalar.ofNat cols)).map (k * ·) := by
    rw [List.map_replicate, mul_div_assoc]
  cases weights with
  | none => exact hequal
  | some ws =>
    simp only [columnWidths]
    split
    · rw [List.map_map]
      refine List.map_congr_left fun w _ => ?_
      rw [Function.comp_apply, mul_left_comm]
    · exact hequal

/-- One weight for each column and a positive total: every column gets its part of the width. -/
theorem columnWidths_of_weights {ws : List Rat} (hlength : ws.length = cols) (hpos : 0 < ws.sum) :
    columnWidths (some ws) width cols = ws.map (· * (width / ws.sum)) := by
  have htotal : Scalar.isPos (Scalar.sum ws) = true := by
    rw [Scalar.sum_rat]
    exact decide_eq_true hpos
  simp only [columnWidths]
  rw [if_pos ⟨hlength, htotal⟩, Scalar.sum_rat]
  refine List.map_congr_left fun w _ => ?_
  rw [div_mul_eq_mul_div, mul_div_assoc]

/-- The widths of the columns are as many numbers as there are columns, and their sum is the width of the table.  They
only depend on the proportions of the weights.  Where there is a weight for each column and the weights have a positive
total, the widths are in proportion to them.  Scaling a table before its width is split gives the scaled widths. -/
theorem columnWidths_shares (weights : Option (List Rat)) (width : Rat) {cols : Nat} (hcols : 0 < cols) :
    let shares := columnWidths weights width cols
    shares.length = cols ∧ shares.sum = width ∧
    (∀ k, 0 < k → columnWidths (weights.map (·.map (k * ·))) width cols = shares) ∧
    (∀ ws, weights = some ws → ws.length = cols → 0 < ws.sum → ∀ i < cols, ∀ j < cols,
      shares.getD i 0 * ws.getD j 0 = shares.getD j 0 * ws.getD i 0) ∧
    (∀ (s : Scaler Rat) (e : Element Rat), 0 < s.factor → e.metadata.columnWidths = weights → e.box.width = width →
      columnWidths (s.apply e).metadata.columnWidths (s.apply e).box.width cols = shares.map (s.factor * ·)) := by
  intro shares
  refine ⟨length_columnWidths _ _ _, sum_columnWidths _ _ hcols, fun k hk => columnWidths_mul_weights hk, ?_, ?_⟩
  · rintro ws rfl hlength hpos i hi j hj
    have hshare : ∀ c < cols, shares.getD c 0 = ws.getD c 0 * (width / ws.sum) := by
      intro c hc
      have hws : c < ws.length := by omega
      show (columnWidths (some ws) width cols).getD c 0 = _
      simp [columnWidths_of_weights hlength hpos, hws]
    rw [hshare i hi, hshare j hj]
    ring
  · rintro s e hfactor rfl rfl
    have hscale : s.scale = (s.factor * ·) := funext fun x => mul_comm x s.factor
    show columnWidths (e.metadata.columnWidths.map (·.map s.scale)) (s.scale e.box.width) cols = _
    rw [hscale, columnWidths_mul_weights hfactor, columnWidths_mul_width]

/-- Three columns with weights in the unit of a canvas, one of them negative, on a page of three quarters of its
width. -/
theorem columnWidths_shares_canvas :
    let ws : List Rat := [4, -1, 3]
    let e : Element Rat :=
      ⟨some .table, "table", ⟨0, 0, 120, 60⟩, {}, { cols := some 3, columnWidths := some ws }, none, none⟩
    let s : Scaler Rat := ⟨3, 4⟩
    let shares := columnWidths (some ws) 120 3
    0 < s.factor ∧ shares = [80, -20, 60] ∧ shares.sum = 120 ∧
      columnWidths (some (ws.map (5 / 2 * ·))) 120 3 = shares ∧
      shares.getD 0 0 * ws.getD 2 0 = shares.getD 2 0 * ws.getD 0 0 ∧
      columnWidths (s.apply e).metadata.columnWidths (s.apply e).box.width 3 = [60, -15, 45] := by
  intro ws e s shares
  have hfactor : 0 < s.factor := by decide +kernel
  obtain ⟨-, hsum, hunit, hratio, hscaled⟩ := columnWidths_shares (some ws) 120 (by decide : 0 < 3)
  have happly := hscaled s e hfactor rfl rfl
  refine ⟨hfactor, by decide +kernel, hsum, hunit _ (by norm_num), ?_, happly.trans (by decide +kernel)⟩
  exact hratio ws rfl rfl (by decide +kernel) 0 (by decide) 2 (by decide)

end ReportCard.Table
