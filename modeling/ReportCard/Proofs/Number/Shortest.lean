import ReportCard.Number.Shortest
import ReportCard.Proofs.Number.Rounding

/-!
# The shortest digits of a double

The digits that are printed of a double are a decimal number among those that round to it (`Digits.shortest_rounds`):
with 17 of them the decimal grid is finer than the numbers that round to it reach, so that the search always finds a
point.
-/

namespace ReportCard

/-- A power is a power of its base, as far as its exponent is not negative; the negative part cancels. -/
theorem Exact.power_eq {base : Nat} (hbase : 0 < base) (e : Int) :
    (power base e : Rat) = (base : Rat) ^ e * power base (-e) := by
  have hne : (base : Rat) ≠ 0 := by exact_mod_cast hbase.ne'
  obtain ⟨n, rfl | rfl⟩ := e.eq_nat_or_neg
  · show ((base ^ (n : Int).toNat : Nat) : Rat) = (base : Rat) ^ (n : Int) * ((base ^ (-(n : Int)).toNat : Nat) : Rat)
    rw [Int.toNat_natCast, Int.toNat_neg_natCast, zpow_natCast]
    push_cast
    rw [pow_zero, mul_one]
  · show ((base ^ (-(n : Int)).toNat : Nat) : Rat) =
      (base : Rat) ^ (-(n : Int)) * ((base ^ (- -(n : Int)).toNat : Nat) : Rat)
    rw [Int.toNat_neg_natCast, neg_neg, Int.toNat_natCast, zpow_neg, zpow_natCast]
    push_cast
    rw [pow_zero, inv_mul_cancel₀ (pow_ne_zero n hne)]

theorem Exact.power_pos {base : Nat} (hbase : 0 < base) (e : Int) : 0 < power base e := Nat.pow_pos hbase

namespace Digits

/-! ### The size of a number -/

theorem lt_of_length {n k : Nat} (h : (ofNat n).length ≤ k) (hk : 0 < k) : n < 10 ^ k :=
  (Nat.length_toDigits_le_iff (by decide) hk).1 h

theorem le_of_length {n k : Nat} (hn : 0 < n) (h : (ofNat n).length = k + 1) : 10 ^ k ≤ n := by
  obtain rfl | hk := Nat.eq_zero_or_pos k
  · exact hn
  · by_contra hlt
    have := (Nat.length_toDigits_le_iff (by decide) hk).2 (Nat.lt_of_not_le hlt)
    exact absurd h (by unfold ofNat; omega)

/-- The power of ten that is worked out of a number is no greater than the number. -/
theorem magnitude_le {n d : Nat} (hn : 0 < n) (hd : 0 < d) : (10 : Rat) ^ magnitude n d ≤ n / d := by
  have hd' : (0 : Rat) < d := by exact_mod_cast hd
  have hn' : (0 : Rat) < n := by exact_mod_cast hn
  unfold magnitude
  split
  · next hle =>
    obtain ⟨k, hk⟩ : ∃ k, (ofNat (n / d)).length = k + 1 :=
      ⟨_, (Nat.sub_add_cancel (Nat.length_toDigits_pos : 0 < (ofNat (n / d)).length)).symm⟩
    have hpow := le_of_length (Nat.div_pos hle hd) hk
    rw [hk, Nat.cast_add_one, add_sub_cancel_right, zpow_natCast, le_div_iff₀ hd']
    exact_mod_cast (Nat.le_div_iff_mul_le hd).1 hpow
  · next hlt =>
    have hpow := lt_of_length (le_refl (ofNat ((d + n - 1) / n - 1)).length) Nat.length_toDigits_pos
    generalize (ofNat ((d + n - 1) / n - 1)).length = k at hpow
    have hceil : d ≤ 10 ^ k * n := by
      have hdiv : (d + n - 1) / n ≤ 10 ^ k := by omega
      have := (Nat.div_le_iff_le_mul_add_pred hn).1 hdiv
      rw [Nat.mul_comm] at this
      omega
    rw [zpow_neg, zpow_natCast, inv_le_iff_one_le_mul₀ (by positivity), div_mul_eq_mul_div, mul_comm (n : Rat),
      one_le_div hd']
    exact_mod_cast hceil

/-! ### Points of the grid -/

section Grid

variable {value low high step c : Nat} {closed : Bool}

/-- A point of the grid lies between the bounds, which may count as inside. -/
def Inside (low high step : Nat) (closed : Bool) (c : Nat) : Prop :=
  if closed then low ≤ c * step ∧ c * step ≤ high else low < c * step ∧ c * step < high

private theorem inside_iff : (if closed then decide (low ≤ c * step) && decide (c * step ≤ high)
    else decide (low < c * step) && decide (c * step < high)) = true ↔ Inside low high step closed c := by
  unfold Inside
  cases closed <;> simp

theorem inside_of_nearestOnGrid (h : nearestOnGrid value low high step closed = some c) :
    Inside low high step closed c := by
  unfold nearestOnGrid at h
  dsimp only at h
  split at h
  · next hbelow habove =>
    obtain rfl := Option.some.inj h
    split
    · exact inside_iff.1 hbelow
    · exact inside_iff.1 habove
  · next hbelow _ => exact Option.some.inj h ▸ inside_iff.1 hbelow
  · next _ habove => exact Option.some.inj h ▸ inside_iff.1 habove
  · cases h

/-- A grid that is finer than the distance of the bounds has a point between them. -/
theorem isSome_nearestOnGrid (hlow : low < value) (hhigh : value < high) (hstep : low + step < high) (hpos : 0 < step) :
    (nearestOnGrid value low high step closed).isSome := by
  have hbelow : value / step * step ≤ value := Nat.div_mul_le_self _ _
  have habove : value < (value / step + 1) * step := by
    rw [Nat.mul_comm]
    exact Nat.lt_mul_div_succ value hpos
  have hnext : (value / step + 1) * step = value / step * step + step := Nat.succ_mul _ _
  have hinside : Inside low high step closed (value / step) ∨ Inside low high step closed (value / step + 1) := by
    unfold Inside
    cases closed <;> simp only [Bool.false_eq_true, if_false, if_true] <;> omega
  unfold nearestOnGrid
  dsimp only
  split
  · rfl
  · rfl
  · rfl
  · next hnone hnone' =>
    rw [← inside_iff, ← inside_iff, hnone, hnone'] at hinside
    simp at hinside

end Grid

/-! ### The digits of a double -/

section Shortest

variable {m c places : Nat} {e p : Int} {d : Digits}

/-- The lower end of the numbers that round to a double, in quarters of its last place. -/
def lowest (m : Nat) (e : Int) : Nat :=
  if m == Exact.power 2 52 && e != -1074 then 4 * m - 1 else 4 * m - 2

/-- The exponent of the grid with a number of decimal places. -/
def gridExponent (m : Nat) (e : Int) (places : Nat) : Int :=
  magnitude (4 * m * Exact.power 2 (e - 2)) (Exact.power 2 (2 - e)) + 1 - places

/-- The point of the grid with a number of decimal places that is nearest to a double and rounds to it, if there is
one. -/
def gridPoint (m : Nat) (e : Int) (places : Nat) : Option Digits :=
  let p := gridExponent m e places
  let scale := Exact.power 2 (e - 2) * Exact.power 10 (-p)
  (nearestOnGrid (4 * m * scale) (lowest m e * scale) ((4 * m + 2) * scale) (Exact.power 2 (2 - e) * Exact.power 10 p)
    (m % 2 == 0)).map (⟨·, p⟩)

theorem shortest_eq (m : Nat) (e : Int) :
    shortest m e = ((List.range' 1 17).findSome? (gridPoint m e)).getD ⟨m, 0⟩ := rfl

private theorem cast_lowest (hm : 0 < m) :
    (lowest m e : Rat) = if m = 2 ^ 52 ∧ e ≠ -1074 then 4 * (m : Rat) - 1 else 4 * m - 2 := by
  have hpower : Exact.power 2 52 = 2 ^ 52 := rfl
  unfold lowest
  rw [hpower]
  by_cases h : m = 2 ^ 52 ∧ e ≠ -1074
  · rw [if_pos (by simpa using h), if_pos h, Nat.cast_sub (by omega)]
    push_cast
    ring
  · rw [if_neg (by simpa using h), if_neg h, Nat.cast_sub (by omega)]
    push_cast
    ring

/-- What a grid and the bounds of a double are multiplied by to become whole. -/
private def unit (e p : Int) : Nat := Exact.power 2 (2 - e) * Exact.power 10 (-p)

private theorem unit_pos (e p : Int) : (0 : Rat) < unit e p := by
  have hpos : 0 < unit e p := Nat.mul_pos (Exact.power_pos two_pos _) (Exact.power_pos (by decide) _)
  exact_mod_cast hpos

private theorem cast_bound (b : Nat) (e p : Int) :
    ((b * (Exact.power 2 (e - 2) * Exact.power 10 (-p)) : Nat) : Rat) = b * 2 ^ (e - 2) * unit e p := by
  have he := Exact.power_eq (by decide : 0 < 2) (e - 2)
  rw [neg_sub] at he
  unfold unit
  push_cast at he ⊢
  rw [he]
  ring

private theorem cast_step (e p : Int) :
    ((Exact.power 2 (2 - e) * Exact.power 10 p : Nat) : Rat) = 10 ^ p * unit e p := by
  have hp := Exact.power_eq (by decide : 0 < 10) p
  unfold unit
  push_cast at hp ⊢
  rw [hp]
  ring

/-- The points of the grids round to the double. -/
theorem rounds_of_gridPoint (hm : 0 < m) (h : gridPoint m e places = some d) :
    Rounds m e (d.digits * 10 ^ d.exponent) := by
  obtain ⟨c, hc, rfl⟩ := Option.map_eq_some_iff.1 h
  have hinside := inside_of_nearestOnGrid hc
  generalize gridExponent m e places = p at hinside
  have hpoint : ((c * (Exact.power 2 (2 - e) * Exact.power 10 p) : Nat) : Rat) = c * 10 ^ p * unit e p := by
    rw [Nat.cast_mul, cast_step, mul_assoc]
  have hle {a b : Nat} {x y : Rat} (hx : (a : Rat) = x * unit e p) (hy : (b : Rat) = y * unit e p) :
      (a ≤ b ↔ x ≤ y) ∧ (a < b ↔ x < y) := by
    rw [← Nat.cast_le (α := Rat), ← Nat.cast_lt (α := Rat), hx, hy]
    exact ⟨mul_le_mul_iff_left₀ (unit_pos e p), mul_lt_mul_iff_left₀ (unit_pos e p)⟩
  have hlow := hle (cast_bound (lowest m e) e p) hpoint
  have hhigh := hle hpoint (cast_bound (4 * m + 2) e p)
  push_cast at hhigh
  rw [cast_lowest hm] at hlow
  unfold Inside at hinside
  show Rounds m e (c * 10 ^ p)
  by_cases heven : m % 2 = 0
  · rw [if_pos (by simpa using heven)] at hinside
    exact ⟨hlow.1.1 hinside.1, hhigh.1.1 hinside.2, fun hodd => by omega⟩
  · rw [if_neg (by simpa using heven)] at hinside
    have hbelow := hlow.2.1 hinside.1
    have habove := hhigh.2.1 hinside.2
    refine ⟨hbelow.le, habove.le, fun _ => ⟨?_, habove⟩⟩
    rwa [if_neg (by omega)] at hbelow

/-- With 17 places there is a point: the numbers that round to the double reach further than from one point to the
next. -/
theorem isSome_gridPoint (hc : Canonical m e) : (gridPoint m e 17).isSome := by
  have hm := hc.pos
  have hu : (0 : Rat) < 2 ^ (e - 2) := by positivity
  have hlowest : lowest m e < 4 * m := by
    unfold lowest
    split <;> omega
  unfold gridPoint
  dsimp only
  rw [Option.isSome_map]
  -- the value is at least as large as its power of ten, and so 10 ^ 16 times as large as a step
  have hvalue : (10 : Rat) ^ (gridExponent m e 17 + 16) ≤ 4 * m * 2 ^ (e - 2) := by
    have hnum : 0 < 4 * m * Exact.power 2 (e - 2) := Nat.mul_pos (by omega) (Exact.power_pos two_pos _)
    have hden : (0 : Rat) < Exact.power 2 (2 - e) := by exact_mod_cast Exact.power_pos two_pos (2 - e)
    have he := Exact.power_eq (by decide : 0 < 2) (e - 2)
    have hmagnitude := magnitude_le hnum (Exact.power_pos two_pos (2 - e))
    rw [neg_sub] at he
    push_cast at he hmagnitude
    rw [he, ← mul_assoc, mul_div_cancel_right₀ _ hden.ne'] at hmagnitude
    rwa [gridExponent, show ∀ k : Int, k + 1 - (17 : Nat) + 16 = k by omega]
  generalize gridExponent m e 17 = p at hvalue
  have hscale : 0 < Exact.power 2 (e - 2) * Exact.power 10 (-p) :=
    Nat.mul_pos (Exact.power_pos two_pos _) (Exact.power_pos (by decide) _)
  refine isSome_nearestOnGrid (Nat.mul_lt_mul_of_pos_right hlowest hscale)
    (Nat.mul_lt_mul_of_pos_right (by omega) hscale) ?_
    (Nat.mul_pos (Exact.power_pos two_pos _) (Exact.power_pos (by decide) _))
  rw [← Nat.cast_lt (α := Rat), Nat.cast_add, cast_bound, cast_bound, cast_step, ← add_mul]
  refine mul_lt_mul_of_pos_right ?_ (unit_pos e p)
  have hreach : 4 * (m : Rat) < (4 * m + 2 - lowest m e) * 10 ^ 16 := by
    have hlt : (m : Rat) < 2 ^ 53 := by exact_mod_cast hc.lt
    rw [cast_lowest hm]
    split
    · next h =>
      rw [h.1]
      norm_num
    · linarith
  have hstep : (10 : Rat) ^ p * 10 ^ 16 ≤ 4 * m * 2 ^ (e - 2) := by
    rw [zpow_add₀ (by norm_num)] at hvalue
    exact_mod_cast hvalue
  have := mul_lt_mul_of_pos_right hreach hu
  push_cast
  linarith

/-- The digits that are printed of a double are a decimal number that rounds to it. -/
theorem shortest_rounds (hc : Canonical m e) :
    Rounds m e ((shortest m e).digits * 10 ^ (shortest m e).exponent) := by
  rw [shortest_eq]
  cases hfound : (List.range' 1 17).findSome? (gridPoint m e) with
  | none =>
    have hnone := List.findSome?_eq_none_iff.1 hfound 17 (by decide)
    rw [← Option.not_isSome_iff_eq_none] at hnone
    exact absurd (isSome_gridPoint hc) hnone
  | some d =>
    obtain ⟨places, -, hd⟩ := List.exists_of_findSome?_eq_some hfound
    exact rounds_of_gridPoint hc.pos hd

end Shortest

end Digits

end ReportCard
