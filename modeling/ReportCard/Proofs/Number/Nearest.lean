import Mathlib.Tactic.FieldSimp
import ReportCard.Number.Numeral
import ReportCard.Proofs.Number.Double

/-!
# The double nearest to a decimal number

A coefficient with an exponent of ten is read as a double by one multiplication or division, which is rounded once.  So
it becomes the double that it is nearest to (`unpack_nearest`).
-/

namespace ReportCard

open Float.Model Float.Model.UnpackedFloat

variable {m n c : Nat} {e f p : Int}

/-! ### Multiplication and division -/

theorem mul_of_rounds {M N : Nat} {E F : Int} {hpos : 0 < M} (hc : Canonical m e) (hM : 2 ^ 52 ≤ M) (hN : 0 < N)
    (hr : Rounds m e (M * 2 ^ E * (N * 2 ^ F))) :
    UnpackedFloat.mul .binary64 (.finite .positive M E hpos) (.finite .positive N F hN) =
      .finite .positive m e hc.pos := by
  rw [mul_two_zpow_mul] at hr
  exact roundWithAccuracy_of_rounds hc hr (.exact (M * N)) (.inl (hM.trans (Nat.le_mul_of_pos_right M hN)))

/-- A product that is nearest to a double is rounded to it. -/
theorem unpack_mul_of_rounds {x y : Float} {M N : Nat} {E F : Int} (hc : Canonical m p) (hp : p ≤ 971)
    (hM : 2 ^ 52 ≤ M) {hN : 0 < N} (hx : x.toModel.unpack = .finite .positive M E (by omega))
    (hy : y.toModel.unpack = .finite .positive N F hN) (hr : Rounds m p (M * 2 ^ E * (N * 2 ^ F))) :
    (x * y).toModel.unpack = .finite .positive m p hc.pos := by
  show (Float.Model.pack (UnpackedFloat.mul .binary64 x.toModel.unpack y.toModel.unpack)).unpack = _
  rw [hx, hy, mul_of_rounds hc hM hN hr, unpack_pack hc, if_pos hp]

/-- What division knows of a quotient before it is rounded. -/
theorem divCore_represents {M N : Nat} (E F : Int) (hM : 0 < M) (hN : 0 < N) :
    ∃ w, Represents (.ofMantissaAndAccuracy (divCore .binary64 M E N F).1 (divCore .binary64 M E N F).2.2) w ∧
      w * 2 ^ (divCore .binary64 M E N F).2.1 = M * 2 ^ E / (N * 2 ^ F) ∧
      Fits (divCore .binary64 M E N F).1 (divCore .binary64 M E N F).2.1 := by
  have hlast : Format.binary64.targetExponent (totalExponent M E - totalExponent N F) =
      max (M.log2 - N.log2 + (E - F) - 53) (-1074) := by
    have hbits : (Format.binary64.mantissaBits : Int) = 53 := rfl
    have hleast : Format.binary64.minExponent = -1074 := rfl
    unfold Format.targetExponent totalExponent
    rw [hbits, hleast]
    congr 1
    omega
  unfold divCore
  rw [hlast]
  dsimp only
  generalize hT : min (E - F) (max (M.log2 - N.log2 + (E - F) - 53) (-1074)) = T
  have hle : T ≤ E - F := hT ▸ min_le_left _ _
  obtain ⟨k, hk⟩ : ∃ k : Nat, E - F = k + T := ⟨(E - F - T).toNat, by omega⟩
  rw [hk, add_sub_cancel_right, Int.toNat_natCast, Nat.shiftLeft_eq]
  refine ⟨_, Represents.quotient (M * 2 ^ k) hN, ?_, ?_⟩
  · have hpow : (2 : Rat) ^ E = 2 ^ k * 2 ^ T * 2 ^ F := by
      rw [← two_zpow_add, ← hk, ← zpow_add₀ two_ne_zero, sub_add_cancel]
    rw [hpow]
    push_cast
    field_simp
  · -- enough places were made for the quotient to have 53 bits, unless the exponent is small enough anyway
    refine or_iff_not_imp_right.2 fun hlarge => ?_
    have hplaces : N.log2 + 53 ≤ M.log2 + k := by omega
    rw [Nat.le_div_iff_mul_le hN]
    calc 2 ^ 52 * N ≤ 2 ^ 52 * 2 ^ (N.log2 + 1) := Nat.mul_le_mul_left _ Nat.lt_log2_self.le
      _ = 2 ^ (N.log2 + 53) := by rw [← pow_add]; congr 1; omega
      _ ≤ 2 ^ (M.log2 + k) := Nat.pow_le_pow_right two_pos hplaces
      _ = 2 ^ M.log2 * 2 ^ k := pow_add _ _ _
      _ ≤ M * 2 ^ k := Nat.mul_le_mul_right _ (Nat.log2_self_le hM.ne')

theorem div_of_rounds {M N : Nat} {E F : Int} (hc : Canonical m e) (hM : 0 < M) (hN : 0 < N)
    (hr : Rounds m e (M * 2 ^ E / (N * 2 ^ F))) :
    UnpackedFloat.div .binary64 (.finite .positive M E hM) (.finite .positive N F hN) =
      .finite .positive m e hc.pos := by
  obtain ⟨w, hw, hvalue, hfits⟩ := divCore_represents E F hM hN
  exact roundWithAccuracy_of_rounds hc (hvalue ▸ hr) hw hfits

/-- A quotient that is nearest to a double is rounded to it. -/
theorem unpack_div_of_rounds {x y : Float} {M N : Nat} {E F : Int} (hc : Canonical m p) (hp : p ≤ 971) {hM : 0 < M}
    {hN : 0 < N} (hx : x.toModel.unpack = .finite .positive M E hM)
    (hy : y.toModel.unpack = .finite .positive N F hN) (hr : Rounds m p (M * 2 ^ E / (N * 2 ^ F))) :
    (x / y).toModel.unpack = .finite .positive m p hc.pos := by
  show (Float.Model.pack (UnpackedFloat.div .binary64 x.toModel.unpack y.toModel.unpack)).unpack = _
  rw [hx, hy, div_of_rounds hc hM hN hr, unpack_pack hc, if_pos hp]

/-! ### Whole numbers and powers of ten -/

/-- A whole number of at most 53 bits is a double. -/
theorem unpack_toFloat (hn : 0 < n) (hlt : n < 2 ^ 53) :
    ∃ M E, ∃ hM : 2 ^ 52 ≤ M, n.toUInt64.toFloat.toModel.unpack = .finite .positive M E (by omega) ∧
      (M * 2 ^ E : Rat) = n := by
  have hlog := (Nat.log2_lt hn.ne').2 hlt
  have hself := Nat.log2_self_le hn.ne'
  have hnext : n < 2 ^ (n.log2 + 1) := Nat.lt_log2_self
  obtain ⟨k, hk⟩ : ∃ k, 52 = k + n.log2 := ⟨52 - n.log2, by omega⟩
  -- the mantissa is shifted to the left until it has 53 bits
  have hnat : (UInt64.ofNat n).toNat = n := by
    rw [UInt64.toNat_ofNat']
    exact Nat.mod_eq_of_lt (by omega)
  have hM : 2 ^ 52 ≤ n * 2 ^ k := by
    rw [hk, pow_add, mul_comm]
    exact Nat.mul_le_mul_right _ hself
  have hc : Canonical (n * 2 ^ k) (-k) := by
    refine ⟨by omega, ?_, by omega, .inl hM⟩
    calc n * 2 ^ k < 2 ^ (n.log2 + 1) * 2 ^ k := Nat.mul_lt_mul_of_pos_right hnext (by positivity)
      _ = 2 ^ 53 := by rw [← pow_add]; congr 1; omega
  have hround : UnpackedFloat.ofNat .binary64 n = .finite .positive (n * 2 ^ k) (-k) hc.pos := by
    have hplace : place n 0 = -k := by
      unfold place
      omega
    unfold UnpackedFloat.ofNat UnpackedFloat.ofInt UnpackedFloat.normalize
    rw [Int.compare_eq_gt.mpr (by omega)]
    dsimp only
    unfold UnpackedFloat.round UnpackedFloat.decreaseExponent
    rw [targetExponent_eq, Int.toNat_natCast, hplace]
    dsimp only
    rw [show (0 - -(k : Int)).toNat = k by omega, Nat.shiftLeft_eq, show (0 : Int) - k = -k by omega]
    exact roundWithAccuracy_of_rounds hc (Rounds.self _ _) (.exact _) (.inl hM)
  refine ⟨n * 2 ^ k, -k, hM, ?_, ?_⟩
  · show (Float.Model.pack (UnpackedFloat.ofNat .binary64 (UInt64.ofNat n).toNat)).unpack = _
    rw [hnat, hround, unpack_pack hc, if_pos (by omega)]
  · push_cast
    rw [zpow_neg, zpow_natCast, mul_assoc, mul_inv_cancel₀ (pow_ne_zero k two_ne_zero), mul_one]

private theorem ofFloat_powerOfTen : ∀ i : Fin Float.exactlyRepresentablePowersOfTen.size,
    Exact.ofFloat Float.exactlyRepresentablePowersOfTen[i.1] =
      .finite false (10 ^ i.1 * 2 ^ 52 / 2 ^ (10 ^ i.1).log2) ((10 ^ i.1).log2 - 52) ∧
    2 ^ 52 ≤ 10 ^ i.1 * 2 ^ 52 / 2 ^ (10 ^ i.1).log2 ∧
    10 ^ i.1 * 2 ^ 52 / 2 ^ (10 ^ i.1).log2 * 2 ^ (10 ^ i.1).log2 = 10 ^ i.1 * 2 ^ 52 := by
  decide +kernel

/-- The powers of ten in the table of those that are doubles. -/
theorem unpack_powerOfTen (hn : n < Float.exactlyRepresentablePowersOfTen.size) :
    ∃ M E, ∃ hM : 2 ^ 52 ≤ M,
      Float.exactlyRepresentablePowersOfTen[n].toModel.unpack = .finite .positive M E (by omega) ∧
      (M * 2 ^ E : Rat) = 10 ^ n := by
  obtain ⟨hexact, hM, hvalue⟩ := ofFloat_powerOfTen ⟨n, hn⟩
  dsimp only at hexact hM hvalue
  generalize 10 ^ n * 2 ^ 52 / 2 ^ (10 ^ n).log2 = M at hexact hM hvalue
  refine ⟨M, (10 ^ n).log2 - 52, hM, Exact.unpack_of_ofFloat hexact (by omega), ?_⟩
  have hvalue' : (M : Rat) * 2 ^ (10 ^ n).log2 = 10 ^ n * 2 ^ 52 := by exact_mod_cast hvalue
  rw [zpow_sub₀ two_ne_zero, zpow_natCast, ← mul_div_assoc, hvalue']
  exact mul_div_cancel_right₀ _ (by norm_num)

/-! ### Decimal numbers -/

/-- The numbers that are nearest to doubles above zero. -/
theorem Rounds.bounds {q : Rat} (hc : Canonical m p) (hp : p ≤ 971) (hr : Rounds m p q) :
    2 ^ (-1075 : Int) ≤ q ∧ q < 2 ^ (1024 : Int) := by
  have hm : (1 : Rat) ≤ m := by exact_mod_cast hc.pos
  have hm' : (m : Rat) + 1 ≤ 2 ^ 53 := by exact_mod_cast hc.lt
  have hleast := hc.least
  have hfirst : (2 : Rat) ^ (-1076 : Int) ≤ 2 ^ (p - 2) := zpow_le_zpow_right₀ one_le_two (by omega)
  have hlast : (2 : Rat) ^ (p - 2) ≤ 2 ^ (969 : Int) := zpow_le_zpow_right₀ one_le_two (by omega)
  constructor
  · calc (2 : Rat) ^ (-1075 : Int) = 2 * 2 ^ (-1076 : Int) := zpow_one_add₀ two_ne_zero (-1076)
      _ ≤ (4 * m - 2) * 2 ^ (p - 2) := mul_le_mul (by linarith) hfirst (by positivity) (by linarith)
      _ ≤ q := hr.half
  · calc q ≤ (4 * m + 2) * 2 ^ (p - 2) := hr.high
      _ < 2 ^ 55 * 2 ^ (p - 2) := mul_lt_mul_of_pos_right (by linarith) (by positivity)
      _ ≤ 2 ^ 55 * 2 ^ (969 : Int) := mul_le_mul_of_nonneg_left hlast (by positivity)
      _ = 2 ^ (1024 : Int) := (two_zpow_ofNat_add 55 969).symm

/-- A decimal number that is rounded to a double is not beyond the range in which it is worked out. -/
theorem Rounds.exponent_bounds (hc : Canonical m p) (hp : p ≤ 971) (hr : Rounds m p (c * 10 ^ e)) :
    0 < c ∧ e ≤ 2048 ∧ -(2048 + c.log2 : Int) ≤ e := by
  obtain ⟨hlow, hhigh⟩ := hr.bounds hc hp
  have hpos : 0 < c := by
    have hprod : (0 : Rat) < c * 10 ^ e := lt_of_lt_of_le (by positivity) hlow
    exact_mod_cast pos_of_mul_pos_left hprod (by positivity)
  refine ⟨hpos, ?_, ?_⟩
  · by_contra hlarge
    have hc1 : (1 : Rat) ≤ c := by exact_mod_cast hpos
    have hpow : (2 : Rat) ^ (1024 : Int) ≤ c * 10 ^ e :=
      calc (2 : Rat) ^ (1024 : Int) ≤ 2 ^ e := zpow_le_zpow_right₀ one_le_two (by omega)
        _ ≤ 10 ^ e := zpow_le_zpow_left₀ (by omega) (by norm_num) (by norm_num)
        _ ≤ c * 10 ^ e := le_mul_of_one_le_left (by positivity) hc1
    exact hpow.not_gt hhigh
  · by_contra hsmall
    obtain ⟨n, rfl⟩ : ∃ n : Nat, e = -n := ⟨e.natAbs, by omega⟩
    have hbits : (c : Rat) ≤ 2 ^ (c.log2 + 1) := by exact_mod_cast Nat.lt_log2_self.le
    have htens : (10 : Rat) ^ (-(n : Int)) ≤ 2 ^ (-(n : Int)) := by
      rw [zpow_neg, zpow_neg, zpow_natCast, zpow_natCast]
      exact inv_anti₀ (by positivity) (pow_le_pow_left₀ (by norm_num) (by norm_num) n)
    have hpow : (c : Rat) * 10 ^ (-(n : Int)) < 2 ^ (-1075 : Int) :=
      calc (c : Rat) * 10 ^ (-(n : Int)) ≤ 2 ^ (c.log2 + 1) * 2 ^ (-(n : Int)) :=
            mul_le_mul hbits htens (by positivity) (by positivity)
        _ = 2 ^ ((c.log2 + 1 : Nat) + -(n : Int)) := (two_zpow_add _ _).symm
        _ < 2 ^ (-1075 : Int) := zpow_lt_zpow_right₀ one_lt_two (by omega)
    exact hpow.not_ge hlow

/-- Without the table the power of ten is one factor or divisor of any length. -/
theorem ofScientific_of_rounds (hc : Canonical m p) (hp : p ≤ 971) (hr : Rounds m p (c * 10 ^ e)) :
    UnpackedFloat.ofScientific .binary64 c e = .finite .positive m p hc.pos := by
  obtain ⟨hpos, hhigh, hlow⟩ := hr.exponent_bounds hc hp
  unfold UnpackedFloat.ofScientific
  rw [dif_neg hpos.ne', if_neg (by simpa using hhigh), if_neg (by simpa using hlow)]
  by_cases he : 0 ≤ e
  · rw [if_pos he]
    have hleast : 2 ^ 52 ≤ c <<< Format.binary64.mantissaBits := by
      show 2 ^ 52 ≤ c <<< 53
      rw [Nat.shiftLeft_eq]
      omega
    have hvalue : (c : Rat) * 10 ^ e = ((c <<< Format.binary64.mantissaBits : Nat) : Rat) *
        2 ^ (-(Format.binary64.mantissaBits : Int)) * ((10 ^ e.toNat : Nat) * 2 ^ (0 : Int)) := by
      obtain ⟨n, rfl⟩ := Int.eq_ofNat_of_zero_le he
      rw [Nat.shiftLeft_eq, zpow_neg, zpow_natCast, zpow_natCast, zpow_zero, mul_one, Int.toNat_natCast]
      push_cast
      rw [mul_inv_cancel_right₀ (pow_ne_zero _ two_ne_zero)]
    exact mul_of_rounds hc hleast (by positivity) (hvalue ▸ hr)
  · rw [if_neg he]
    have hvalue : (c : Rat) * 10 ^ e = (c : Rat) * 2 ^ (0 : Int) / ((10 ^ (-e).toNat : Nat) * 2 ^ (0 : Int)) := by
      obtain ⟨n, rfl⟩ : ∃ n : Nat, e = -n := ⟨e.natAbs, by omega⟩
      rw [zpow_neg, zpow_natCast, zpow_zero, mul_one, mul_one, neg_neg, Int.toNat_natCast, div_eq_mul_inv]
      push_cast
      rfl
    exact div_of_rounds hc hpos (by positivity) (hvalue ▸ hr)

/-- A decimal number is read as the double that it is nearest to. -/
theorem unpack_nearest (hc : Canonical m p) (hp : p ≤ 971) (hr : Rounds m p (c * 10 ^ e)) :
    (Numeral.nearest c e).toModel.unpack = .finite .positive m p hc.pos := by
  have he : e < 0 ∧ e = -(e.natAbs : Int) ∨ ¬e < 0 ∧ e = (e.natAbs : Int) := by omega
  unfold Numeral.nearest Float.ofScientific
  by_cases hfast : c < 2 ^ 53 ∧ e.natAbs ≤ 22
  · rw [dif_pos hfast]
    -- both numbers are doubles, and one operation joins them
    obtain ⟨M, E, hM, hunpack, hvalue⟩ := unpack_toFloat (hr.exponent_bounds hc hp).1 hfast.1
    obtain ⟨N, F, hN, hunpack', hvalue'⟩ := unpack_powerOfTen (Nat.lt_succ_of_le hfast.2)
    dsimp only
    obtain ⟨hneg, he⟩ | ⟨hneg, he⟩ := he
    · rw [if_pos (decide_eq_true hneg)]
      rw [he, zpow_neg, zpow_natCast, ← hvalue, ← hvalue', ← div_eq_mul_inv] at hr
      exact unpack_div_of_rounds hc hp hunpack hunpack' hr
    · rw [if_neg (by simpa using hneg)]
      rw [he, zpow_natCast, ← hvalue, ← hvalue'] at hr
      exact unpack_mul_of_rounds hc hp hM hunpack hunpack' hr
  · rw [dif_neg hfast]
    have hexponent : (if decide (e < 0) then Int.negOfNat e.natAbs else Int.ofNat e.natAbs) = e := by
      obtain ⟨hneg, he⟩ | ⟨hneg, he⟩ := he
      · rw [if_pos (decide_eq_true hneg), Int.negOfNat_eq]
        exact he.symm
      · rw [if_neg (by simpa using hneg)]
        exact he.symm
    show (Float.Model.pack (UnpackedFloat.ofScientific .binary64 c _)).unpack = _
    rw [hexponent, ofScientific_of_rounds hc hp hr, unpack_pack hc, if_pos hp]

/-- A whole number of at most 53 bits is the double that it is read as. -/
theorem unpack_ofNat (hn : 0 < n) (hlt : n < 2 ^ 53) :
    ∃ M E, ∃ hM : 0 < M, (Float.ofNat n).toModel.unpack = .finite .positive M E hM ∧ (M * 2 ^ E : Rat) = n := by
  obtain ⟨M, E, hM, hunpack, hvalue⟩ := unpack_toFloat hn hlt
  obtain ⟨hc, hlast⟩ := canonical_of_unpack hunpack
  have hr : Rounds M E (n * 10 ^ (0 : Int)) := by
    rw [zpow_zero, mul_one, ← hvalue]
    exact .self M E
  have hnat : Float.ofNat n = Numeral.nearest n 0 := rfl
  refine ⟨M, E, hc.pos, ?_, hvalue⟩
  rw [hnat]
  exact unpack_nearest hc hlast hr

end ReportCard
