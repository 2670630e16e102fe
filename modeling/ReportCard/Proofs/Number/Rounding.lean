import Mathlib.Algebra.Order.Field.Power
import Mathlib.Tactic.Linarith
import Mathlib.Tactic.NormNum
import Mathlib.Tactic.Positivity
import Mathlib.Tactic.Ring
import ReportCard.Proofs.Number.Float

/-!
# Rounding to the nearest double

Arithmetic on doubles ends in a mantissa whose last places are dropped; a round bit and a sticky bit tell how much was
dropped.  `Represents` is what they tell.  Of it follows which exact values end in a given double: those that lie no
further from it than half way to its neighbours (`roundWithAccuracy_of_rounds`).
-/

namespace ReportCard

open Float.Model Float.Model.UnpackedFloat

/-- A mantissa with its two bits represents `w`: the mantissa is the whole part of `w`, and the bits compare the
fraction that is left to zero and to one half. -/
def Represents (em : ExtendedMantissa) (w : Rat) : Prop :=
  match em.roundBit, em.stickyBit with
  | false, false => w = em.mantissa
  | false, true => em.mantissa < w ∧ w < em.mantissa + 1 / 2
  | true, false => w = em.mantissa + 1 / 2
  | true, true => em.mantissa + 1 / 2 < w ∧ w < em.mantissa + 1

namespace Represents

variable {em : ExtendedMantissa} {w : Rat} {m n : Nat}

/-- The mantissa is the whole part. -/
theorem floor (h : Represents em w) : em.mantissa ≤ w ∧ w < em.mantissa + 1 := by
  obtain ⟨m, round, sticky⟩ := em
  cases round <;> cases sticky <;> simp only [Represents] at h ⊢ <;> constructor <;> linarith

theorem floor_of_accuracy {a : Accuracy} (h : Represents (.ofMantissaAndAccuracy m a) w) : m ≤ w ∧ w < m + 1 := by
  have hmantissa : (ExtendedMantissa.ofMantissaAndAccuracy m a).mantissa = m := by
    unfold ExtendedMantissa.ofMantissaAndAccuracy
    split <;> rfl
  exact hmantissa ▸ h.floor

theorem exact (m : Nat) : Represents (.ofMantissaAndAccuracy m .exact) m := rfl

/-- The bits of a quotient are those of the fraction that the remainder leaves. -/
theorem quotient (m : Nat) (hn : 0 < n) :
    Represents (.ofMantissaAndAccuracy (m / n) (accuracyOfFraction (m % n) n)) (m / n) := by
  have hn' : (0 : Rat) < n := by exact_mod_cast hn
  have hdiv : (m : Rat) / n = (m / n : Nat) + (m % n : Nat) / (n : Rat) := by
    rw [← sub_eq_iff_eq_add', eq_div_iff hn'.ne', sub_mul, div_mul_cancel₀ _ hn'.ne', sub_eq_iff_eq_add]
    exact_mod_cast (Nat.mod_add_div' m n).symm
  have hlt : (m % n : Nat) < (n : Rat) := by exact_mod_cast Nat.mod_lt m hn
  have hfraction : (m % n : Nat) / (n : Rat) < 1 := (div_lt_one hn').2 hlt
  rw [hdiv]
  unfold accuracyOfFraction
  split
  · next hzero => simp [hzero, ExtendedMantissa.ofMantissaAndAccuracy, Represents]
  next hpos =>
    dsimp only [Represents, ExtendedMantissa.ofMantissaAndAccuracy]
    have hpositive : (0 : Rat) < (m % n : Nat) / (n : Rat) :=
      div_pos (by exact_mod_cast Nat.pos_of_ne_zero hpos) hn'
    cases hcompare : compare (2 * (m % n)) n with
    | lt =>
      have htwice : 2 * ((m % n : Nat) : Rat) < n := by exact_mod_cast compare_lt_iff_lt.1 hcompare
      have hhalf : (m % n : Nat) / (n : Rat) < 1 / 2 := by
        rw [div_lt_div_iff₀ hn' two_pos]
        linarith
      exact ⟨by linarith, by linarith⟩
    | eq =>
      have htwice : 2 * ((m % n : Nat) : Rat) = n := by exact_mod_cast compare_eq_iff_eq.1 hcompare
      have hhalf : (m % n : Nat) / (n : Rat) = 1 / 2 := by
        rw [div_eq_div_iff hn'.ne' two_ne_zero]
        linarith
      exact congrArg _ hhalf
    | gt =>
      have htwice : (n : Rat) < 2 * ((m % n : Nat) : Rat) := by exact_mod_cast compare_gt_iff_gt.1 hcompare
      have hhalf : 1 / 2 < (m % n : Nat) / (n : Rat) := by
        rw [div_lt_div_iff₀ two_pos hn']
        linarith
      exact ⟨by linarith, by linarith⟩

theorem shiftRightOne (h : Represents em w) : Represents em.shiftRightOne (w / 2) := by
  obtain ⟨m, round, sticky⟩ := em
  have hparity : (m : Rat) = (m % 2 : Nat) + 2 * (m / 2 : Nat) := by exact_mod_cast (Nat.mod_add_div m 2).symm
  obtain hbit | hbit := Nat.mod_two_eq_zero_or_one m <;> rw [hbit] at hparity <;>
    cases round <;> cases sticky <;>
    simp only [Represents, ExtendedMantissa.shiftRightOne, hbit, hparity, Bool.or_self] at h ⊢ <;>
    push_cast at h ⊢ <;>
    first
      | linarith
      | exact ⟨by linarith, by linarith⟩

/-- A shift divides by a power of two. -/
theorem shiftRight (h : Represents em w) (n : Nat) : Represents (em >>> n) (w / 2 ^ n) := by
  show Represents (n.repeat ExtendedMantissa.shiftRightOne em) (w / 2 ^ n)
  induction n with
  | zero => simpa [Nat.repeat] using h
  | succ n ih =>
    rw [pow_succ, ← div_div]
    exact ih.shiftRightOne

/-- The mantissa is rounded to `m` if `w` is nearer to `m` than to another whole number; half way between two the even
one is taken. -/
theorem roundedMantissa_eq (h : Represents em w) (hlow : m - 1 / 2 ≤ w) (hhigh : w ≤ m + 1 / 2)
    (hodd : m % 2 = 1 → m - 1 / 2 < w ∧ w < m + 1 / 2) : em.roundedMantissa = m := by
  obtain ⟨M, round, sticky⟩ := em
  -- whole numbers that are less than one apart are the same
  have hle {a b : Nat} (hab : (a : Rat) < b + 1) : a ≤ b := by
    have : a < b + 1 := by exact_mod_cast hab
    omega
  cases round <;> cases sticky <;> simp only [Represents] at h
  · show M = m
    exact le_antisymm (hle (by linarith)) (hle (by linarith))
  · show M = m
    exact le_antisymm (hle (by linarith)) (hle (by linarith))
  · show M + M % 2 = m
    have hM : M ≤ m := hle (by linarith)
    have hm : m ≤ M + 1 := hle (by push_cast; linarith)
    obtain hparity | hparity := Nat.mod_two_eq_zero_or_one m
    · omega
    · obtain ⟨hlow, hhigh⟩ := hodd hparity
      have hlt : (M : Rat) < m := by linarith
      have hgt : (m : Rat) < M + 1 := by linarith
      have : M < m := by exact_mod_cast hlt
      have : m < M + 1 := by exact_mod_cast hgt
      omega
  · show M + 1 = m
    exact le_antisymm (hle (by push_cast; linarith)) (hle (by push_cast; linarith))

theorem le_roundedMantissa (em : ExtendedMantissa) :
    em.mantissa ≤ em.roundedMantissa ∧ em.roundedMantissa ≤ em.mantissa + 1 := by
  obtain ⟨m, round, sticky⟩ := em
  cases round <;> cases sticky <;>
    simp only [ExtendedMantissa.roundedMantissa, ExtendedMantissa.accuracy, Accuracy.roundToNearestEven] <;> omega

end Represents

/-! ### The place of the last bit -/

/-- The exponent of the double that takes in a mantissa with an exponent. -/
def place (m : Nat) (e : Int) : Int := max (m.log2 + e - 52) (-1074)

theorem targetExponent_eq (m : Nat) (e : Int) :
    Format.binary64.targetExponent (totalExponent m e) = place m e := by
  have hbits : (Format.binary64.mantissaBits : Int) = 53 := rfl
  have hleast : Format.binary64.minExponent = -1074 := rfl
  unfold Format.targetExponent totalExponent place
  rw [hbits, hleast]
  congr 1
  omega

theorem Canonical.place_eq {m : Nat} {e : Int} (h : Canonical m e) : place m e = e := by
  have hlt := (Nat.log2_lt h.pos.ne').2 h.lt
  have hle := Nat.le_log2 h.pos.ne' (k := 52)
  have hleast := h.least
  have hnormal := h.normal
  unfold place
  omega

/-- The mantissa has enough places for a double that it is rounded to. -/
def Fits (m : Nat) (e : Int) : Prop := 2 ^ 52 ≤ m ∨ e ≤ -1074

theorem Fits.le_place {m : Nat} {e : Int} (h : Fits m e) : e ≤ place m e := by
  unfold place
  obtain h | h := h
  · have := (Nat.le_log2 (by omega)).2 h
    omega
  · omega

theorem shiftToTargetExponent_eq {m : Nat} {e : Int} (a : Accuracy) (h : e ≤ place m e) :
    shiftToTargetExponent .binary64 m e a =
      (ExtendedMantissa.ofMantissaAndAccuracy m a >>> (place m e - e).toNat, place m e) := by
  unfold shiftToTargetExponent shiftToExponent
  rw [targetExponent_eq]
  refine Prod.ext rfl ?_
  show e + (place m e - e).toNat = place m e
  omega

section roundWithAccuracy

variable {m r : Nat} {e : Int} {a : Accuracy} {s : Sign}

/-- The mantissa is shifted to its place and rounded there, and what comes out is shifted once more. -/
theorem roundWithAccuracy_of_shifted {em em' : ExtendedMantissa} {p p' : Int}
    (hfirst : shiftToTargetExponent .binary64 m e a = (em, p)) (hr : em.roundedMantissa = r)
    (hsecond : shiftToTargetExponent .binary64 r p .exact = (em', p')) (hpos : 0 < em'.mantissa) :
    roundWithAccuracy .binary64 s m e a = .finite s em'.mantissa p' hpos := by
  subst hr
  unfold roundWithAccuracy
  rw [hfirst]
  dsimp only
  rw [hsecond]
  exact dif_neg hpos.ne'

/-- If the rounded mantissa still has no more than 53 bits, it stays. -/
theorem roundWithAccuracy_of_canonical (h : e ≤ place m e)
    (hr : (ExtendedMantissa.ofMantissaAndAccuracy m a >>> (place m e - e).toNat).roundedMantissa = r)
    (hc : Canonical r (place m e)) :
    roundWithAccuracy .binary64 s m e a = .finite s r (place m e) hc.pos := by
  have hagain := shiftToTargetExponent_eq .exact hc.place_eq.ge
  rw [hc.place_eq, sub_self] at hagain
  exact roundWithAccuracy_of_shifted (shiftToTargetExponent_eq a h) hr hagain hc.pos

/-- Rounding may lead to the next power of two, whose exponent is one more. -/
theorem roundWithAccuracy_of_overflow (h : e ≤ place m e)
    (hr : (ExtendedMantissa.ofMantissaAndAccuracy m a >>> (place m e - e).toNat).roundedMantissa = 2 ^ 53) :
    roundWithAccuracy .binary64 s m e a = .finite s (2 ^ 52) (place m e + 1) (by decide) := by
  have hleast : -1074 ≤ place m e := le_max_right _ _
  have hplace : place (2 ^ 53) (place m e) = place m e + 1 := by
    rw [place, Nat.log2_two_pow]
    omega
  have hagain := shiftToTargetExponent_eq .exact (hplace ▸ Int.le_add_one le_rfl : place m e ≤ place (2 ^ 53) _)
  rw [hplace, add_sub_cancel_left] at hagain
  exact roundWithAccuracy_of_shifted (shiftToTargetExponent_eq a h) hr hagain (by decide)

end roundWithAccuracy

/-! ### The numbers that end in a double -/

/-- The numbers that are nearest to the double `m * 2 ^ e`, counted in quarters of its last place: they reach half way
to its neighbours, and the neighbour below a power of two is nearer.  What lies half way goes to an even mantissa. -/
structure Rounds (m : Nat) (e : Int) (q : Rat) : Prop where
  low : (if m = 2 ^ 52 ∧ e ≠ -1074 then 4 * (m : Rat) - 1 else 4 * m - 2) * 2 ^ (e - 2) ≤ q
  high : q ≤ (4 * m + 2) * 2 ^ (e - 2)
  odd : m % 2 = 1 → (4 * (m : Rat) - 2) * 2 ^ (e - 2) < q ∧ q < (4 * m + 2) * 2 ^ (e - 2)

section Rounds

variable {m M : Nat} {e E : Int} {a : Accuracy} {q w : Rat}

theorem two_zpow_add (n : Nat) (e : Int) : (2 : Rat) ^ (n + e) = 2 ^ n * 2 ^ e := by
  rw [zpow_add₀ two_ne_zero, zpow_natCast]

theorem two_zpow_ofNat_add (n : Nat) [n.AtLeastTwo] (e : Int) :
    (2 : Rat) ^ ((OfNat.ofNat n : Int) + e) = 2 ^ (OfNat.ofNat n : Nat) * 2 ^ e :=
  two_zpow_add (OfNat.ofNat n) e

theorem two_zpow (e : Int) : (2 : Rat) ^ e = 4 * 2 ^ (e - 2) := by
  have h := two_zpow_add 2 (e - 2)
  norm_num at h
  exact h

theorem Rounds.half (h : Rounds m e q) : (4 * (m : Rat) - 2) * 2 ^ (e - 2) ≤ q := by
  have hu : (0 : Rat) < 2 ^ (e - 2) := by positivity
  refine le_trans (mul_le_mul_of_nonneg_right ?_ hu.le) h.low
  split <;> linarith

/-- A double is nearest to itself. -/
theorem Rounds.self (m : Nat) (e : Int) : Rounds m e (m * 2 ^ e) := by
  have hu : (0 : Rat) < 2 ^ (e - 2) := by positivity
  rw [two_zpow e, mul_left_comm, ← mul_assoc]
  refine ⟨mul_le_mul_of_nonneg_right ?_ hu.le, mul_le_mul_of_nonneg_right (by linarith) hu.le, fun _ =>
    ⟨mul_lt_mul_of_pos_right (by linarith) hu, mul_lt_mul_of_pos_right (by linarith) hu⟩⟩
  split <;> linarith

/-- In units of the last place. -/
theorem Rounds.distance (h : Rounds m e (w * 2 ^ e)) :
    m - 1 / 2 ≤ w ∧ w ≤ m + 1 / 2 ∧ (m % 2 = 1 → m - 1 / 2 < w ∧ w < m + 1 / 2) := by
  have hu : (0 : Rat) < 2 ^ e := by positivity
  have hbelow : (m - 1 / 2) * (2 : Rat) ^ e = (4 * m - 2) * 2 ^ (e - 2) := by
    rw [two_zpow e]
    ring
  have habove : (m + 1 / 2) * (2 : Rat) ^ e = (4 * m + 2) * 2 ^ (e - 2) := by
    rw [two_zpow e]
    ring
  refine ⟨le_of_mul_le_mul_right (hbelow.trans_le h.half) hu, le_of_mul_le_mul_right (h.high.trans_eq habove.symm) hu,
    fun hodd => ?_⟩
  obtain ⟨hlow, hhigh⟩ := h.odd hodd
  exact ⟨lt_of_mul_lt_mul_right (hbelow.trans_lt hlow) hu.le,
    lt_of_mul_lt_mul_right (hhigh.trans_eq habove.symm) hu.le⟩

/-- Shifting takes the exponent along. -/
theorem mul_two_zpow (w : Rat) {E T : Int} (h : E ≤ T) : w * 2 ^ E = w / 2 ^ (T - E).toNat * 2 ^ T := by
  obtain ⟨n, rfl⟩ := Int.exists_add_of_le h
  rw [add_sub_cancel_left, Int.toNat_natCast, add_comm E, two_zpow_add, ← mul_assoc,
    div_mul_cancel₀ _ (pow_ne_zero n two_ne_zero)]

theorem mul_two_zpow_mul (m n : Nat) (e f : Int) :
    (m : Rat) * 2 ^ e * (n * 2 ^ f) = ((m * n : Nat) : Rat) * 2 ^ (e + f) := by
  rw [zpow_add₀ two_ne_zero]
  push_cast
  ring

/-- The size of a number in terms of the whole part of what represents it. -/
theorem Represents.size (hw : Represents (.ofMantissaAndAccuracy M a) w) (hM : M ≠ 0) :
    (2 : Rat) ^ (M.log2 + E) ≤ w * 2 ^ E ∧ w * 2 ^ E < 2 ^ (M.log2 + E + 1) := by
  have hE : (0 : Rat) < 2 ^ E := by positivity
  obtain ⟨hfloor, hnext⟩ := hw.floor_of_accuracy
  have hlow : ((2 ^ M.log2 : Nat) : Rat) ≤ M := by exact_mod_cast Nat.log2_self_le hM
  have hhigh : ((M + 1 : Nat) : Rat) ≤ (2 ^ (M.log2 + 1) : Nat) := by exact_mod_cast Nat.lt_log2_self
  push_cast at hlow hhigh
  constructor
  · rw [two_zpow_add]
    exact mul_le_mul_of_nonneg_right (hlow.trans hfloor) hE.le
  · rw [show M.log2 + E + 1 = (M.log2 + 1 : Nat) + E by omega, two_zpow_add]
    exact mul_lt_mul_of_pos_right (hnext.trans_le hhigh) hE

theorem Represents.mantissa_ne_zero (hw : Represents (.ofMantissaAndAccuracy M a) w) (hfits : Fits M E)
    (hleast : 2 ^ (-1074 : Int) ≤ w * 2 ^ E) : M ≠ 0 := by
  rintro rfl
  have hE : E ≤ -1074 := hfits.resolve_left (by decide)
  have hw1 : w < 1 := by simpa using hw.floor_of_accuracy.2
  have hlt : w * 2 ^ E < 2 ^ E := mul_lt_of_lt_one_left (by positivity) hw1
  have := (zpow_lt_zpow_iff_right₀ (one_lt_two : (1 : Rat) < 2)).1 (hleast.trans_lt hlt)
  omega

/-- Where the last place lies of a mantissa whose exact value is nearest to a double: at the exponent of the double, or
just below a power of two one place further down. -/
theorem Rounds.place_eq (hc : Canonical m e) (hr : Rounds m e (w * 2 ^ E))
    (hw : Represents (.ofMantissaAndAccuracy M a) w) (hfits : Fits M E) :
    place M E = e ∨ place M E = e - 1 ∧ m = 2 ^ 52 ∧ e ≠ -1074 ∧ w * 2 ^ E < 2 ^ (54 + (e - 2)) := by
  have hu : (0 : Rat) < 2 ^ (e - 2) := by positivity
  have hleast := hc.least
  have hm : (m : Rat) + 1 ≤ 2 ^ 53 := by exact_mod_cast hc.lt
  -- the value is below the next power of two
  have hbelow : w * 2 ^ E < 2 ^ (55 + (e - 2)) := by
    rw [two_zpow_ofNat_add]
    exact hr.high.trans_lt (mul_lt_mul_of_pos_right (by linarith) hu)
  have hmagnitude (hM : M ≠ 0) : M.log2 + E < 55 + (e - 2) :=
    (zpow_lt_zpow_iff_right₀ one_lt_two).1 ((hw.size hM).1.trans_lt hbelow)
  by_cases he : e = -1074
  · left
    unfold place
    obtain rfl | hM := eq_or_ne M 0
    · have hE : E ≤ -1074 := hfits.resolve_left (by decide)
      rw [Nat.log2_zero]
      omega
    · have := hmagnitude hM
      omega
  have hnormal : (2 : Rat) ^ 52 ≤ m := by exact_mod_cast hc.normal.resolve_right he
  have habove : 2 ^ (53 + (e - 2)) < w * 2 ^ E := by
    rw [two_zpow_ofNat_add]
    exact (mul_lt_mul_of_pos_right (by linarith) hu).trans_le hr.half
  have hM : M ≠ 0 := hw.mantissa_ne_zero hfits ((zpow_le_zpow_right₀ one_le_two (by omega)).trans habove.le)
  have hlow : 53 + (e - 2) < M.log2 + E + 1 :=
    (zpow_lt_zpow_iff_right₀ one_lt_two).1 (habove.trans (hw.size hM).2)
  have hhigh := hmagnitude hM
  unfold place
  obtain hlog | hlog : M.log2 + E = 52 + e ∨ M.log2 + E = 51 + e := by omega
  · left
    omega
  · right
    have htop : w * 2 ^ E < 2 ^ (54 + (e - 2)) := by
      have h := (hw.size (E := E) hM).2
      rwa [hlog, show 51 + e + 1 = 54 + (e - 2) by omega] at h
    refine ⟨by omega, ?_, he, htop⟩
    -- a longer mantissa would lie above the power of two
    by_contra hne
    have hlong : (2 : Rat) ^ 52 + 1 ≤ m := by
      have := hc.normal.resolve_right he
      exact_mod_cast (by omega : 2 ^ 52 + 1 ≤ m)
    rw [two_zpow_ofNat_add] at htop
    have := (mul_le_mul_of_nonneg_right (by linarith : (2 : Rat) ^ 54 ≤ 4 * m - 2) hu.le).trans hr.half
    linarith

/-- Exact values that are nearest to a double end in it. -/
theorem roundWithAccuracy_of_rounds {s : Sign} (hc : Canonical m e) (hr : Rounds m e (w * 2 ^ E))
    (hw : Represents (.ofMantissaAndAccuracy M a) w) (hfits : Fits M E) :
    roundWithAccuracy .binary64 s M E a = .finite s m e hc.pos := by
  have hle := hfits.le_place
  have hshifted := hw.shiftRight (place M E - E).toNat
  have hvalue := mul_two_zpow w hle
  obtain hplace | ⟨hplace, rfl, he, htop⟩ := hr.place_eq hc hw hfits
  · have hrounded : (ExtendedMantissa.ofMantissaAndAccuracy M a >>> (place M E - E).toNat).roundedMantissa = m := by
      rw [hvalue, hplace] at hr
      obtain ⟨hlow, hhigh, hodd⟩ := hr.distance
      rw [hplace] at hshifted ⊢
      exact hshifted.roundedMantissa_eq hlow hhigh hodd
    subst hplace
    exact roundWithAccuracy_of_canonical hle hrounded hc
  · -- one place further down the mantissa is rounded up to the power of two
    have hrounded :
        (ExtendedMantissa.ofMantissaAndAccuracy M a >>> (place M E - E).toNat).roundedMantissa = 2 ^ 53 := by
      have hu : (0 : Rat) < 2 ^ (e - 1) := by positivity
      have hunit : (2 : Rat) ^ (e - 1) = 2 * 2 ^ (e - 2) := by
        have h := two_zpow_add 1 (e - 2)
        rwa [show ((1 : Nat) : Int) + (e - 2) = e - 1 by omega, pow_one] at h
      have hlow := hr.low
      rw [if_pos ⟨rfl, he⟩, hvalue, hplace] at hlow
      rw [two_zpow_ofNat_add, hvalue, hplace] at htop
      rw [hplace] at hshifted ⊢
      refine hshifted.roundedMantissa_eq ?_ ?_ (absurd · (by decide))
      · refine le_of_mul_le_mul_right ?_ hu
        push_cast at hlow ⊢
        linarith
      · refine le_of_mul_le_mul_right ?_ hu
        push_cast
        linarith
    obtain rfl : place M E + 1 = e := by omega
    exact roundWithAccuracy_of_overflow hle hrounded

/-- Exact values that are no less than the least double above zero end in a double above zero, which may be too large to
be finite. -/
theorem exists_roundWithAccuracy {s : Sign} (hw : Represents (.ofMantissaAndAccuracy M a) w) (hfits : Fits M E)
    (hleast : 2 ^ (-1074 : Int) ≤ w * 2 ^ E) :
    ∃ m e, ∃ hc : Canonical m e, roundWithAccuracy .binary64 s M E a = .finite s m e hc.pos := by
  have hle := hfits.le_place
  have hT : (0 : Rat) < 2 ^ place M E := by positivity
  have hM : M ≠ 0 := hw.mantissa_ne_zero hfits hleast
  obtain ⟨hlow, hhigh⟩ := hw.size (E := E) hM
  have hfloor := (hw.shiftRight (place M E - E).toNat).floor
  have hrounded := Represents.le_roundedMantissa (ExtendedMantissa.ofMantissaAndAccuracy M a >>> (place M E - E).toNat)
  rw [mul_two_zpow w hle] at hlow hhigh hleast
  generalize w / 2 ^ (place M E - E).toNat = w at hfloor hlow hhigh hleast
  generalize hem : ExtendedMantissa.ofMantissaAndAccuracy M a >>> (place M E - E).toNat = em at hfloor hrounded
  have hbelow : em.mantissa < 2 ^ 53 := by
    have hpow : (2 : Rat) ^ (M.log2 + E + 1) ≤ 2 ^ (53 + place M E) :=
      zpow_le_zpow_right₀ one_le_two (by unfold place; omega)
    have hlt := lt_of_mul_lt_mul_right (hhigh.trans_le (hpow.trans_eq (two_zpow_ofNat_add 53 _))) hT.le
    exact_mod_cast hfloor.1.trans_lt hlt
  have hnormal : 2 ^ 52 ≤ em.mantissa ∨ place M E = -1074 := by
    refine or_iff_not_imp_right.2 fun hplace => ?_
    rw [show M.log2 + E = 52 + place M E by unfold place at hplace ⊢; omega, two_zpow_ofNat_add] at hlow
    have hlt := (le_of_mul_le_mul_right hlow hT).trans_lt hfloor.2
    exact Nat.le_of_lt_succ (by exact_mod_cast hlt)
  have hpos : 0 < em.mantissa := by
    obtain h | h := hnormal
    · omega
    · rw [h] at hleast hT
      have hlt := (le_of_mul_le_mul_right ((one_mul _).trans_le hleast) hT).trans_lt hfloor.2
      exact Nat.lt_of_succ_lt_succ (by exact_mod_cast hlt)
  have hT' : -1074 ≤ place M E := le_max_right _ _
  obtain hlt | heq : em.roundedMantissa < 2 ^ 53 ∨ em.roundedMantissa = 2 ^ 53 := by omega
  · have hc : Canonical em.roundedMantissa (place M E) :=
      ⟨by omega, hlt, hT', hnormal.imp_left fun h => h.trans hrounded.1⟩
    exact ⟨_, _, hc, roundWithAccuracy_of_canonical hle (by rw [hem]) hc⟩
  · have hc : Canonical (2 ^ 52) (place M E + 1) := ⟨by decide, by decide, by omega, .inl le_rfl⟩
    exact ⟨_, _, hc, roundWithAccuracy_of_overflow hle (by rw [hem, heq])⟩

end Rounds

end ReportCard
