import ReportCard.Number.Exact
import ReportCard.Proofs.Number.Float
import ReportCard.Proofs.Number.Rounding

/-!
# Doubles and their parts

A finite double stands for a rational, its mantissa times a power of two.  Mantissa and exponent of a double can be
packed and are unpacked again, and whatever is packed keeps its sign.  From that the products of doubles have the sign
that they should have.
-/

namespace ReportCard

open Float.Model Float.Model.UnpackedFloat

variable {s : Sign} {m : Nat} {e : Int} {x y : Float}

/-- The rational that a double stands for, if it is finite. -/
def Exact.rat? (x : Float) : Option Rat :=
  match ofFloat x with
  | .finite negative m e => some (signed negative m * (2 : Rat) ^ e)
  | _ => none

theorem Exact.unpack_of_ofFloat (h : ofFloat x = finite false m e) (hm : 0 < m) :
    x.toModel.unpack = .finite .positive m e hm := by
  unfold ofFloat at h
  cases hx : x.toModel.unpack with
  | notANumber => simp [hx] at h
  | infinity s => simp [hx] at h
  | zero s =>
    rw [hx] at h
    exact absurd (finite.inj h).2.1 hm.ne
  | finite s m' e' hm' =>
    rw [hx] at h
    obtain ⟨hsign, rfl, rfl⟩ := finite.inj h
    cases s with
    | positive => rfl
    | negative => cases hsign

/-! ### Packing -/

/-- The sign of an unpacked double, if it is a number. -/
def sign? : UnpackedFloat → Option Sign
  | .notANumber => none
  | .infinity s | .zero s | .finite s _ _ _ => some s

private theorem ofBitVec_unpackSign (s : Sign) (ev : BitVec 11) (mv : BitVec 52) :
    Sign.ofBitVec (unpackSign (packComponents .binary64 s ev mv)) = s := by
  have hfirst : unpackSign (packComponents .binary64 s ev mv) = s.toBitVec := by
    unfold unpackSign packComponents BitVec.extractLsb
    rw [BitVec.extractLsb'_append_eq_of_le (by decide), BitVec.extractLsb'_append_eq_of_le (by decide)]
    cases s <;> rfl
  rw [hfirst]
  cases s <;> rfl

private theorem finite_congr {n : Nat} {f : Int} {hm : 0 < m} {hn : 0 < n} (h : m = n) (h' : e = f) :
    UnpackedFloat.finite s m e hm = .finite s n f hn := by
  subst h h'
  rfl

section Parts

variable {bits : BitVec 64} (hsign : Sign.ofBitVec (@unpackSign Format.binary64 bits) = s)

include hsign

/-- The parts of a double with a leading bit that is not written down. -/
private theorem unpack_normal {b : Nat} (hexponent : @unpackExponent Format.binary64 bits = BitVec.ofNat 11 b)
    (hmantissa : @unpackMantissa Format.binary64 bits = BitVec.ofNat 52 m) (hlow : 1 ≤ b) (hhigh : b < 2047)
    (hm : 2 ^ 52 ≤ m) (hlt : m < 2 ^ 53) : unpack .binary64 bits = .finite s m (b - 1075) (by omega) := by
  have hb : (@unpackExponent Format.binary64 bits).toNat = b := by
    rw [hexponent]
    exact Nat.mod_eq_of_lt (by omega)
  have hlast : @unpackExponent Format.binary64 bits ≠ -1#11 := fun h => by
    rw [h] at hb
    exact absurd hb.symm (Nat.ne_of_lt hhigh)
  have hfirst : @unpackExponent Format.binary64 bits ≠ 0#11 := fun h => by
    rw [h] at hb
    exact absurd hb.symm (Nat.ne_of_gt hlow)
  have hvalue : (1#1 ++ @unpackMantissa Format.binary64 bits).toNat = m := by
    rw [hmantissa, BitVec.toNat_append, ← Nat.shiftLeft_add_eq_or_of_lt (BitVec.isLt _), BitVec.toNat_ofNat,
      Nat.shiftLeft_eq]
    show 1 * 2 ^ 52 + m % 2 ^ 52 = m
    omega
  unfold UnpackedFloat.unpack
  dsimp only
  rw [hsign, if_neg hlast, if_neg hfirst]
  exact finite_congr hvalue (by rw [hb]; rfl)

/-- The parts of a double at the least exponent. -/
private theorem unpack_subnormal (hexponent : @unpackExponent Format.binary64 bits = 0#11)
    (hmantissa : @unpackMantissa Format.binary64 bits = BitVec.ofNat 52 m) (hm : 0 < m) (hlt : m < 2 ^ 52) :
    unpack .binary64 bits = .finite s m (-1074) hm := by
  have hvalue : (@unpackMantissa Format.binary64 bits).toNat = m := by
    rw [hmantissa]
    exact Nat.mod_eq_of_lt hlt
  have hlast : @unpackExponent Format.binary64 bits ≠ -1#11 := by
    rw [hexponent]
    decide
  have hne : @unpackMantissa Format.binary64 bits ≠ 0#52 := fun h => by
    rw [h] at hvalue
    exact absurd hvalue (Nat.ne_of_lt hm)
  unfold UnpackedFloat.unpack
  dsimp only
  rw [hsign, if_neg hlast, if_pos hexponent, dif_neg hne]
  exact finite_congr hvalue (by rw [hexponent]; rfl)

/-- A double whose exponent is not the last one is a number with its sign. -/
private theorem sign?_unpack (hexponent : @unpackExponent Format.binary64 bits ≠ -1#11) :
    sign? (unpack .binary64 bits) = some s := by
  unfold UnpackedFloat.unpack
  dsimp only
  rw [hsign, if_neg hexponent]
  by_cases hfirst : @unpackExponent Format.binary64 bits = 0#11
  · rw [if_pos hfirst]
    by_cases hzero : @unpackMantissa Format.binary64 bits = 0#52
    · rw [dif_pos hzero]
      rfl
    · rw [dif_neg hzero]
      rfl
  · rw [if_neg hfirst]
    rfl

/-- The parts of a double that is too large to be finite. -/
private theorem unpack_infinity (hexponent : @unpackExponent Format.binary64 bits = -1#11)
    (hmantissa : @unpackMantissa Format.binary64 bits = 0#52) : unpack .binary64 bits = .infinity s := by
  unfold UnpackedFloat.unpack
  dsimp only
  rw [hsign, if_pos hexponent, if_pos hmantissa]

end Parts

/-- How a double is packed: the exponent is biased, and the leading bit of the mantissa is left out if there is one. -/
private theorem pack_finite (hm : 0 < m) : UnpackedFloat.pack .binary64 (.finite s m e hm) =
    if 2 ^ 11 ≤ (e + 1075).toNat + 1 then packedInfinity .binary64 s
    else if m.log2 + 1 = Format.binary64.mantissaBits then
      packComponents .binary64 s (BitVec.ofNat 11 (e + 1075).toNat) (BitVec.ofNat 52 m)
    else packComponents .binary64 s 0#11 (BitVec.ofNat 52 m) := by
  have hbiased : (e + Format.binary64.exponentBias + (52 : Nat)).toNat = (e + 1075).toNat := by
    show (e + (1023 : Nat) + (52 : Nat)).toNat = (e + 1075).toNat
    omega
  have hpack : UnpackedFloat.pack .binary64 (.finite s m e hm) =
      let b := (e + Format.binary64.exponentBias + (52 : Nat)).toNat
      if 2 ^ 11 ≤ b + 1 then packedInfinity .binary64 s
      else if m.log2 + 1 = Format.binary64.mantissaBits then
        packComponents .binary64 s (BitVec.ofNat 11 b) (BitVec.ofNat 52 m)
      else packComponents .binary64 s 0#11 (BitVec.ofNat 52 m) := rfl
  rw [hbiased] at hpack
  exact hpack

/-- What is packed can be unpacked again, unless its exponent is too large. -/
theorem unpack_pack (h : Canonical m e) :
    (Float.Model.pack (.finite s m e h.pos)).unpack = if e ≤ 971 then .finite s m e h.pos else .infinity s := by
  have hlog := (Nat.log2_lt h.pos.ne').2 h.lt
  have hleast := h.least
  show UnpackedFloat.unpack .binary64 (UnpackedFloat.pack .binary64 (.finite s m e h.pos)) = _
  rw [pack_finite]
  by_cases he : e ≤ 971
  · have hsmall : ¬2 ^ 11 ≤ (e + 1075).toNat + 1 := by omega
    rw [if_neg hsmall, if_pos he]
    by_cases hbits : m.log2 + 1 = Format.binary64.mantissaBits
    · have hbits' : m.log2 + 1 = 53 := hbits
      have hm := (Nat.le_log2 h.pos.ne').1 (by omega : 52 ≤ m.log2)
      rw [if_pos hbits]
      refine (unpack_normal (ofBitVec_unpackSign s _ _) (unpackExponent_packComponents ..)
        (unpackMantissa_packComponents ..) (by omega : 1 ≤ (e + 1075).toNat) (by omega) hm h.lt).trans ?_
      exact finite_congr rfl (by omega)
    · have hbits' : ¬m.log2 + 1 = 53 := hbits
      have hm : m < 2 ^ 52 := (Nat.log2_lt h.pos.ne').1 (by omega)
      obtain rfl := h.normal.resolve_left (by omega)
      rw [if_neg hbits]
      exact unpack_subnormal (ofBitVec_unpackSign s _ _) (unpackExponent_packComponents ..)
        (unpackMantissa_packComponents ..) h.pos hm
  · have hlarge : 2 ^ 11 ≤ (e + 1075).toNat + 1 := by omega
    rw [if_pos hlarge, if_neg he]
    exact unpack_infinity (ofBitVec_unpackSign s _ _) (unpackExponent_packComponents ..)
      (unpackMantissa_packComponents ..)

/-- Packing keeps the sign, also of what is too large or has too many bits. -/
theorem sign?_unpack_pack (hm : 0 < m) : sign? (Float.Model.pack (.finite s m e hm)).unpack = some s := by
  show sign? (UnpackedFloat.unpack .binary64 (UnpackedFloat.pack .binary64 (.finite s m e hm))) = some s
  rw [pack_finite]
  by_cases hlarge : 2 ^ 11 ≤ (e + 1075).toNat + 1
  · rw [if_pos hlarge]
    exact congrArg sign? (unpack_infinity (ofBitVec_unpackSign s _ _) (unpackExponent_packComponents ..)
      (unpackMantissa_packComponents ..))
  · rw [if_neg hlarge]
    by_cases hbits : m.log2 + 1 = Format.binary64.mantissaBits
    · rw [if_pos hbits]
      refine sign?_unpack (ofBitVec_unpackSign s _ _) fun hlast => hlarge ?_
      -- only an exponent that is too large is packed as the last one
      have hexponent := congrArg BitVec.toNat ((unpackExponent_packComponents ..).symm.trans hlast)
      have hlt : (e + 1075).toNat < 2 ^ 11 := by omega
      have hvalue : (e + 1075).toNat = 2 ^ 11 - 1 := (Nat.mod_eq_of_lt hlt).symm.trans hexponent
      omega
    · rw [if_neg hbits]
      refine sign?_unpack (ofBitVec_unpackSign s _ _) fun hlast => ?_
      exact absurd ((unpackExponent_packComponents ..).symm.trans hlast) (by decide)

/-! ### Signs -/

theorem zero_lt_iff_unpack_eq : 0.0 < x ↔ x.toModel.unpack = .infinity .positive ∨
    ∃ m e hm, x.toModel.unpack = .finite .positive m e hm := by
  rw [zero_lt_iff_unpack]
  cases x.toModel.unpack with
  | notANumber => exact iff_of_false nofun (by rintro (h | ⟨_, _, _, h⟩) <;> cases h)
  | infinity s =>
    cases s with
    | positive => exact iff_of_true rfl (.inl rfl)
    | negative => exact iff_of_false nofun (by rintro (h | ⟨_, _, _, h⟩) <;> cases h)
  | zero s => exact iff_of_false nofun (by rintro (h | ⟨_, _, _, h⟩) <;> cases h)
  | finite s m e hm =>
    cases s with
    | positive => exact iff_of_true rfl (.inr ⟨m, e, hm, rfl⟩)
    | negative => exact iff_of_false nofun (by rintro (h | ⟨_, _, _, h⟩) <;> cases h)

/-- A double is zero or more if it is a zero, of either sign, or has the sign of what is above. -/
theorem zero_le_iff_unpack : 0.0 ≤ x ↔
    (∃ s, x.toModel.unpack = .zero s) ∨ sign? x.toModel.unpack = some .positive := by
  have hzero : (0.0 : Float).toModel.unpack = .zero .positive := rfl
  rw [le_iff_unpack, hzero]
  cases x.toModel.unpack with
  | notANumber => exact iff_of_false nofun (by rintro (⟨_, h⟩ | h) <;> cases h)
  | zero s => exact iff_of_true rfl (.inl ⟨s, rfl⟩)
  | infinity s | finite s m e hm =>
    cases s with
    | positive => exact iff_of_true rfl (.inr rfl)
    | negative => exact iff_of_false nofun (by rintro (⟨_, h⟩ | h) <;> cases h)

/-- Rounding keeps the sign, down to a zero. -/
private theorem roundWithAccuracy_cases (s : Sign) (m : Nat) (e : Int) (a : Accuracy) :
    roundWithAccuracy .binary64 s m e a = .zero s ∨
      ∃ n f hn, roundWithAccuracy .binary64 s m e a = .finite s n f hn := by
  have hcases {r : Nat} (p : Int) :
      let u := if h : r = 0 then UnpackedFloat.zero s else .finite s r p (Nat.pos_of_ne_zero h)
      u = .zero s ∨ ∃ n f hn, u = .finite s n f hn := by
    by_cases hr : r = 0
    · exact .inl (dif_pos hr)
    · exact .inr ⟨r, p, Nat.pos_of_ne_zero hr, dif_neg hr⟩
  exact hcases _

/-- What is zero or more stays so when it is multiplied by a finite double above zero, even where the product is too
small or too large for a double. -/
theorem zero_le_mul (hx : 0.0 ≤ x) (hy : 0.0 < y) (hfinite : y.isFinite = true) : 0.0 ≤ x * y := by
  have hproduct : (x * y).toModel.unpack =
      (Float.Model.pack (.mul .binary64 x.toModel.unpack y.toModel.unpack)).unpack := rfl
  have hfinite : y.toModel.unpack.isFinite = true := hfinite
  obtain ⟨n, f, hn, hy⟩ : ∃ n f hn, y.toModel.unpack = .finite .positive n f hn := by
    obtain hinfinite | hy := zero_lt_iff_unpack_eq.1 hy
    · rw [hinfinite] at hfinite
      cases hfinite
    · exact hy
  rw [zero_le_iff_unpack, hproduct, hy]
  cases hu : x.toModel.unpack with
  | notANumber => rcases zero_le_iff_unpack.1 hx with ⟨_, h⟩ | h <;> rw [hu] at h <;> cases h
  | zero s =>
    have hmul : UnpackedFloat.mul .binary64 (.zero s) (.finite .positive n f hn) = .zero (s * .positive) := rfl
    rw [hmul]
    exact .inl ⟨s, by cases s <;> rfl⟩
  | infinity s =>
    cases s with
    | positive =>
      have hmul : UnpackedFloat.mul .binary64 (.infinity .positive) (.finite .positive n f hn) =
          .infinity .positive := rfl
      rw [hmul]
      exact .inr rfl
    | negative => rcases zero_le_iff_unpack.1 hx with ⟨_, h⟩ | h <;> rw [hu] at h <;> cases h
  | finite s m e hm =>
    cases s with
    | positive =>
      have hmul : UnpackedFloat.mul .binary64 (.finite .positive m e hm) (.finite .positive n f hn) =
          roundWithAccuracy .binary64 .positive (m * n) (e + f) .exact := rfl
      rw [hmul]
      obtain hround | ⟨r, p, hr, hround⟩ := roundWithAccuracy_cases .positive (m * n) (e + f) .exact
      · rw [hround]
        exact .inl ⟨.positive, rfl⟩
      · rw [hround]
        exact .inr (sign?_unpack_pack hr)
    | negative => rcases zero_le_iff_unpack.1 hx with ⟨_, h⟩ | h <;> rw [hu] at h <;> cases h

/-- What is not a number stays so when it is multiplied. -/
theorem isNaN_mul (hx : x.isNaN = true) (y : Float) : (x * y).isNaN = true := by
  have hx : x.toModel.unpack.isNaN = true := hx
  show (Float.Model.pack (UnpackedFloat.mul .binary64 x.toModel.unpack y.toModel.unpack)).unpack.isNaN = true
  cases hu : x.toModel.unpack with
  | notANumber =>
    have hmul : UnpackedFloat.mul .binary64 .notANumber y.toModel.unpack = .notANumber := rfl
    rw [hmul]
    rfl
  | _ => rw [hu] at hx; cases hx

/-- A product that is no less than the least double above zero is above zero. -/
theorem exists_unpack_mul {n : Nat} {f : Int} (hm : 2 ^ 52 ≤ m) (hn : 0 < n)
    (hleast : (2 : Rat) ^ (-1074 : Int) ≤ m * 2 ^ e * (n * 2 ^ f)) :
    ∃ r p, ∃ hc : Canonical r p,
      UnpackedFloat.mul .binary64 (.finite s m e (by omega)) (.finite .positive n f hn) = .finite s r p hc.pos := by
  have hfits : Fits (m * n) (e + f) := .inl (hm.trans (Nat.le_mul_of_pos_right m hn))
  rw [mul_two_zpow_mul] at hleast
  obtain ⟨r, p, hc, hr⟩ := exists_roundWithAccuracy (s := s) (.exact (m * n)) hfits hleast
  refine ⟨r, p, hc, ?_⟩
  rw [← hr]
  cases s <;> rfl

/-- A double above zero that is multiplied by a double of one or more stays above zero. -/
theorem mul_pos_of_one_le {hm : 0 < m} (hx : x.toModel.unpack = .finite .positive m e hm) (hone : 1 ≤ m * (2 : Rat) ^ e)
    (hy : 0.0 < y) : 0.0 < x * y := by
  have hproduct : (x * y).toModel.unpack =
      (Float.Model.pack (.mul .binary64 (.finite .positive m e hm) y.toModel.unpack)).unpack := by
    rw [← hx]
    rfl
  obtain ⟨hcx, -⟩ := canonical_of_unpack hx
  rw [zero_lt_iff_unpack_eq]
  obtain hinfinite | ⟨n, f, hn, hfinite⟩ := zero_lt_iff_unpack_eq.1 hy
  · left
    rw [hproduct, hinfinite]
    show (Float.Model.pack (.infinity .positive)).unpack = .infinity .positive
    rfl
  · obtain ⟨hcy, -⟩ := canonical_of_unpack hfinite
    have hnormal : 2 ^ 52 ≤ m := by
      refine hcx.normal.resolve_right fun he => hone.not_gt ?_
      have hlt : (m : Rat) < 2 ^ 53 := by exact_mod_cast hcx.lt
      calc m * (2 : Rat) ^ e < 2 ^ 53 * 2 ^ e := mul_lt_mul_of_pos_right hlt (by positivity)
        _ = 2 ^ ((53 : Nat) + e) := (two_zpow_add 53 e).symm
        _ < 1 := zpow_lt_one_of_neg₀ one_lt_two (by omega)
    have hleast : (2 : Rat) ^ (-1074 : Int) ≤ m * 2 ^ e * (n * 2 ^ f) := by
      have hn' : (1 : Rat) ≤ n := by exact_mod_cast hn
      calc (2 : Rat) ^ (-1074 : Int) ≤ 2 ^ f := zpow_le_zpow_right₀ one_le_two hcy.least
        _ ≤ n * 2 ^ f := le_mul_of_one_le_left (by positivity) hn'
        _ ≤ m * 2 ^ e * (n * 2 ^ f) := le_mul_of_one_le_left (by positivity) hone
    obtain ⟨r, p, hc, hmul⟩ := exists_unpack_mul (s := .positive) hnormal hn hleast
    rw [hproduct, hfinite, hmul, unpack_pack hc]
    by_cases hp : p ≤ 971
    · exact .inr ⟨r, p, hc.pos, if_pos hp⟩
    · exact .inl (if_neg hp)

end ReportCard
