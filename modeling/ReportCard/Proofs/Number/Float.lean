import Mathlib.Algebra.Group.Nat.Defs

/-!
# Doubles by their unpacked form

The order of doubles is read off their unpacked form, and so is their size.  A double above zero is neither below it nor
equal to it; one that is not zero or below is above zero or not a number.  Doubles that are numbers are in order, one
way or the other.  The mantissa and the exponent of a finite double are in a `Canonical` form.
-/

namespace ReportCard

open Float.Model

private theorem unpack_zero : (0.0 : Float).toModel.unpack = .zero .positive := rfl

theorem zero_lt_iff_unpack {x : Float} :
    0.0 < x ↔ UnpackedFloat.lt (.zero .positive) x.toModel.unpack = true := by
  rw [← unpack_zero]
  exact ⟨fun h => of_decide_eq_true h, fun h => decide_eq_true h⟩

theorem le_zero_iff_unpack {x : Float} :
    x ≤ 0.0 ↔ UnpackedFloat.le x.toModel.unpack (.zero .positive) = true := by
  rw [← unpack_zero]
  exact ⟨fun h => of_decide_eq_true h, fun h => decide_eq_true h⟩

theorem lt_zero_iff_unpack {x : Float} :
    x < 0.0 ↔ UnpackedFloat.lt x.toModel.unpack (.zero .positive) = true := by
  rw [← unpack_zero]
  exact ⟨fun h => of_decide_eq_true h, fun h => decide_eq_true h⟩

theorem not_le_zero_of_pos {x : Float} (h : 0.0 < x) : ¬x ≤ 0.0 := by
  intro hle
  have hlt := zero_lt_iff_unpack.1 h
  have hle := le_zero_iff_unpack.1 hle
  revert hlt hle
  cases x.toModel.unpack with
  | notANumber => decide
  | infinity s => cases s <;> decide
  | zero s => cases s <;> decide
  | finite s m e hm =>
    intro hlt hle
    cases s with
    | negative => exact Bool.noConfusion (show false = true from hlt)
    | positive => exact Bool.noConfusion (show false = true from hle)

theorem not_le_zero_iff {x : Float} : ¬x ≤ 0.0 ↔ 0.0 < x ∨ x.isNaN = true := by
  have hnan : x.isNaN = x.toModel.unpack.isNaN := rfl
  rw [le_zero_iff_unpack, zero_lt_iff_unpack, hnan]
  cases x.toModel.unpack with
  | notANumber => decide
  | infinity s => cases s <;> decide
  | zero s => cases s <;> decide
  | finite s m e hm =>
    cases s with
    | negative => exact ⟨fun h => absurd rfl h, fun h => h.elim nofun nofun⟩
    | positive => exact ⟨fun _ => .inl rfl, fun _ => Bool.noConfusion⟩

theorem beq_zero_of_pos {x : Float} (h : 0.0 < x) : (x == 0.0) = false := by
  have hlt := zero_lt_iff_unpack.1 h
  show UnpackedFloat.beq x.toModel.unpack (0.0 : Float).toModel.unpack = false
  rw [unpack_zero]
  revert hlt
  cases x.toModel.unpack with
  | notANumber => decide
  | infinity s => cases s <;> decide
  | zero s => cases s <;> decide
  | finite s m e hm => cases s <;> exact fun _ => rfl

/-! ### Order -/

section Order

variable {x y : Float} {u v : UnpackedFloat}

theorem lt_iff_unpack : x < y ↔ UnpackedFloat.lt x.toModel.unpack y.toModel.unpack = true :=
  ⟨fun h => of_decide_eq_true h, fun h => decide_eq_true h⟩

theorem le_iff_unpack : x ≤ y ↔ UnpackedFloat.le x.toModel.unpack y.toModel.unpack = true :=
  ⟨fun h => of_decide_eq_true h, fun h => decide_eq_true h⟩

/-- Comparing the other way round turns the result. -/
private theorem compare_swap_unpack (u v : UnpackedFloat) : v.compare u = (u.compare v).map Ordering.swap := by
  have hsigns (s t : UnpackedFloat.Sign) : compare t s = (compare s t).swap := by cases s <;> cases t <;> rfl
  have hparts (m n : Nat) (e f : Int) :
      (compare f e).then (compare n m) = ((compare e f).then (compare m n)).swap := by
    rw [Ordering.swap_then, Int.compare_swap, Nat.compare_swap]
  cases u with
  | notANumber => cases v <;> rfl
  | infinity s =>
    cases v with
    | infinity t => exact congrArg some (hsigns s t)
    | _ => cases s <;> rfl
  | zero s =>
    cases v with
    | infinity t | finite t n f hn => cases t <;> rfl
    | _ => rfl
  | finite s m e hm =>
    cases v with
    | notANumber => rfl
    | infinity t => cases t <;> rfl
    | zero t => cases s <;> rfl
    | finite t n f hn =>
      cases s <;> cases t
      · exact congrArg (fun o : Ordering => some o.swap) (hparts m n e f)
      · rfl
      · rfl
      · exact congrArg some (hparts m n e f)

/-- Numbers can be compared. -/
private theorem exists_compare_unpack (hu : u.isNaN = false) (hv : v.isNaN = false) : ∃ o, u.compare v = some o := by
  cases u with
  | notANumber => cases hu
  | infinity s =>
    cases v with
    | notANumber => cases hv
    | infinity t => exact ⟨_, rfl⟩
    | _ => cases s <;> exact ⟨_, rfl⟩
  | zero s =>
    cases v with
    | notANumber => cases hv
    | zero t => exact ⟨_, rfl⟩
    | infinity t | finite t n f hn => cases t <;> exact ⟨_, rfl⟩
  | finite s m e hm =>
    cases v with
    | notANumber => cases hv
    | infinity t => cases t <;> exact ⟨_, rfl⟩
    | zero t => cases s <;> exact ⟨_, rfl⟩
    | finite t n f hn => cases s <;> cases t <;> exact ⟨_, rfl⟩

theorem float_le_of_lt (h : x < y) : x ≤ y := by
  rw [lt_iff_unpack, UnpackedFloat.lt, beq_iff_eq] at h
  rw [le_iff_unpack, UnpackedFloat.le, h]
  rfl

/-- What is not a number has no place in the order. -/
private theorem not_isNaN_of_unpack_le (h : UnpackedFloat.le u v = true) : u.isNaN = false ∧ v.isNaN = false := by
  cases u with
  | notANumber => cases v <;> cases h
  | infinity s =>
    cases v with
    | notANumber => cases s <;> cases h
    | _ => exact ⟨rfl, rfl⟩
  | zero s | finite s m e hm =>
    cases v with
    | notANumber => cases h
    | _ => exact ⟨rfl, rfl⟩

theorem not_isNaN_of_le (h : x ≤ y) : x.isNaN = false ∧ y.isNaN = false := by
  rw [le_iff_unpack] at h
  exact not_isNaN_of_unpack_le h

/-- Of two numbers the second is no more than the first if the first is not less. -/
theorem float_le_of_not_lt (hx : x.isNaN = false) (hy : y.isNaN = false) (h : ¬x < y) : y ≤ x := by
  obtain ⟨o, ho⟩ := exists_compare_unpack (u := x.toModel.unpack) (v := y.toModel.unpack) hx hy
  rw [lt_iff_unpack, UnpackedFloat.lt, ho] at h
  rw [le_iff_unpack, UnpackedFloat.le, compare_swap_unpack, ho]
  cases o with
  | lt => exact absurd rfl h
  | eq => rfl
  | gt => rfl

/-- Numbers are in order, one way or the other. -/
theorem float_le_of_not_le (hx : x.isNaN = false) (hy : y.isNaN = false) (h : ¬x ≤ y) : y ≤ x :=
  float_le_of_not_lt hx hy fun hlt => h (float_le_of_lt hlt)

end Order

/-- A mantissa and an exponent as doubles have them: at most 53 bits, and fewer only at the least exponent. -/
structure Canonical (m : Nat) (e : Int) : Prop where
  pos : 0 < m
  lt : m < 2 ^ 53
  least : -1074 ≤ e
  normal : 2 ^ 52 ≤ m ∨ e = -1074

/-- The mantissa and the exponent of a double; the exponents end at 971. -/
theorem canonical_of_unpack {x : Float} {s : UnpackedFloat.Sign} {m : Nat} {e : Int} {hm : 0 < m}
    (h : x.toModel.unpack = .finite s m e hm) : Canonical m e ∧ e ≤ 971 := by
  unfold Float.Model.unpack UnpackedFloat.unpack at h
  dsimp only at h
  generalize x.toModel.toBits.toBitVec = bits at h
  by_cases hlast : @UnpackedFloat.unpackExponent Format.binary64 bits = -1#_
  · rw [if_pos hlast] at h
    by_cases hinfinite : @UnpackedFloat.unpackMantissa Format.binary64 bits = 0#_
    · rw [if_pos hinfinite] at h
      cases h
    · rw [if_neg hinfinite] at h
      cases h
  · rw [if_neg hlast] at h
    by_cases hfirst : @UnpackedFloat.unpackExponent Format.binary64 bits = 0#_
    · rw [if_pos hfirst] at h
      by_cases hzero : @UnpackedFloat.unpackMantissa Format.binary64 bits = 0#_
      · rw [dif_pos hzero] at h
        cases h
      · -- without the implicit bit the mantissa is shorter
        rw [dif_neg hzero] at h
        cases h
        rw [hfirst]
        have hlt := (@UnpackedFloat.unpackMantissa Format.binary64 bits).isLt
        exact ⟨⟨hm, Nat.lt_trans hlt (by decide), by decide, .inr rfl⟩, by decide⟩
    · rw [if_neg hfirst] at h
      cases h
      have hexponent : (@UnpackedFloat.unpackExponent Format.binary64 bits).toNat < 2048 := BitVec.isLt _
      have hne : (@UnpackedFloat.unpackExponent Format.binary64 bits).toNat ≠ 2047 :=
        fun hne => hlast (BitVec.eq_of_toNat_eq hne)
      have hne' : (@UnpackedFloat.unpackExponent Format.binary64 bits).toNat ≠ 0 :=
        fun hne => hfirst (BitVec.eq_of_toNat_eq hne)
      have hleading : 2 ^ 52 ≤ (1#1 ++ @UnpackedFloat.unpackMantissa Format.binary64 bits).toNat := by
        rw [BitVec.toNat_append]
        exact Nat.left_le_or
      refine ⟨⟨hm, (1#1 ++ @UnpackedFloat.unpackMantissa Format.binary64 bits).isLt, ?_, .inl hleading⟩, ?_⟩
      · show -1074 ≤ ((@UnpackedFloat.unpackExponent Format.binary64 bits).toNat : Int) - 1075
        omega
      · show ((@UnpackedFloat.unpackExponent Format.binary64 bits).toNat : Int) - 1075 ≤ 971
        omega

end ReportCard
