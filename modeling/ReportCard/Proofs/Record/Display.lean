import ReportCard.Proofs.Number.Printing
import ReportCard.Proofs.Value.Writing
import ReportCard.Record.Display

/-!
# Printed texts of numbers

Whole numbers, decimal numbers and finite doubles are printed so that the text reads back as an equal number of the same
kind.  The text has no exponent, except for that of a double that is no whole number and closer to zero than `10 ^ (-4)`
(`formatNumber_plain_iff`).
-/

namespace ReportCard

open Float.Model Float.Model.UnpackedFloat Numeral

/-- A text in plain notation: a minus sign or none, digits, and more digits after a point if there is one. -/
def IsPlainText (s : String) : Prop :=
  ∃ (negative : Bool) (p : PlainNumeral), s = String.ofList (signChars negative ++ p.chars)

theorem isPlainText_iff {cs : List Char} (h : IsUnsigned cs) (negative : Bool) :
    IsPlainText (String.ofList (signChars negative ++ cs)) ↔ ∃ p : PlainNumeral, cs = p.chars := by
  constructor
  · rintro ⟨negative', p, hp⟩
    have hsplit := congrArg splitSign (String.ofList_injective hp)
    rw [h.splitSign_eq, (isUnsigned_chars p).splitSign_eq] at hsplit
    exact ⟨p, (Prod.mk.inj hsplit).2⟩
  · rintro ⟨p, rfl⟩
    exact ⟨negative, p, rfl⟩

/-! ### Whole numbers -/

theorem toString_int (n : Int) :
    toString n = String.ofList (signChars (decide (n < 0)) ++ Digits.ofNat n.natAbs) := by
  cases n with
  | ofNat n => rfl
  | negSucc n =>
    rw [decide_eq_true (Int.negSucc_lt_zero n), String.ofList_append]
    rfl

theorem isPlainText_toString (n : Int) : IsPlainText (toString n) :=
  ⟨_, PlainNumeral.ofNat n.natAbs, by rw [toString_int, PlainNumeral.chars_ofNat]⟩

/-- The text of a whole number reads back as the number, as long as it has no more digits than are read. -/
theorem int_toString {n : Int} (hn : n.natAbs < 10 ^ maxDigits) : Numeral.int (toString n) = .ok n := by
  rw [toString_int, int_ofNat hn]
  by_cases h : n < 0
  · simp [h, abs_of_neg h]
  · simp [h, abs_of_nonneg (not_lt.1 h)]

/-! ### Whole doubles -/

section Whole

variable {m : Nat} {e : Int} {negative : Bool} {x : Float} {v : Rat}

private theorem mul_two_zpow_eq_iff {k n : Nat} (hk : -e = k) : (m : Rat) * 2 ^ e = n ↔ m = n * 2 ^ k := by
  rw [← neg_neg e, hk, zpow_neg, zpow_natCast, ← div_eq_mul_inv, div_eq_iff (by positivity)]
  exact_mod_cast Iff.rfl

theorem Exact.isWholeNat_iff : isWholeNat m e = true ↔ ∃ n : Nat, (m : Rat) * 2 ^ e = n := by
  by_cases he : 0 ≤ e
  · obtain ⟨k, rfl⟩ := Int.eq_ofNat_of_zero_le he
    refine iff_of_true (by simp [isWholeNat]) ⟨m * 2 ^ k, ?_⟩
    rw [zpow_natCast]
    push_cast
    rfl
  · obtain ⟨k, hk⟩ := Int.eq_ofNat_of_zero_le (show 0 ≤ -e by omega)
    have hwhole : isWholeNat m e = true ↔ m % 2 ^ k = 0 := by
      unfold isWholeNat
      rw [hk]
      simp [he, power]
    simp only [hwhole, mul_two_zpow_eq_iff hk, ← Nat.dvd_iff_mod_eq_zero, dvd_iff_exists_eq_mul_left]

/-- The integer part of a whole number is the number itself. -/
theorem Exact.floorNat_eq {n : Nat} (h : (m : Rat) * 2 ^ e = n) : floorNat m e = n := by
  unfold floorNat
  split
  · next he =>
    obtain ⟨k, rfl⟩ := Int.eq_ofNat_of_zero_le he
    rw [zpow_natCast] at h
    exact_mod_cast h
  · next he =>
    obtain ⟨k, hk⟩ := Int.eq_ofNat_of_zero_le (show 0 ≤ -e by omega)
    rw [(mul_two_zpow_eq_iff hk).1 h, hk]
    exact Nat.mul_div_cancel n (Nat.two_pow_pos k)

/-- A double that stands for a whole number is printed as that number, any other with its shortest digits. -/
theorem printed_float (h : Exact.ofFloat x = .finite negative m e) :
    (∀ n : Nat, (m : Rat) * 2 ^ e = n → (Value.float x).printed = toString (Exact.signed negative n)) ∧
    ((∀ n : Nat, (m : Rat) * 2 ^ e ≠ n) → (Value.float x).printed = floatText x) := by
  have htext : (Value.float x).printed = if Exact.isWholeNat m e then
      toString (Exact.signed negative (Exact.floorNat m e)) else floatText x := by
    simp only [Value.printed, h]
  constructor
  · intro n hn
    rw [htext, if_pos (Exact.isWholeNat_iff.2 ⟨n, hn⟩), Exact.floorNat_eq hn]
  · intro hn
    rw [htext, if_neg fun hwhole => (Exact.isWholeNat_iff.1 hwhole).elim hn]

/-- The text of a double that stands for a whole number reads back as an equal double. -/
theorem float?_toString {s : Sign} {hm : 0 < m} {n : Nat} (hx : x.toModel.unpack = .finite s m e hm)
    (hn : (m : Rat) * 2 ^ e = n) :
    ∃ y, float? (toString (Exact.signed (Exact.isNegative s) n)) = some y ∧ (y == x) = true := by
  have hpos : 0 < n := by
    have hm' : (0 : Rat) < m := by exact_mod_cast hm
    have hvalue : (0 : Rat) < n := hn ▸ mul_pos hm' (by positivity)
    exact_mod_cast hvalue
  have hsign : decide (Exact.signed (Exact.isNegative s) n < 0) = Exact.isNegative s := by
    cases s <;> simp [Exact.signed, Exact.isNegative, hpos]
  have habs : (Exact.signed (Exact.isNegative s) n).natAbs = n := by
    cases s <;> simp [Exact.signed, Exact.isNegative]
  have hnumeral := (PlainNumeral.ofNat n).decimal?_chars_self
  rw [toString_int, hsign, habs, ← PlainNumeral.chars_ofNat]
  refine exists_float? hx (isUnsigned_chars _) hnumeral ?_
  show Rounds m e (PlainNumeral.ofNat n).value
  rw [PlainNumeral.value_ofNat, ← hn]
  exact Rounds.self m e

end Whole

/-! ### All doubles -/

section Double

variable {m : Nat} {e : Int} {x : Float} {v : Rat}

theorem abs_signed (negative : Bool) : |(Exact.signed negative m : Rat) * 2 ^ e| = m * 2 ^ e := by
  have hpos : (0 : Rat) < 2 ^ e := by positivity
  cases negative <;> simp [Exact.signed, abs_mul, abs_of_pos hpos]

theorem signed_eq_iff {negative : Bool} {n : Int} : (Exact.signed negative m : Rat) * 2 ^ e = n ↔
    ∃ k : Nat, (m : Rat) * 2 ^ e = k ∧ n = Exact.signed negative k := by
  constructor
  · intro h
    have habs : (m : Rat) * 2 ^ e = n.natAbs := by
      rw [← abs_signed negative, h, Nat.cast_natAbs, Int.cast_abs]
    refine ⟨n.natAbs, habs, ?_⟩
    rw [← Int.cast_inj (α := Rat), ← h]
    cases negative with
    | false => simpa [Exact.signed] using habs
    | true => simpa [Exact.signed] using habs
  · rintro ⟨k, hk, rfl⟩
    cases negative <;> simp [Exact.signed, hk]

private theorem Exact.eq_of_rat? {negative : Bool} (hv : rat? x = some v) (h : ofFloat x = finite negative m e) :
    v = signed negative m * 2 ^ e := by
  unfold rat? at hv
  rw [h] at hv
  exact (Option.some.inj hv).symm

private theorem ofFloat_of_zero {s : Sign} (hx : x.toModel.unpack = .zero s) :
    Exact.ofFloat x = .finite (Exact.isNegative s) 0 0 := by
  unfold Exact.ofFloat
  rw [hx]

private theorem ofFloat_of_finite {s : Sign} {hm : 0 < m} (hx : x.toModel.unpack = .finite s m e hm) :
    Exact.ofFloat x = .finite (Exact.isNegative s) m e := by
  unfold Exact.ofFloat
  rw [hx]

/-- A double that stands for zero is printed without a sign and read back as the zero above. -/
private theorem printed_zero {s : Sign} (hx : x.toModel.unpack = .zero s) :
    (Value.float x).printed = toString (0 : Int) ∧ float? (toString (0 : Int)) = some (nearest 0 0) ∧
      (nearest 0 0 == x) = true := by
  have htext : toString (0 : Int) = String.ofList (signChars false ++ ['0']) := by
    rw [toString_int, Int.natAbs_zero, Digits.ofNat, Nat.toDigits_zero]
    rfl
  have hunsigned : IsUnsigned ['0'] := isUnsigned_of_digits (List.cons_ne_nil _ _) (List.forall_mem_singleton.2 rfl)
  refine ⟨?_, ?_, ?_⟩
  · rw [(printed_float (ofFloat_of_zero hx)).1 0 (by simp)]
    cases s <;> rfl
  · rw [htext]
    exact hunsigned.float?_eq rfl
  · show UnpackedFloat.beq (nearest 0 0).toModel.unpack x.toModel.unpack = true
    rw [hx]
    cases s <;> rfl

/-- The text of a double that is no whole number reads back as an equal double, and it has an exponent only if the
double is closer to zero than `10 ^ (-4)`. -/
private theorem printed_fraction {s : Sign} {hm : 0 < m} (hx : x.toModel.unpack = .finite s m e hm)
    (hne : ∀ n : Nat, (m : Rat) * 2 ^ e ≠ n) :
    (∃ y, float? (Value.float x).printed = some y ∧ (y == x) = true) ∧
    (IsPlainText (Value.float x).printed ↔ (10 : Rat) ^ (-4 : Int) ≤ m * 2 ^ e) := by
  have hof := ofFloat_of_finite hx
  obtain ⟨hc, -⟩ := canonical_of_unpack hx
  obtain ⟨cs, htext, hcs, ⟨c, k, hck, hr⟩, hplain⟩ := Exact.exists_text hc (Exact.isNegative s)
  -- a double whose last place counts one or more is a whole number
  have he : e < 0 := by
    by_contra hle
    obtain ⟨n, hn⟩ := Exact.isWholeNat_iff.1 (by simp [Exact.isWholeNat, not_lt.1 hle] : Exact.isWholeNat m e = true)
    exact hne n hn
  rw [(printed_float hof).2 hne, floatText, hof, htext, isPlainText_iff hcs, hplain,
    Digits.neg_four_lt_point_iff hc]
  exact ⟨exists_float? hx hcs hck hr, and_iff_left (Digits.point_shortest_le hc he)⟩

/-- The text of a finite double reads back as an equal double.  Only if the double is no whole number and closer to zero
than `10 ^ (-4)`, the text has an exponent; if it is a whole number, the text is that of this number. -/
theorem printed_float_plain {x : Float} {v : Rat} (hv : Exact.rat? x = some v) :
    (∃ y, float? (Value.float x).printed = some y ∧ (y == x) = true) ∧
    (IsPlainText (Value.float x).printed ↔ (∃ n : Int, v = n) ∨ (10 : Rat) ^ (-4 : Int) ≤ |v|) ∧
    ∀ n : Int, v = n → (Value.float x).printed = toString n := by
  cases hx : x.toModel.unpack with
  | notANumber =>
    unfold Exact.rat? Exact.ofFloat at hv
    rw [hx] at hv
    cases hv
  | infinity s =>
    unfold Exact.rat? Exact.ofFloat at hv
    rw [hx] at hv
    cases hv
  | zero s =>
    have hv : v = 0 := by
      rw [Exact.eq_of_rat? hv (ofFloat_of_zero hx)]
      cases s <;> simp [Exact.signed, Exact.isNegative]
    obtain ⟨htext, hread, heq⟩ := printed_zero hx
    rw [htext, hv]
    refine ⟨⟨_, hread, heq⟩, iff_of_true (isPlainText_toString 0) (.inl ⟨0, Int.cast_zero.symm⟩), fun n hn => ?_⟩
    rw [Int.cast_eq_zero.1 hn.symm]
  | finite s m e hm =>
    have hof := ofFloat_of_finite hx
    obtain rfl := Exact.eq_of_rat? hv hof
    rw [abs_signed]
    simp only [signed_eq_iff]
    by_cases hn : ∃ n : Nat, (m : Rat) * 2 ^ e = n
    · obtain ⟨n, hn⟩ := hn
      rw [(printed_float hof).1 n hn]
      refine ⟨float?_toString hx hn, iff_of_true (isPlainText_toString _) (.inl ⟨_, n, hn, rfl⟩), ?_⟩
      rintro _ ⟨k, hk, rfl⟩
      rw [Nat.cast_inj.1 (hn.symm.trans hk)]
    · have hne : ∀ n : Nat, (m : Rat) * 2 ^ e ≠ n := not_exists.1 hn
      obtain ⟨hread, hplain⟩ := printed_fraction hx hne
      refine ⟨hread, hplain.trans (or_iff_right ?_).symm, ?_⟩
      · rintro ⟨_, k, hk, -⟩
        exact hne k hk
      · rintro _ ⟨k, hk, -⟩
        exact absurd hk (hne k)

end Double

/-! ### All numbers -/

/-- The numbers: finite doubles, finite decimal numbers, and whole numbers of no more digits than are read. -/
def Value.IsNumber : Value → Prop
  | .float x => (Exact.rat? x).isSome
  | .decimal (.finite ..) => True
  | .int n => n.natAbs < 10 ^ maxDigits
  | _ => False

/-- What a text is read as, by the reader of the kind that the number is of, equals the number. -/
def Value.ReadsBack (s : String) : Value → Prop
  | .float x => ∃ y, float? s = some y ∧ (y == x) = true
  | .decimal d => ∃ d', Decimal.ofText? s = some d' ∧ d'.order? d = some .eq
  | .int n => Numeral.int s = .ok n
  | _ => False

theorem Value.isWritable_of_isNumber {v : Value} (hv : v.IsNumber) : v.isWritable = true := by
  cases v with
  | int n => exact isWritable_int_iff.2 (wholeBound_eq ▸ hv)
  | float x | decimal d => rfl
  | _ => exact hv.elim

/-- A number has a text, which reads back as an equal number of the same kind.  It is plain, except for that of a double
that is no whole number and closer to zero than `10 ^ (-4)`; the text of a double that is a whole number has no
fraction. -/
theorem formatNumber_plain_iff (v : Value) (hv : v.IsNumber) :
    ∃ text, formatNumber v = .ok text ∧ v.ReadsBack text ∧
      (IsPlainText text ↔ ∀ x q, v = .float x → Exact.rat? x = some q →
        (∃ n : Int, q = n) ∨ (10 : Rat) ^ (-4 : Int) ≤ |q|) ∧
      ∀ x (n : Int), v = .float x → Exact.rat? x = some (n : Rat) → text = toString n := by
  refine ⟨v.printed, v.written_of_isWritable (Value.isWritable_of_isNumber hv) _, ?_⟩
  cases v with
  | float x =>
    obtain ⟨q, hq⟩ := Option.isSome_iff_exists.1 hv
    obtain ⟨hread, hplain, hwhole⟩ := printed_float_plain hq
    refine ⟨hread, hplain.trans ⟨?_, fun h => h x q rfl hq⟩, ?_⟩
    · rintro h _ q' ⟨⟩ hq'
      exact Option.some.inj (hq.symm.trans hq') ▸ h
    · rintro _ n ⟨⟩ hn
      exact hwhole n (Option.some.inj (hq.symm.trans hn))
  | decimal d =>
    cases d with
    | finite negative c e =>
      obtain ⟨p, htext, -⟩ := Decimal.exists_plain negative c e
      exact ⟨Decimal.exists_ofText?_plain negative c e, iff_of_true ⟨negative, p, htext⟩ nofun, nofun⟩
    | infinite => exact hv.elim
    | notANumber => exact hv.elim
  | int n => exact ⟨int_toString hv, iff_of_true (isPlainText_toString n) nofun, nofun⟩
  | _ => exact hv.elim

theorem formatNumber_plain_iff_half :
    Exact.rat? 0.5 = some (1 / 2) ∧ (Value.float 0.5).IsNumber ∧
      ∃ text, formatNumber (.float 0.5) = .ok text ∧ (Value.float 0.5).ReadsBack text ∧ IsPlainText text := by
  have hof : Exact.ofFloat 0.5 = .finite false (2 ^ 52) (-53) := by decide +kernel
  have hrat : Exact.rat? 0.5 = some (1 / 2) := by
    unfold Exact.rat?
    rw [hof]
    norm_num [Exact.signed]
  have hnumber : (Value.float 0.5).IsNumber := by
    show (Exact.rat? 0.5).isSome
    rw [hrat]
    rfl
  obtain ⟨text, htext, hread, hplain, -⟩ := formatNumber_plain_iff (.float 0.5) hnumber
  refine ⟨hrat, hnumber, text, htext, hread, hplain.2 ?_⟩
  rintro _ q ⟨⟩ hq
  obtain rfl := Option.some.inj (hrat.symm.trans hq)
  right
  norm_num [abs_of_pos]

/-- A double as small as `10 ^ (-5)` is printed with an exponent, and so not in plain notation. -/
theorem formatNumber_small :
    formatNumber (.float 0.00001) = .ok "1e-05" ∧ ¬IsPlainText "1e-05" := by
  refine ⟨by decide +kernel, ?_⟩
  rintro ⟨negative, p, hp⟩
  have hchars : "1e-05".toList = signChars negative ++ p.chars := by rw [hp, String.toList_ofList]
  have hmem : 'e' ∈ signChars negative ++ p.chars := hchars ▸ by decide
  obtain hsign | hmem := List.mem_append.1 hmem
  · cases negative <;> revert hsign <;> decide
  · exact p.exponentMark_not_mem hmem

end ReportCard
