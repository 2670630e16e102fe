import ReportCard.Number.Decimal.Arithmetic
import ReportCard.Proofs.Number.Nearest
import ReportCard.Proofs.Number.Numeral

/-!
# Printed numbers

The text of a finite double or decimal number reads back as an equal number.  That of a double has an exponent if the
double is closer to zero than `10 ^ (-4)` or if the point would stand after more than 16 digits
(`Exact.exists_text`); decimal numbers are printed without an exponent (`Decimal.exists_plain`).
-/

namespace ReportCard

open Float.Model Float.Model.UnpackedFloat Numeral

/-! ### The point of the shortest digits -/

namespace Digits

variable {m : Nat} {e k : Int} {d : Digits}

/-- How many of the digits stand before the decimal point. -/
def point (d : Digits) : Int := d.exponent + (ofNat d.digits).length

theorem lt_point_iff (hd : 0 < d.digits) : k < d.point ↔ (10 : Rat) ^ k ≤ d.digits * 10 ^ d.exponent := by
  obtain ⟨n, hn⟩ : ∃ n, (ofNat d.digits).length = n + 1 :=
    ⟨_, (Nat.sub_add_cancel (List.length_pos_of_ne_nil (ofNat_ne_nil d.digits))).symm⟩
  have hlow : (10 : Rat) ^ n ≤ d.digits := by exact_mod_cast le_of_length hd hn
  have hhigh : (d.digits : Rat) < 10 ^ (n + 1) := by exact_mod_cast lt_of_length hn.le n.succ_pos
  have hscale : (0 : Rat) < 10 ^ d.exponent := by positivity
  unfold point
  rw [hn]
  constructor
  · intro hk
    calc (10 : Rat) ^ k ≤ 10 ^ ((n : Int) + d.exponent) := zpow_le_zpow_right₀ (by norm_num) (by omega)
      _ = 10 ^ n * 10 ^ d.exponent := by rw [zpow_add₀ (by norm_num), zpow_natCast]
      _ ≤ d.digits * 10 ^ d.exponent := mul_le_mul_of_nonneg_right hlow hscale.le
  · intro hle
    have hlt : (10 : Rat) ^ k < 10 ^ (((n + 1 : Nat) : Int) + d.exponent) :=
      calc (10 : Rat) ^ k ≤ d.digits * 10 ^ d.exponent := hle
        _ < 10 ^ (n + 1) * 10 ^ d.exponent := mul_lt_mul_of_pos_right hhigh hscale
        _ = 10 ^ (((n + 1 : Nat) : Int) + d.exponent) := by rw [zpow_add₀ (by norm_num), zpow_natCast]
    have := (zpow_lt_zpow_iff_right₀ (by norm_num)).1 hlt
    omega

theorem digits_pos_of_rounds (hc : Canonical m e) (hr : Rounds m e (d.digits * 10 ^ d.exponent)) : 0 < d.digits := by
  have hm : (1 : Rat) ≤ m := by exact_mod_cast hc.pos
  have hpos : (0 : Rat) < d.digits * 10 ^ d.exponent :=
    lt_of_lt_of_le (mul_pos (by linarith) (by positivity)) hr.half
  exact_mod_cast pos_of_mul_pos_left hpos (by positivity)

theorem shortest_pos (hc : Canonical m e) : 0 < (shortest m e).digits := digits_pos_of_rounds hc (shortest_rounds hc)

/-- A double of less than half of `2 ^ 53` has no more than 16 digits before the point. -/
theorem point_shortest_le (hc : Canonical m e) (he : e < 0) : (shortest m e).point ≤ 16 := by
  have hm : (m : Rat) + 1 ≤ 2 ^ 53 := by exact_mod_cast hc.lt
  by_contra hlt
  have hle := (lt_point_iff (shortest_pos hc)).1 (not_le.1 hlt)
  have hhigh := (shortest_rounds hc).high
  have hscale : (2 : Rat) ^ (e - 2) ≤ 2 ^ (-3 : Int) := zpow_le_zpow_right₀ one_le_two (by omega)
  have hvalue : (4 * (m : Rat) + 2) * 2 ^ (e - 2) ≤ (4 * (2 ^ 53 - 1) + 2) * 2 ^ (-3 : Int) := by gcongr; linarith
  have := (hle.trans hhigh).trans hvalue
  norm_num at this

/-- The digits of a double reach `10 ^ (-4)` when the double does: the least double that does is the one nearest to
`10 ^ (-4)`, and the next one below is nearest to smaller numbers alone. -/
theorem neg_four_lt_point_iff (hc : Canonical m e) :
    -4 < (shortest m e).point ↔ (10 : Rat) ^ (-4 : Int) ≤ m * 2 ^ e := by
  have hlow := (shortest_rounds hc).half
  have hhigh := (shortest_rounds hc).high
  have hvalue : (m : Rat) * 2 ^ e = 4 * m * 2 ^ (e - 2) := by
    rw [two_zpow e]
    ring
  rw [lt_point_iff (shortest_pos hc), hvalue]
  generalize hD : ((shortest m e).digits : Rat) * 10 ^ (shortest m e).exponent = D at hlow hhigh
  obtain hlt | rfl | hgt := lt_trichotomy e (-66)
  · have hm : 4 * (m : Rat) + 2 ≤ 2 ^ 55 := by
      have hlt : (m : Rat) + 1 ≤ 2 ^ 53 := by exact_mod_cast hc.lt
      linarith
    have hscale : (2 : Rat) ^ (e - 2) ≤ 2 ^ (-69 : Int) := zpow_le_zpow_right₀ one_le_two (by omega)
    have hend : (4 * (m : Rat) + 2) * 2 ^ (e - 2) < 10 ^ (-4 : Int) :=
      calc (4 * (m : Rat) + 2) * 2 ^ (e - 2) ≤ 2 ^ 55 * 2 ^ (-69 : Int) := by gcongr
        _ < 10 ^ (-4 : Int) := by norm_num
    have hu : (0 : Rat) < 2 ^ (e - 2) := by positivity
    exact iff_of_false (by linarith) (by linarith)
  · -- 7378697629483821 / 2 ^ 66 is the double that is nearest to 10 ^ (-4)
    obtain hlt | rfl | hgt := lt_trichotomy m 7378697629483821
    · have hm : (m : Rat) ≤ 7378697629483820 := by exact_mod_cast Nat.le_of_lt_succ hlt
      norm_num at hlow hhigh ⊢
      exact iff_of_false (by linarith) (by linarith)
    · have hshortest : shortest 7378697629483821 (-66) = ⟨1, -4⟩ := by decide +kernel
      rw [← hD, hshortest]
      norm_num
    · have hm : (7378697629483822 : Rat) ≤ m := by exact_mod_cast hgt
      norm_num at hlow hhigh ⊢
      exact iff_of_true (by linarith) (by linarith)
  · have hm : (2 : Rat) ^ 52 ≤ m := by exact_mod_cast hc.normal.resolve_right (by omega)
    have hscale : (2 : Rat) ^ (-67 : Int) ≤ 2 ^ (e - 2) := zpow_le_zpow_right₀ one_le_two (by omega)
    have hend : (10 : Rat) ^ (-4 : Int) ≤ (4 * m - 2) * 2 ^ (e - 2) :=
      calc (10 : Rat) ^ (-4 : Int) ≤ (4 * 2 ^ 52 - 2) * 2 ^ (-67 : Int) := by norm_num
        _ ≤ (4 * m - 2) * 2 ^ (e - 2) := by gcongr; linarith
    have hu : (0 : Rat) < 2 ^ (e - 2) := by positivity
    exact iff_of_true (by linarith) (by linarith)

end Digits

/-! ### Texts of doubles -/

section Double

variable {m : Nat} {e : Int}

theorem Exact.text_eq (hm : m ≠ 0) (negative : Bool) : (finite negative m e).text =
    let d := Digits.shortest m e
    let body := Digits.positional d.stripZeros.1 d.point
    if -4 < d.point ∧ d.point ≤ 16 then
      String.ofList (signChars negative ++ body ++ if body.contains '.' then [] else ['.', '0'])
    else String.ofList (signChars negative ++ Digits.scientific d.stripZeros.1 (d.point - 1)) := by
  have hpoint : (Digits.shortest m e).stripZeros.2 + (Digits.shortest m e).stripZeros.1.length =
      (Digits.shortest m e).point := Digits.stripZeros_point _
  simp only [text, if_neg hm, hpoint]
  rfl

/-- The text of a double above or below zero is its sign and a numeral whose value rounds to the double.  The numeral
has no exponent if the point stands at most three zeros before the digits and at most 16 places after the first. -/
theorem Exact.exists_text (hc : Canonical m e) (negative : Bool) : ∃ cs : List Char,
    (finite negative m e).text = String.ofList (signChars negative ++ cs) ∧ IsUnsigned cs ∧
    (∃ c k, decimal? cs = some (c, k) ∧ Rounds m e (c * 10 ^ k)) ∧
    ((∃ p : PlainNumeral, cs = p.chars) ↔ -4 < (Digits.shortest m e).point ∧ (Digits.shortest m e).point ≤ 16) := by
  have hrounds := Digits.shortest_rounds hc
  have hpos := Digits.shortest_pos hc
  generalize hd : Digits.shortest m e = d at hrounds hpos
  have hds : ∀ c ∈ d.stripZeros.1, c.isDigit = true := fun c hc => Digits.isDigit_of_mem_stripZeros hc
  have hne := Digits.stripZeros_ne_nil hpos
  have hvalue := d.stripZeros_value
  have hpoint : d.stripZeros.2 + d.stripZeros.1.length = d.point := d.stripZeros_point
  rw [text_eq hc.pos.ne', hd]
  dsimp only
  split
  · next hplain =>
    -- a zero stands after the point where no digit does
    obtain ⟨p, hchars, hp⟩ := Digits.exists_positional hne hds d.point
    obtain ⟨q, hq, hqp⟩ := p.exists_withPoint
    rw [hchars] at hq
    refine ⟨q.chars, by rw [hq, List.append_assoc], isUnsigned_chars q, ⟨_, _, q.decimal?_chars_self, ?_⟩,
      iff_of_true ⟨q, rfl⟩ hplain⟩
    have hrest : d.point - d.stripZeros.1.length = d.stripZeros.2 := by omega
    show Rounds m e q.value
    rw [hqp, hp, hrest, hvalue]
    exact hrounds
  · next hexponent =>
    -- the point stands after the first digit, and the exponent says where it belongs
    obtain ⟨c, rest, hcons⟩ := List.exists_cons_of_ne_nil hne
    rw [hcons] at hds hvalue hpoint ⊢
    obtain ⟨hcd, hrestd⟩ := List.forall_mem_cons.1 hds
    refine ⟨_, rfl, isUnsigned_scientific hcd hrestd _, ⟨_, _, Digits.decimal?_scientific hcd hrestd _, ?_⟩,
      iff_of_false ?_ hexponent⟩
    · have hlast : d.point - 1 - rest.length = d.stripZeros.2 := by
        rw [List.length_cons] at hpoint
        omega
      rw [hlast, hvalue]
      exact hrounds
    · rintro ⟨p, hp⟩
      obtain ⟨q, -, -, hchars⟩ := Digits.scientific_eq hcd hrestd (d.point - 1)
      exact p.exponentMark_not_mem (by simp [← hp, hchars])

theorem beq_of_unpack_eq {x y : Float} {s : Sign} {hm : 0 < m} (hx : x.toModel.unpack = .finite s m e hm)
    (hy : y.toModel.unpack = .finite s m e hm) : (x == y) = true := by
  show UnpackedFloat.beq x.toModel.unpack y.toModel.unpack = true
  rw [hx, hy]
  have hsame : (compare e e).then (compare m m) = .eq := by simp
  cases s with
  | positive =>
    show (some ((compare e e).then (compare m m)) == some Ordering.eq) = true
    rw [hsame]
    rfl
  | negative =>
    show (some ((compare e e).then (compare m m)).swap == some Ordering.eq) = true
    rw [hsame]
    rfl

/-- What is read of a numeral whose value rounds to a double is equal to the double. -/
theorem exists_float? {x : Float} {s : Sign} {hm : 0 < m} {cs : List Char} {c : Nat} {k : Int}
    (hx : x.toModel.unpack = .finite s m e hm) (h : IsUnsigned cs) (hcs : decimal? cs = some (c, k))
    (hr : Rounds m e (c * 10 ^ k)) :
    ∃ y, float? (String.ofList (signChars (Exact.isNegative s) ++ cs)) = some y ∧ (y == x) = true := by
  obtain ⟨hc, he⟩ := canonical_of_unpack hx
  have hnearest := unpack_nearest hc he hr
  refine ⟨_, h.float?_eq hcs, beq_of_unpack_eq ?_ hx⟩
  cases s with
  | positive => exact hnearest
  | negative =>
    show (Float.Model.pack (UnpackedFloat.neg (nearest c k).toModel.unpack)).unpack = _
    rw [hnearest]
    show (Float.Model.pack (.finite .negative m e hm)).unpack = _
    rw [unpack_pack hc, if_pos he]

end Double

/-! ### Texts of decimal numbers -/

namespace Decimal

variable {a b : Nat} {d e : Int} {negative : Bool}

/-- The text of a decimal number is its sign and a numeral without an exponent. -/
theorem exists_plain (negative : Bool) (c : Nat) (e : Int) : ∃ p : PlainNumeral,
    plain (.finite negative c e) = String.ofList (signChars negative ++ p.chars) ∧ p.value = c * 10 ^ e := by
  have hsign (cs : List Char) : signText negative ++ String.ofList cs = String.ofList (signChars negative ++ cs) := by
    rw [String.ofList_append]
    cases negative <;> rfl
  by_cases hzero : c = 0 ∧ 0 < e
  · refine ⟨PlainNumeral.ofNat 0, ?_, by rw [PlainNumeral.value_ofNat, hzero.1]; simp⟩
    simp only [plain, if_pos hzero]
    exact hsign ['0']
  · obtain ⟨p, hchars, hvalue⟩ := Digits.exists_positional (ofNat_ne_nil c)
      (fun _ hd => isDigit_of_mem_ofNat hd) (e + (Digits.ofNat c).length)
    refine ⟨p, by simp only [plain, if_neg hzero, hchars, hsign], ?_⟩
    rw [hvalue, natOfDigits_ofNat, add_sub_cancel_right]

/-- Decimal numbers of one value are equal, however many zeros they keep at their end. -/
theorem order?_eq_of_value (h : (a : Rat) * 10 ^ d = b * 10 ^ e) :
    order? (.finite negative a d) (.finite negative b e) = some .eq := by
  have hpower {k : Int} (hk : min d e ≤ k) : (Exact.power 10 (k - min d e) : Rat) = 10 ^ k / 10 ^ min d e := by
    obtain ⟨n, hn⟩ := Int.eq_ofNat_of_zero_le (sub_nonneg.2 hk)
    rw [← zpow_sub₀ (by norm_num), hn, zpow_natCast]
    exact_mod_cast rfl
  have hunits : a * Exact.power 10 (d - min d e) = b * Exact.power 10 (e - min d e) := by
    rw [← Nat.cast_inj (R := Rat), Nat.cast_mul, Nat.cast_mul, hpower (min_le_left _ _), hpower (min_le_right _ _),
      mul_div_assoc', mul_div_assoc', h]
  show some (compare (Exact.signed negative (a * Exact.power 10 (d - min d e)))
    (Exact.signed negative (b * Exact.power 10 (e - min d e)))) = some .eq
  rw [hunits, compare_eq_iff_eq.2 rfl]

/-- The text of a decimal number reads back as an equal one. -/
theorem exists_ofText?_plain (negative : Bool) (c : Nat) (e : Int) :
    ∃ d, ofText? (plain (.finite negative c e)) = some d ∧ d.order? (.finite negative c e) = some .eq := by
  obtain ⟨p, htext, hvalue⟩ := exists_plain negative c e
  rw [htext, (isUnsigned_chars p).ofText?_eq p.decimal?_chars_self]
  exact ⟨_, rfl, order?_eq_of_value hvalue⟩

end Decimal

end ReportCard
