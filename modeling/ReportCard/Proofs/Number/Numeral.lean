import ReportCard.Number.Decimal
import ReportCard.Proofs.Number.Shortest

/-!
# Reading printed numbers

Digits are printed with a point in its place, as a `PlainNumeral`, or with an exponent of ten.  Either way the digits
and their exponent are read back from the text (`PlainNumeral.decimal?_chars`, `Digits.decimal?_scientific`), by the
readers of doubles, of decimal numbers and of whole numbers.
-/

namespace ReportCard

open Text

namespace Numeral

/-! ### Digits -/

theorem natOfDigits_append (ds es : List Char) :
    natOfDigits (ds ++ es) = natOfDigits ds * 10 ^ es.length + natOfDigits es := by
  show Nat.ofDigitChars 10 (ds ++ es) 0 = Nat.ofDigitChars 10 ds 0 * 10 ^ es.length + Nat.ofDigitChars 10 es 0
  rw [Nat.ofDigitChars_append, Nat.ofDigitChars_eq_ofDigitChars_zero, Nat.mul_comm]

theorem natOfDigits_replicate_zero (k : Nat) : natOfDigits (List.replicate k '0') = 0 := by
  show Nat.ofDigitChars 10 (List.replicate k '0') 0 = 0
  rw [Nat.ofDigitChars_replicate_zero, Nat.mul_zero]

theorem natOfDigits_ofNat (n : Nat) : natOfDigits (Digits.ofNat n) = n := Nat.ofDigitChars_ten_toDigits

theorem isDigit_of_mem_ofNat {n : Nat} {c : Char} (h : c ∈ Digits.ofNat n) : c.isDigit = true :=
  Nat.isDigit_of_mem_toDigits (by decide) (by decide) h

theorem ofNat_ne_nil (n : Nat) : Digits.ofNat n ≠ [] := Nat.toDigits_ne_nil

theorem toNat_of_isDigit {c : Char} (h : c.isDigit = true) : 48 ≤ c.toNat ∧ c.toNat ≤ 57 := Char.isDigit_iff_toNat.1 h

/-- A run of digits ends at what is no digit. -/
theorem takeWhile_digits {ds : List Char} (rest : List Char) (hds : ∀ c ∈ ds, c.isDigit = true)
    (hrest : ∀ c ∈ rest.head?, c.isDigit = false) :
    (ds ++ rest).takeWhile Char.isDigit = ds ∧ (ds ++ rest).dropWhile Char.isDigit = rest := by
  rw [List.takeWhile_append_of_pos hds, List.dropWhile_append_of_pos hds]
  cases rest with
  | nil => simp
  | cons c rest =>
    have hc := hrest c rfl
    simp [hc]

end Numeral

open Numeral

/-! ### Numerals without an exponent -/

/-- A numeral without an exponent: digits, and more digits after a point if there is one. -/
structure PlainNumeral where
  whole : List Char
  fraction : List Char
  whole_ne_nil : whole ≠ []
  isDigit : ∀ c ∈ whole ++ fraction, c.isDigit = true

namespace PlainNumeral

variable (p : PlainNumeral)

/-- The characters of a numeral; it has a point if digits follow the point. -/
def chars : List Char := p.whole ++ if p.fraction = [] then [] else '.' :: p.fraction

/-- The number that a numeral stands for. -/
def value : Rat := natOfDigits (p.whole ++ p.fraction) * 10 ^ (-(p.fraction.length : Int))

/-- The digits of a natural number. -/
def ofNat (n : Nat) : PlainNumeral where
  whole := Digits.ofNat n
  fraction := []
  whole_ne_nil := ofNat_ne_nil n
  isDigit := fun _ hc => isDigit_of_mem_ofNat (List.append_nil _ ▸ hc)

theorem chars_ofNat (n : Nat) : (ofNat n).chars = Digits.ofNat n := List.append_nil _

theorem value_ofNat (n : Nat) : (ofNat n).value = n := by
  unfold value ofNat
  rw [List.append_nil, natOfDigits_ofNat]
  simp

/-- What may follow a numeral without going on with it. -/
def Ends (rest : List Char) : Prop := ∀ c ∈ rest.head?, c.isDigit = false ∧ c ≠ '.'

theorem decimal?_chars {rest : List Char} (hrest : Ends rest) : decimal? (p.chars ++ rest) =
    (exponent? rest).map fun e : Int => (natOfDigits (p.whole ++ p.fraction), e - (p.fraction.length : Int)) := by
  have hwhole : ∀ c ∈ p.whole, c.isDigit = true := fun c hc => p.isDigit c (List.mem_append_left _ hc)
  have hfraction : ∀ c ∈ p.fraction, c.isDigit = true := fun c hc => p.isDigit c (List.mem_append_right _ hc)
  have hend : ∀ c ∈ rest.head?, c.isDigit = false := fun c hc => (hrest c hc).1
  unfold decimal? chars
  by_cases hnil : p.fraction = []
  · obtain ⟨htake, hdrop⟩ := takeWhile_digits rest hwhole hend
    rw [if_pos hnil, List.append_nil, htake, hdrop, hnil]
    cases rest with
    | nil => simp [p.whole_ne_nil]
    | cons c rest =>
      have hpoint := (hrest c rfl).2
      simp [p.whole_ne_nil, hpoint]
  · obtain ⟨htake, hdrop⟩ := takeWhile_digits ('.' :: (p.fraction ++ rest)) hwhole (by simp)
    obtain ⟨htake', hdrop'⟩ := takeWhile_digits rest hfraction hend
    rw [if_neg hnil, List.append_assoc, List.cons_append, htake, hdrop]
    simp only [htake', hdrop']
    simp [p.whole_ne_nil]

theorem decimal?_chars_self :
    decimal? p.chars = some (natOfDigits (p.whole ++ p.fraction), -(p.fraction.length : Int)) := by
  have h := p.decimal?_chars (show Ends [] from nofun)
  rw [List.append_nil] at h
  rw [h]
  simp [exponent?]

theorem isDigit_or_eq_point {c : Char} (hc : c ∈ p.chars) : c.isDigit = true ∨ c = '.' := by
  have hdigits := p.isDigit
  simp only [List.mem_append, or_imp, forall_and] at hdigits
  unfold chars at hc
  split at hc
  · exact .inl (hdigits.1 c (List.append_nil p.whole ▸ hc))
  · simp only [List.mem_append, List.mem_cons] at hc
    obtain hc | hc | hc := hc
    · exact .inl (hdigits.1 c hc)
    · exact .inr hc
    · exact .inl (hdigits.2 c hc)

theorem exponentMark_not_mem : 'e' ∉ p.chars := by
  intro hmem
  obtain h | h := p.isDigit_or_eq_point hmem
  · exact absurd h (by decide)
  · exact absurd h (by decide)

/-- A zero after a point may be put to a numeral without a point. -/
theorem exists_withPoint : ∃ q : PlainNumeral,
    q.chars = p.chars ++ (if p.chars.contains '.' then [] else ['.', '0']) ∧ q.value = p.value := by
  by_cases hnil : p.fraction = []
  · have hwhole : ∀ c ∈ p.whole, c.isDigit = true := fun c hc => p.isDigit c (List.mem_append_left _ hc)
    have hpoint : '.' ∉ p.whole := fun hmem => absurd (hwhole '.' hmem) (by decide)
    refine ⟨⟨p.whole, ['0'], p.whole_ne_nil, ?_⟩, ?_, ?_⟩
    · simp only [List.mem_append, List.mem_singleton]
      rintro c (hc | rfl)
      · exact hwhole c hc
      · rfl
    · simp [chars, hnil, hpoint]
    · show (natOfDigits (p.whole ++ ['0']) : Rat) * 10 ^ (-1 : Int) = _
      rw [value, hnil, natOfDigits_append, List.append_nil, show natOfDigits ['0'] = 0 from rfl]
      push_cast
      norm_num
      ring
  · exact ⟨p, by simp [chars, hnil], rfl⟩

end PlainNumeral

namespace Digits

variable {ds : List Char}

/-- Digits with a point in its place are a numeral without an exponent. -/
theorem exists_positional (hne : ds ≠ []) (hds : ∀ c ∈ ds, c.isDigit = true) (point : Int) :
    ∃ p : PlainNumeral, p.chars = positional ds point ∧ p.value = natOfDigits ds * 10 ^ (point - ds.length) := by
  have hzeros (k : Nat) : ∀ c ∈ List.replicate k '0', c.isDigit = true := fun c hc => by
    rw [List.eq_of_mem_replicate hc]
    rfl
  unfold positional
  split
  · next hle =>
    -- the point stands before all digits
    refine ⟨⟨['0'], List.replicate (-point).toNat '0' ++ ds, by simp, ?_⟩, ?_, ?_⟩
    · simp only [List.mem_append, List.mem_singleton]
      rintro c (rfl | hc | hc)
      · rfl
      · exact hzeros _ c hc
      · exact hds c hc
    · simp [PlainNumeral.chars, hne]
    · have hlength : (((-point).toNat + ds.length : Nat) : Int) = ds.length - point := by omega
      show (natOfDigits (['0'] ++ (List.replicate (-point).toNat '0' ++ ds)) : Rat) *
        10 ^ (-((List.replicate (-point).toNat '0' ++ ds).length : Int)) = _
      rw [natOfDigits_append, natOfDigits_append, natOfDigits_replicate_zero, List.length_append, List.length_replicate,
        hlength, neg_sub, Nat.zero_mul, Nat.zero_add, show natOfDigits ['0'] = 0 from rfl, Nat.zero_mul, Nat.zero_add]
  · split
    · next hpos hle =>
      -- the point stands after all digits
      refine ⟨⟨ds ++ List.replicate (point.toNat - ds.length) '0', [], by simp [hne], ?_⟩, ?_, ?_⟩
      · simp only [List.mem_append, List.not_mem_nil, or_false]
        rintro c (hc | hc)
        · exact hds c hc
        · exact hzeros _ c hc
      · simp [PlainNumeral.chars]
      · have hlength : point - ds.length = (point.toNat - ds.length : Nat) := by omega
        show (natOfDigits (ds ++ List.replicate (point.toNat - ds.length) '0' ++ []) : Rat) *
          10 ^ (-((0 : Nat) : Int)) = _
        rw [List.append_nil, natOfDigits_append, natOfDigits_replicate_zero, List.length_replicate, hlength,
          zpow_natCast]
        simp
    · next hpos hlt =>
      -- the point stands between two digits
      have hdrop : ds.drop point.toNat ≠ [] := by simp; omega
      refine ⟨⟨ds.take point.toNat, ds.drop point.toNat, by simp [hne]; omega, ?_⟩, ?_, ?_⟩
      · rw [List.take_append_drop]
        exact hds
      · simp [PlainNumeral.chars, hdrop]
      · have hlength : -((ds.length - point.toNat : Nat) : Int) = point - ds.length := by omega
        show (natOfDigits (ds.take point.toNat ++ ds.drop point.toNat) : Rat) *
          10 ^ (-((ds.drop point.toNat).length : Int)) = _
        rw [List.take_append_drop, List.length_drop, hlength]

/-! ### Numerals with an exponent -/

theorem exponentText_eq (e : Int) : ∃ ds, exponentText e = (if e < 0 then '-' else '+') :: ds ∧ ds ≠ [] ∧
    (∀ c ∈ ds, c.isDigit = true) ∧ natOfDigits ds = e.natAbs := by
  have hdigits : ∀ c ∈ ofNat e.natAbs, c.isDigit = true := fun c hc => isDigit_of_mem_ofNat hc
  refine ⟨_, rfl, ?_⟩
  split
  · refine ⟨List.cons_ne_nil _ _, List.forall_mem_cons.2 ⟨rfl, hdigits⟩, ?_⟩
    rw [← List.singleton_append, natOfDigits_append, natOfDigits_ofNat]
    show 0 * _ + e.natAbs = e.natAbs
    omega
  · exact ⟨ofNat_ne_nil _, hdigits, natOfDigits_ofNat _⟩

theorem exponent?_exponentText (e : Int) : exponent? ('e' :: exponentText e) = some e := by
  obtain ⟨ds, hds, hne, hdigits, hnat⟩ := exponentText_eq e
  have hall : ds.all Char.isDigit = true := List.all_eq_true.2 hdigits
  rw [hds]
  unfold exponent?
  by_cases he : e < 0
  · simp [he, splitSign, hne, hall, hnat, abs_of_neg he]
  · simp [he, splitSign, hne, hall, hnat, abs_of_nonneg (not_lt.1 he)]

section Scientific

variable {d : Char} {rest : List Char} (hd : d.isDigit = true) (hrest : ∀ c ∈ rest, c.isDigit = true)

include hd hrest

/-- Before the mark of the exponent stands a numeral with one digit before its point. -/
theorem scientific_eq (e : Int) : ∃ p : PlainNumeral, p.whole = [d] ∧ p.fraction = rest ∧
    scientific (d :: rest) e = p.chars ++ 'e' :: exponentText e := by
  refine ⟨⟨[d], rest, List.cons_ne_nil _ _, List.forall_mem_cons.2 ⟨hd, hrest⟩⟩, rfl, rfl, ?_⟩
  cases rest <;> simp [scientific, PlainNumeral.chars]

/-- Digits with an exponent of ten are read as the digits with the exponent of the last one. -/
theorem decimal?_scientific (e : Int) :
    decimal? (scientific (d :: rest) e) = some (natOfDigits (d :: rest), e - rest.length) := by
  obtain ⟨p, hwhole, hfraction, hchars⟩ := scientific_eq hd hrest e
  rw [hchars, p.decimal?_chars (by simp [PlainNumeral.Ends]), exponent?_exponentText, hwhole, hfraction]
  rfl

end Scientific

/-! ### Zeros at the end -/

theorem stripZeros_eq (d : Digits) : ∃ k : Nat, ofNat d.digits = d.stripZeros.1 ++ List.replicate k '0' ∧
    d.stripZeros.2 = d.exponent + k := by
  obtain ⟨zeros, hzeros⟩ : ∃ zeros, (ofNat d.digits).reverse.takeWhile (· == '0') = zeros := ⟨_, rfl⟩
  have hsplit : ofNat d.digits = d.stripZeros.1 ++ zeros.reverse := by
    unfold stripZeros
    dsimp only
    rw [← List.reverse_append, ← hzeros, List.takeWhile_append_dropWhile, List.reverse_reverse]
  have hreplicate : zeros.reverse = List.replicate zeros.length '0' := by
    rw [List.eq_replicate_iff, List.length_reverse]
    refine ⟨rfl, fun c hc => ?_⟩
    rw [List.mem_reverse, ← hzeros] at hc
    simpa using List.all_eq_true.1 List.all_takeWhile c hc
  refine ⟨zeros.length, hreplicate ▸ hsplit, ?_⟩
  have hlength := congrArg List.length hsplit
  rw [List.length_append, List.length_reverse] at hlength
  show d.exponent + (((ofNat d.digits).length - d.stripZeros.1.length : Nat) : Int) = d.exponent + zeros.length
  omega

/-- Without the zeros at their end the digits stand for the same number. -/
theorem stripZeros_value (d : Digits) :
    (natOfDigits d.stripZeros.1 : Rat) * 10 ^ d.stripZeros.2 = d.digits * 10 ^ d.exponent := by
  obtain ⟨k, hdigits, hexponent⟩ := d.stripZeros_eq
  have hnat := natOfDigits_ofNat d.digits
  rw [hdigits, natOfDigits_append, natOfDigits_replicate_zero, List.length_replicate, Nat.add_zero] at hnat
  rw [← hnat, hexponent, zpow_add₀ (by norm_num), zpow_natCast]
  push_cast
  ring

theorem isDigit_of_mem_stripZeros {d : Digits} {c : Char} (h : c ∈ d.stripZeros.1) : c.isDigit = true := by
  obtain ⟨k, hdigits, -⟩ := d.stripZeros_eq
  exact isDigit_of_mem_ofNat (hdigits ▸ List.mem_append_left _ h)

theorem stripZeros_ne_nil {d : Digits} (hd : 0 < d.digits) : d.stripZeros.1 ≠ [] := by
  intro hnil
  obtain ⟨k, hdigits, -⟩ := d.stripZeros_eq
  have hnat := natOfDigits_ofNat d.digits
  rw [hdigits, hnil, List.nil_append, natOfDigits_replicate_zero] at hnat
  exact hd.ne hnat

/-- The place of the point among the digits. -/
theorem stripZeros_point (d : Digits) :
    d.stripZeros.2 + d.stripZeros.1.length = d.exponent + (ofNat d.digits).length := by
  obtain ⟨k, hdigits, hexponent⟩ := d.stripZeros_eq
  rw [hdigits, hexponent, List.length_append, List.length_replicate]
  push_cast
  ring

end Digits

/-! ### Texts of numbers -/

namespace Numeral

/-- The minus sign of a negative number. -/
def signChars (negative : Bool) : List Char := if negative then ['-'] else []

/-- What a printed number consists of after its sign: a digit comes first, and all characters lie between a sign and
the mark of an exponent. -/
structure IsUnsigned (cs : List Char) : Prop where
  first : ∃ c rest, cs = c :: rest ∧ c.isDigit = true
  all : ∀ c ∈ cs, 43 ≤ c.toNat ∧ c.toNat ≤ 101 ∧ c ≠ '_'

private theorem bounds_of_isDigit {c : Char} (h : c.isDigit = true) : 43 ≤ c.toNat ∧ c.toNat ≤ 101 ∧ c ≠ '_' := by
  have := toNat_of_isDigit h
  refine ⟨by omega, by omega, ?_⟩
  rintro rfl
  exact absurd h (by decide)

theorem isUnsigned_of_digits {ds : List Char} (hne : ds ≠ []) (hds : ∀ c ∈ ds, c.isDigit = true) : IsUnsigned ds := by
  obtain ⟨c, rest, rfl⟩ := List.exists_cons_of_ne_nil hne
  exact ⟨⟨c, rest, rfl, hds c List.mem_cons_self⟩, fun c hc => bounds_of_isDigit (hds c hc)⟩

theorem isUnsigned_chars (p : PlainNumeral) : IsUnsigned p.chars := by
  obtain ⟨c, rest, hwhole⟩ := List.exists_cons_of_ne_nil p.whole_ne_nil
  refine ⟨⟨c, _, by rw [PlainNumeral.chars, hwhole]; rfl, p.isDigit c (by simp [hwhole])⟩, fun c hc => ?_⟩
  obtain hdigit | rfl := p.isDigit_or_eq_point hc
  · exact bounds_of_isDigit hdigit
  · decide

theorem isUnsigned_scientific {d : Char} {rest : List Char} (hd : d.isDigit = true)
    (hrest : ∀ c ∈ rest, c.isDigit = true) (e : Int) : IsUnsigned (Digits.scientific (d :: rest) e) := by
  obtain ⟨p, -, -, hchars⟩ := Digits.scientific_eq hd hrest e
  obtain ⟨ds, hds, hne, hdigits, -⟩ := Digits.exponentText_eq e
  obtain ⟨⟨c, cs, hcs, hc⟩, hall⟩ := isUnsigned_chars p
  rw [hchars, hds]
  refine ⟨⟨c, _, by rw [hcs]; rfl, hc⟩, fun c hc => ?_⟩
  simp only [List.mem_append, List.mem_cons] at hc
  obtain hc | rfl | rfl | hc := hc
  · exact hall c hc
  · decide
  · split <;> decide
  · exact bounds_of_isDigit (hdigits c hc)

variable {cs : List Char} {negative : Bool}

theorem toAscii_of_all (h : ∀ c ∈ cs, c.toNat < 128) : toAscii cs = cs := by
  unfold toAscii
  rw [if_pos (List.all_eq_true.2 fun c hc => decide_eq_true (h c hc))]

theorem trimBy_of_all {p : Char → Bool} (h : ∀ c ∈ cs, p c = false) : trimBy p cs = cs := by
  have hkeep : ∀ ds : List Char, (∀ c ∈ ds, p c = false) → ds.dropWhile p = ds := by
    intro ds hds
    cases ds with
    | nil => rfl
    | cons c ds => rw [List.dropWhile_cons_of_neg (by rw [hds c List.mem_cons_self]; simp)]
  unfold trimBy
  rw [hkeep cs h, hkeep cs.reverse (fun c hc => h c (List.mem_reverse.1 hc)), List.reverse_reverse]

theorem ungroup?_of_all (h : ∀ c ∈ cs, c ≠ '_') (previous : Char) : ungroup? previous cs = some cs := by
  induction cs generalizing previous with
  | nil => rfl
  | cons c cs ih =>
    rw [List.forall_mem_cons] at h
    unfold ungroup?
    rw [if_neg (by simpa using h.1), ih h.2]
    rfl

namespace IsUnsigned

variable (h : IsUnsigned cs)

include h

theorem all_signed : ∀ c ∈ signChars negative ++ cs, 43 ≤ c.toNat ∧ c.toNat ≤ 101 ∧ c ≠ '_' := by
  intro c hc
  obtain hc | hc := List.mem_append.1 hc
  · cases negative with
    | false => cases hc
    | true =>
      obtain rfl := List.mem_singleton.1 hc
      decide
  · exact h.all c hc

theorem splitSign_eq : splitSign (signChars negative ++ cs) = (negative, cs) := by
  cases negative with
  | true => rfl
  | false =>
    obtain ⟨c, rest, rfl, hc⟩ := h.first
    show splitSign (c :: rest) = (false, c :: rest)
    unfold splitSign
    split
    · next heq =>
      obtain ⟨rfl, -⟩ := List.cons.inj heq
      exact absurd hc (by decide)
    · next heq =>
      obtain ⟨rfl, -⟩ := List.cons.inj heq
      exact absurd hc (by decide)
    · rfl

theorem toAscii_eq : toAscii (signChars negative ++ cs) = signChars negative ++ cs :=
  toAscii_of_all fun c hc => by
    have := h.all_signed c hc
    omega

theorem isBlank_eq_false : ∀ c ∈ signChars negative ++ cs, isBlank c = false := by
  intro c hc
  obtain ⟨hlow, hhigh, -⟩ := h.all_signed c hc
  unfold isBlank
  simp only [Bool.or_eq_false_iff, Bool.and_eq_false_imp, decide_eq_true_eq, decide_eq_false_iff_not,
    beq_eq_false_iff_ne]
  omega

theorem isAsciiBlank_eq_false : ∀ c ∈ signChars negative ++ cs, isAsciiBlank c = false := by
  intro c hc
  obtain ⟨hlow, hhigh, -⟩ := h.all_signed c hc
  have hspace : c ≠ ' ' := by
    rintro rfl
    exact absurd hlow (by decide)
  unfold isAsciiBlank
  simp only [Bool.or_eq_false_iff, Bool.and_eq_false_imp, decide_eq_true_eq, decide_eq_false_iff_not,
    beq_eq_false_iff_ne]
  exact ⟨by omega, hspace⟩

/-- The names of numbers that are not finite do not begin with a digit. -/
theorem not_name (name : String) (hname : ∃ a rest, name.toList = a :: rest ∧ a.isDigit = false) :
    String.ofList (cs.map Char.toLower) ≠ name ∧ name.isPrefixOf (String.ofList (cs.map Char.toLower)) = false := by
  obtain ⟨a, letters, hletters, ha⟩ := hname
  have hprefix : ¬name.toList <+: cs.map Char.toLower := by
    obtain ⟨c, rest, rfl, hc⟩ := h.first
    have hbounds := toNat_of_isDigit hc
    have hlower : c.toLower = c := by
      unfold Char.toLower
      rw [dif_neg]
      rintro ⟨hle, -⟩
      have hle : 65 ≤ c.toNat := hle
      omega
    rw [hletters, List.map_cons, hlower, List.cons_prefix_cons]
    rintro ⟨rfl, -⟩
    exact absurd hc (by simp [ha])
  constructor
  · rintro rfl
    exact hprefix (by rw [String.toList_ofList])
  · unfold String.isPrefixOf
    rw [← Bool.not_eq_true, String.startsWith_string_iff, String.toList_ofList]
    exact hprefix

theorem special?_eq : special? cs = none := by
  have hinf := (h.not_name "inf" ⟨'i', ['n', 'f'], rfl, rfl⟩).1
  have hinfinity := (h.not_name "infinity" ⟨'i', _, rfl, rfl⟩).1
  have hnan := (h.not_name "nan" ⟨'n', ['a', 'n'], rfl, rfl⟩).1
  unfold special?
  simp [hinf, hinfinity, hnan]

/-- How a text is read as a double. -/
theorem float?_eq {c : Nat} {e : Int} (hc : decimal? cs = some (c, e)) :
    float? (String.ofList (signChars negative ++ cs)) = some (if negative then -nearest c e else nearest c e) := by
  unfold float?
  rw [String.toList_ofList, h.toAscii_eq, trimBy_of_all h.isAsciiBlank_eq_false,
    ungroup?_of_all fun c hc => (h.all_signed c hc).2.2]
  simp [h.splitSign_eq, h.special?_eq, hc]

/-- How a text is read as a decimal number. -/
theorem ofText?_eq {c : Nat} {e : Int} (hc : decimal? cs = some (c, e)) :
    Decimal.ofText? (String.ofList (signChars negative ++ cs)) = some (.finite negative c e) := by
  have hinf := (h.not_name "inf" ⟨'i', ['n', 'f'], rfl, rfl⟩).1
  have hinfinity := (h.not_name "infinity" ⟨'i', _, rfl, rfl⟩).1
  have hnan := (h.not_name "nan" ⟨'n', ['a', 'n'], rfl, rfl⟩).2
  have hsnan := (h.not_name "snan" ⟨'s', ['n', 'a', 'n'], rfl, rfl⟩).2
  have hfilter : (signChars negative ++ cs).filter (· != '_') = signChars negative ++ cs :=
    List.filter_eq_self.2 fun c hc => by simpa using (h.all_signed c hc).2.2
  unfold Decimal.ofText? Text.trim
  simp only [String.toList_ofList, trimBy_of_all h.isBlank_eq_false, hfilter, h.toAscii_eq, h.splitSign_eq]
  simp [hinf, hinfinity, hnan, hsnan, hc]

end IsUnsigned

/-- How the digits of a whole number are read, as long as they are not too many. -/
theorem int_ofNat {n : Nat} (hn : n < 10 ^ maxDigits) (negative : Bool) :
    int (String.ofList (signChars negative ++ Digits.ofNat n)) = .ok (if negative then -(n : Int) else n) := by
  have hdigits : ∀ c ∈ Digits.ofNat n, c.isDigit = true := fun c hc => isDigit_of_mem_ofNat hc
  have h := isUnsigned_of_digits (ofNat_ne_nil n) hdigits
  have hlength : (Digits.ofNat n).length ≤ maxDigits := (Nat.length_toDigits_le_iff (by decide) (by decide)).2 hn
  have hall : (Digits.ofNat n).all (fun c => c.isDigit || c == '_') = true :=
    List.all_eq_true.2 fun c hc => by simp [hdigits c hc]
  have hleading : leadingDigits? (Digits.ofNat n) = some (Digits.ofNat n) := by
    unfold leadingDigits?
    rw [← List.append_nil (Digits.ofNat n), List.takeWhile_append_of_pos (List.all_eq_true.1 hall), List.takeWhile_nil,
      List.append_nil, ungroup?_of_all fun c hc => (h.all c hc).2.2]
    simp [ofNat_ne_nil]
  have hwhole : whole (Digits.ofNat n) = .ok n := by
    unfold whole
    rw [hleading]
    simp only [hall, if_true, natOfDigits_ofNat, if_neg (Nat.not_lt.2 hlength)]
  unfold int
  rw [String.toList_ofList, h.toAscii_eq, trimBy_of_all h.isAsciiBlank_eq_false]
  simp only [h.splitSign_eq, hwhole]
  rfl

end Numeral

end ReportCard
