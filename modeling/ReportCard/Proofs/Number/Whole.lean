import Mathlib.Data.List.TakeWhile
import Mathlib.Data.Nat.Digits.Defs
import ReportCard.Proofs.Number.Numeral
import ReportCard.Value.Number

/-!
# Whole numbers in the digits of any script

A text of digits is read as a whole number if each digit has a place value and there are not too many of them
(`Numeral.wholeOfText_digits`).  The digits without a place value, such as superscripts, look like digits all the same:
a text with one of them is a fault, and not the number in front of it.
-/

namespace ReportCard

open Numeral

namespace Text

/-- Whether the character is a decimal digit of some script. -/
def isDecimal (c : Char) : Bool := (digit? c).isSome

/-- The decimal digits that a word begins with. -/
def decimals (cs : List Char) : List Char := cs.takeWhile isDecimal

/-- The number that decimal digits stand for in base ten. -/
def valueOfDecimals (cs : List Char) : Nat := Nat.ofDigits 10 (cs.filterMap digit?).reverse

theorem isDigit_of_isDecimal {c : Char} (h : isDecimal c = true) : isDigit c = true := by
  unfold isDecimal at h
  simp [isDigit, h]

theorem digit?_lt {c : Char} {d : Nat} (h : digit? c = some d) : d < 10 := by
  obtain ⟨z, hz, hd⟩ := Option.map_eq_some_iff.1 h
  have hbounds := List.find?_some hz
  rw [Bool.and_eq_true, decide_eq_true_iff, decide_eq_true_iff] at hbounds
  omega

theorem isDecimal_of_isDigit {c : Char} (h : c.isDigit = true) : isDecimal c = true := by
  have hascii : ∀ n ∈ List.range' 48 10, isDecimal (Char.ofNat n) = true := by decide
  have hbounds := toNat_of_isDigit h
  have hc := hascii c.toNat (List.mem_range'_1.2 ⟨hbounds.1, by omega⟩)
  rwa [Char.ofNat_toNat] at hc

/-- No digit is blank. -/
theorem isBlank_of_isDigit {c : Char} (h : isDigit c = true) : isBlank c = false := by
  have hzeros : ∀ z ∈ zeros, ∀ n ∈ List.range' z 10, isBlank (Char.ofNat n) = false := by decide +kernel
  have hunplaced : ∀ r ∈ unplacedDigits, ∀ n ∈ List.range' r.1 (r.2 + 1 - r.1), isBlank (Char.ofNat n) = false := by
    decide +kernel
  rw [← Char.ofNat_toNat c]
  rcases Bool.or_eq_true_iff.1 h with hplaced | hunplaced'
  · obtain ⟨d, hd⟩ := Option.isSome_iff_exists.1 hplaced
    obtain ⟨z, hz, -⟩ := Option.map_eq_some_iff.1 hd
    have hbounds := List.find?_some hz
    rw [Bool.and_eq_true, decide_eq_true_iff, decide_eq_true_iff] at hbounds
    exact hzeros z (List.mem_of_find?_eq_some hz) _ (List.mem_range'_1.2 hbounds)
  · obtain ⟨r, hr, hbounds⟩ := List.any_eq_true.1 hunplaced'
    rw [Bool.and_eq_true, decide_eq_true_iff, decide_eq_true_iff] at hbounds
    exact hunplaced r hr _ (List.mem_range'_1.2 ⟨hbounds.1, by omega⟩)

end Text

open Text

namespace Numeral

/-- A digit in ASCII; one without a place value is no part of any numeral. -/
private def asciiDigit (c : Char) : Char := ((digit? c).map Nat.digitChar).getD '?'

/-- What is read off the decimal digits, and off the character for the other ones, holds of all of them. -/
private theorem asciiDigit_cases {P : Char → Prop} (hdigits : ∀ d < 10, P (Nat.digitChar d)) (hother : P '?')
    (c : Char) : P (asciiDigit c) := by
  unfold asciiDigit
  cases hd : digit? c with
  | none => exact hother
  | some d => exact hdigits d (digit?_lt hd)

private theorem isDigit_asciiDigit (c : Char) : (asciiDigit c).isDigit = isDecimal c := by
  unfold asciiDigit isDecimal
  cases hd : digit? c with
  | none => rfl
  | some d => exact Nat.isDigit_digitChar.trans (decide_eq_true (digit?_lt hd))

private theorem asciiDigit_ne {a : Char} (hdigit : a.isDigit = false) (hother : '?' ≠ a) (c : Char) :
    asciiDigit c ≠ a := by
  refine asciiDigit_cases (P := (· ≠ a)) (fun d hd => ?_) hother c
  rintro rfl
  rw [Nat.isDigit_digitChar, decide_eq_true hd] at hdigit
  cases hdigit

/-- Digits of all scripts are read like those of ASCII. -/
private theorem toAscii_digits {cs : List Char} (h : ∀ c ∈ cs, isDigit c = true) :
    toAscii cs = cs.map asciiDigit := by
  have hascii : ∀ n < 0x80, isDigit (Char.ofNat n) = true → asciiDigit (Char.ofNat n) = Char.ofNat n := by
    decide +kernel
  have hsame (c : Char) (hc : isDigit c = true) (hlow : c.toNat < 0x80) : asciiDigit c = c := by
    have hn := hascii c.toNat hlow
    rw [Char.ofNat_toNat] at hn
    exact hn hc
  unfold toAscii
  split
  · rename_i hall
    rw [List.all_eq_true] at hall
    have hmap : cs.map asciiDigit = cs.map id :=
      List.map_congr_left fun c hc => hsame c (h c hc) (of_decide_eq_true (hall c hc))
    rw [hmap, List.map_id]
  · refine List.map_congr_left fun c hc => ?_
    have hdigit := h c hc
    split
    · rename_i hlow
      exact (hsame c hdigit (by omega)).symm
    · rw [isBlank_of_isDigit hdigit]
      unfold asciiDigit
      cases digit? c <;> rfl

private theorem natOfDigits_asciiDigit {cs : List Char} (h : ∀ c ∈ cs, isDecimal c = true) :
    natOfDigits (cs.map asciiDigit) = valueOfDecimals cs := by
  have hvalue : ∀ d < 10, natOfDigits [Nat.digitChar d] = d := by decide
  induction cs using List.reverseRecOn with
  | nil => rfl
  | append_singleton cs c ih =>
    obtain ⟨d, hd⟩ := Option.isSome_iff_exists.1 (h c (by simp))
    have hlast : natOfDigits [asciiDigit c] = d := by
      have hc : asciiDigit c = Nat.digitChar d := by simp [asciiDigit, hd]
      rw [hc]
      exact hvalue d (digit?_lt hd)
    have hinit := ih fun c' hc' => h c' (by simp [hc'])
    unfold valueOfDecimals at hinit ⊢
    rw [List.map_append, List.map_singleton, natOfDigits_append, hinit, hlast, List.filterMap_append,
      List.reverse_append]
    simp [hd, Nat.ofDigits_cons]
    ring

/-- The digits at the front are those with a place value, and all of them are if none is left behind. -/
private theorem whole_digits {cs : List Char} (hne : cs ≠ []) :
    whole (cs.map asciiDigit) =
      if maxDigits < (decimals cs).length then .error (.tooLong (decimals cs).length)
      else if cs.all isDecimal then .ok (valueOfDecimals cs)
      else .error .malformed := by
  have hpart : (fun c : Char => c.isDigit || c == '_') ∘ asciiDigit = isDecimal := by
    have hunderscore (c : Char) : asciiDigit c ≠ '_' := asciiDigit_ne rfl (by decide) c
    funext c
    simp [isDigit_asciiDigit, hunderscore c]
  have hall : (cs.map asciiDigit).all (fun c => c.isDigit || c == '_') = cs.all isDecimal := by
    rw [List.all_map, hpart]
  have hungroup : ungroup? ' ' ((decimals cs).map asciiDigit) = some ((decimals cs).map asciiDigit) := by
    refine ungroup?_of_all (fun c hc => ?_) ' '
    obtain ⟨c, -, rfl⟩ := List.mem_map.1 hc
    exact asciiDigit_ne rfl (by decide) c
  have hleading : leadingDigits? (cs.map asciiDigit) =
      if decimals cs = [] then none else some ((decimals cs).map asciiDigit) := by
    unfold leadingDigits?
    rw [List.takeWhile_map, hpart, show cs.takeWhile isDecimal = decimals cs from rfl, hungroup]
    by_cases hnil : decimals cs = [] <;> simp [Option.filter, hnil]
  unfold whole
  rw [hleading, hall]
  by_cases hnil : decimals cs = []
  · -- the first digit has no place value
    obtain ⟨c, rest, rfl⟩ := List.exists_cons_of_ne_nil hne
    have hc : isDecimal c = false := by
      by_contra hc
      rw [Bool.not_eq_false] at hc
      simp [decimals, hc] at hnil
    simp [hnil, hc]
  · simp only [hnil, if_false, List.length_map]
    split
    · rfl
    · split
      · rename_i hdecimal
        have hdecimals : decimals cs = cs := List.takeWhile_eq_self_iff.2 (List.all_eq_true.1 hdecimal)
        rw [hdecimals, natOfDigits_asciiDigit (List.all_eq_true.1 hdecimal)]
      · rfl

/-- A text of digits is read off its decimal digits, as long as there are no others behind them. -/
theorem wholeOfText_digits {s : String} (hne : s ≠ "") (h : ∀ c ∈ s.toList, isDigit c = true) :
    wholeOfText s =
      if maxDigits < (decimals s.toList).length then .error (.tooManyDigits (decimals s.toList).length)
      else if s.toList.all isDecimal then .ok (valueOfDecimals s.toList)
      else .error (.notAWholeNumeral s) := by
  have hnil : s.toList ≠ [] := fun hnil => hne (String.toList_eq_nil_iff.1 hnil)
  have hblank : ∀ c ∈ s.toList.map asciiDigit, isAsciiBlank c = false := by
    intro c hc
    obtain ⟨c, -, rfl⟩ := List.mem_map.1 hc
    exact asciiDigit_cases (P := (isAsciiBlank · = false)) (by decide) (by decide) c
  have hsign : splitSign (s.toList.map asciiDigit) = (false, s.toList.map asciiDigit) := by
    obtain ⟨c, rest, hcons⟩ := List.exists_cons_of_ne_nil hnil
    have hminus : asciiDigit c ≠ '-' := asciiDigit_ne rfl (by decide) c
    have hplus : asciiDigit c ≠ '+' := asciiDigit_ne rfl (by decide) c
    rw [hcons, List.map_cons]
    unfold splitSign
    split
    · rename_i heq
      exact absurd (List.cons.inj heq).1 hminus
    · rename_i heq
      exact absurd (List.cons.inj heq).1 hplus
    · rfl
  have hint : int s = (whole (s.toList.map asciiDigit)).map fun n => (n : Int) := by
    unfold int
    rw [toAscii_digits h, trimBy_of_all hblank, hsign]
    rfl
  unfold wholeOfText
  rw [hint, whole_digits hnil]
  split_ifs <;> rfl

/-- What is no whole number among digits is told by the digits, or by how many of them there are. -/
def IsFaultOfDigits (fault : Fault) : Prop :=
  (∃ s, fault = .notAWholeNumeral s) ∨ ∃ n, fault = .tooManyDigits n

/-- A reading succeeds for what is readable, and otherwise stops at digits. -/
inductive ReadsDigits {β : Type} (readable : Prop) : Except Fault β → Prop
  | ok {b : β} : readable → ReadsDigits readable (.ok b)
  | error {fault : Fault} : ¬readable → IsFaultOfDigits fault → ReadsDigits readable (.error fault)

namespace ReadsDigits

variable {β γ : Type} {P : Prop} {x : Except Fault β}

theorem exists_ok_iff (hx : ReadsDigits P x) : (∃ b, x = .ok b) ↔ P := by
  cases hx with
  | ok h => exact ⟨fun _ => h, fun _ => ⟨_, rfl⟩⟩
  | error hnot _ => exact ⟨fun ⟨_, hb⟩ => (nomatch hb), fun h => absurd h hnot⟩

theorem map (hx : ReadsDigits P x) (f : β → γ) : ReadsDigits P (x.map f) := by
  cases hx with
  | ok h => exact .ok h
  | error hnot hfault => exact .error hnot hfault

end ReadsDigits

/-- Digits that are read as a whole number: each has a place value, and there are not too many of them. -/
structure IsReadable (cs : List Char) : Prop where
  isDecimal : ∀ c ∈ cs, Text.isDecimal c = true
  few : cs.length ≤ maxDigits

instance (cs : List Char) : Decidable (IsReadable cs) :=
  decidable_of_iff (cs.all Text.isDecimal = true ∧ cs.length ≤ maxDigits)
    ⟨fun h => ⟨List.all_eq_true.1 h.1, h.2⟩, fun h => ⟨List.all_eq_true.2 h.1, h.2⟩⟩

theorem decimals_eq_self {cs : List Char} (h : IsReadable cs) : decimals cs = cs :=
  List.takeWhile_eq_self_iff.2 h.isDecimal

theorem wholeOfText_of_isReadable {s : String} (hne : s ≠ "") (h : IsReadable s.toList) :
    wholeOfText s = .ok (valueOfDecimals s.toList) := by
  rw [wholeOfText_digits hne fun c hc => isDigit_of_isDecimal (h.isDecimal c hc), decimals_eq_self h,
    if_neg (Nat.not_lt.2 h.few), if_pos (List.all_eq_true.2 h.isDecimal)]

/-- A text of digits is read if they can be read. -/
theorem wholeOfText_reads {s : String} (hne : s ≠ "") (h : ∀ c ∈ s.toList, isDigit c = true) :
    ReadsDigits (IsReadable s.toList) (wholeOfText s) := by
  rw [wholeOfText_digits hne h]
  split
  · rename_i hmany
    refine .error (fun hread => ?_) (.inr ⟨_, rfl⟩)
    rw [decimals_eq_self hread] at hmany
    exact Nat.not_lt.2 hread.few hmany
  · rename_i hfew
    split
    · rename_i hall
      have hdecimal : ∀ c ∈ s.toList, isDecimal c = true := List.all_eq_true.1 hall
      have hself : decimals s.toList = s.toList := List.takeWhile_eq_self_iff.2 hdecimal
      rw [hself] at hfew
      exact .ok ⟨hdecimal, Nat.not_lt.1 hfew⟩
    · rename_i hall
      exact .error (fun hread => hall (List.all_eq_true.2 hread.isDecimal)) (.inl ⟨s, rfl⟩)

/-- The digits of a natural number are read as the number, as long as they are not too many. -/
theorem wholeOfText_ofNat (n : Nat) :
    wholeOfText (String.ofList (Digits.ofNat n)) =
      if n < 10 ^ maxDigits then .ok (n : Int) else .error (.tooManyDigits (Digits.ofNat n).length) := by
  split
  · rename_i hn
    have hint := int_ofNat hn false
    simp only [signChars, Bool.false_eq_true, if_false, List.nil_append] at hint
    simp [wholeOfText, hint]
  · rename_i hn
    have hdecimal : ∀ c ∈ Digits.ofNat n, isDecimal c = true := fun c hc =>
      isDecimal_of_isDigit (isDigit_of_mem_ofNat hc)
    have hself : decimals (Digits.ofNat n) = Digits.ofNat n := List.takeWhile_eq_self_iff.2 hdecimal
    have hlength : maxDigits < (Digits.ofNat n).length := by
      by_contra hle
      exact hn ((Nat.length_toDigits_le_iff (by decide) (by decide)).1 (Nat.not_lt.1 hle))
    rw [wholeOfText_digits (by simpa using ofNat_ne_nil n), String.toList_ofList, hself, if_pos hlength]
    rw [String.toList_ofList]
    exact fun c hc => isDigit_of_isDecimal (hdecimal c hc)

end Numeral

end ReportCard
