import ReportCard.Painting.Shape
import ReportCard.Proofs.Number.Whole
import ReportCard.Proofs.Text.Blank

/-!
# Rules along the lower edge

The text for a rule names its width, its kind and its color, with blanks between them.  The width is told by the digits
that the first word begins with, and only digits that can be read tell one (`BottomRule.exists_ofText_iff`).  The color
is a word like the other two: a color that is written with blanks is cut off at the first of them
(`BottomRule.ofText_written_iff`).
-/

namespace ReportCard

open Text Numeral

namespace Text

theorem decimals_takeWhile_isDigit (cs : List Char) : decimals (cs.takeWhile isDigit) = decimals cs := by
  have hpart : (fun c => decide (isDecimal c = true ∧ isDigit c = true)) = isDecimal := by
    funext c
    cases hc : isDecimal c with
    | false => simp
    | true => simp [isDigit_of_isDecimal hc]
  unfold decimals
  rw [List.takeWhile_takeWhile, hpart]

end Text

namespace BottomRule

/-- The characters of the first word of a text. -/
def leadingWord (s : String) : String := (Text.words s)[0]?.getD ""

/-- The digits that the first word of a text begins with. -/
def widthDigits (s : String) : List Char := (leadingWord s).toList.takeWhile isDigit

theorem width?_of_isReadable (word : String) (h : IsReadable (word.toList.takeWhile isDigit)) :
    width? word = .ok (valueOfDecimals (decimals word.toList)) := by
  rw [← decimals_takeWhile_isDigit, decimals_eq_self h]
  unfold width?
  by_cases hnil : word.toList.takeWhile isDigit = []
  · simp [hnil, valueOfDecimals]
  · have hne : String.ofList (word.toList.takeWhile isDigit) ≠ "" := by simpa using hnil
    have hread := wholeOfText_of_isReadable hne (by rwa [String.toList_ofList])
    rw [String.toList_ofList] at hread
    simp [hnil, hread, Except.map]

/-- The width that a word begins with is read if its digits can be read. -/
theorem width?_reads (word : String) : ReadsDigits (IsReadable (word.toList.takeWhile isDigit)) (width? word) := by
  unfold width?
  dsimp only
  by_cases hnil : word.toList.takeWhile isDigit = []
  · rw [if_pos (by simpa using hnil), hnil]
    exact .ok ⟨by simp, by simp⟩
  · have hne : String.ofList (word.toList.takeWhile isDigit) ≠ "" := by simpa using hnil
    have hdigits : ∀ c ∈ (String.ofList (word.toList.takeWhile isDigit)).toList, isDigit c = true := by
      rw [String.toList_ofList]
      exact List.all_eq_true.1 List.all_takeWhile
    have hread := wholeOfText_reads hne hdigits
    rw [String.toList_ofList] at hread
    rw [if_neg (by simpa using hnil)]
    exact hread.map _

/-- The rule of a text whose width has been read. -/
theorem ofText_of_width? {s : String} {width : Nat} (h : width? (leadingWord s) = .ok width) :
    ofText s = .ok ⟨max 1 width, (Text.words s)[1]?.getD "solid", (Text.words s)[2]?.getD "#000000"⟩ := by
  have hwidth : (if width = 0 then 1 else width) = max 1 width := by
    split <;> omega
  unfold leadingWord at h
  simp only [ofText, h, Except.map, hwidth]

theorem ofText_of_width?_error {s : String} {fault : Fault} (h : width? (leadingWord s) = .error fault) :
    ofText s = .error fault := by
  unfold leadingWord at h
  simp only [ofText, h, Except.map]

/-- A rule is read if the digits of its width can be read. -/
theorem ofText_reads (s : String) : ReadsDigits (IsReadable (widthDigits s)) (ofText s) := by
  have hwidth := width?_reads (leadingWord s)
  unfold ofText
  exact hwidth.map _

theorem exists_ofText_iff {s : String} : (∃ rule, ofText s = .ok rule) ↔ IsReadable (widthDigits s) :=
  (ofText_reads s).exists_ok_iff

/-- A rule is as wide as the decimal digits at its front say, but at least one point wide. -/
theorem width_of_ofText {s : String} {rule : BottomRule} (h : ofText s = .ok rule) :
    rule.width = max 1 (valueOfDecimals (decimals (leadingWord s).toList)) := by
  have hread : IsReadable (widthDigits s) := exists_ofText_iff.1 ⟨rule, h⟩
  rw [ofText_of_width? (width?_of_isReadable (leadingWord s) hread)] at h
  rw [← Except.ok.inj h]

/-! ### Written rules -/

/-- The text for a rule: its width in points, its kind and its color. -/
def written (width : Nat) (kind color : String) : String := toString width ++ "px " ++ kind ++ " " ++ color

section Written

variable {n : Nat} {kind color : String}

private theorem toList_written (n : Nat) (kind color : String) :
    (written n kind color).toList =
      (Digits.ofNat n ++ ['p', 'x']) ++ ' ' :: (kind.toList ++ ' ' :: color.toList) := by
  have hdigits : Nat.toDigits 10 n = Digits.ofNat n := rfl
  simp [written, hdigits]

private theorem not_blank_of_mem_ofNat {c : Char} (hc : c ∈ Digits.ofNat n ++ ['p', 'x']) : isBlank c = false := by
  rcases List.mem_append.1 hc with hc | hc
  · exact isBlank_of_isDigit (isDigit_of_isDecimal (isDecimal_of_isDigit (isDigit_of_mem_ofNat hc)))
  · simp only [List.mem_cons, List.not_mem_nil, or_false] at hc
    rcases hc with rfl | rfl <;> decide

/-- The words of the text for a rule: the width with its unit, the kind, and the words of the color. -/
private theorem words_written (hkind : kind ≠ "") (hword : ∀ c ∈ kind.toList, isBlank c = false) :
    Text.words (written n kind color) =
      String.ofList (Digits.ofNat n ++ ['p', 'x']) :: kind :: Text.words color := by
  have hnil : kind.toList ≠ [] := fun hnil => hkind (String.toList_eq_nil_iff.1 hnil)
  have htext : written n kind color = String.ofList (written n kind color).toList := by
    rw [String.ofList_toList]
  rw [htext, toList_written, words_append_blank (by simp) (fun c hc => not_blank_of_mem_ofNat hc) rfl,
    words_append_blank hnil hword rfl, String.ofList_toList, String.ofList_toList]

/-- The width of a written rule is read off its digits, which end at the unit. -/
private theorem width?_written (n : Nat) :
    width? (String.ofList (Digits.ofNat n ++ ['p', 'x'])) =
      (wholeOfText (String.ofList (Digits.ofNat n))).map Int.toNat := by
  have hdigits : ∀ c ∈ Digits.ofNat n, isDigit c = true := fun c hc =>
    isDigit_of_isDecimal (isDecimal_of_isDigit (isDigit_of_mem_ofNat hc))
  have htake : (Digits.ofNat n ++ ['p', 'x']).takeWhile isDigit = Digits.ofNat n := by
    rw [List.takeWhile_append_of_pos hdigits, show ['p', 'x'].takeWhile isDigit = [] from by decide, List.append_nil]
  unfold width?
  rw [String.toList_ofList, htake]
  simp [ofNat_ne_nil]

/-- Of a rule that is written down everything is read but the color, of which only the first word is. -/
theorem ofText_written (hn : 1 ≤ n) (hkind : kind ≠ "") (hword : ∀ c ∈ kind.toList, isBlank c = false)
    (hcolor : color ≠ "") (htrim : Text.trim color = color) :
    ofText (written n kind color) =
      if n < 10 ^ maxDigits then .ok ⟨n, kind, String.ofList (firstWord color.toList)⟩
      else .error (.tooManyDigits (toString n).length) := by
  have hnil : color.toList ≠ [] := fun hnil => hcolor (String.toList_eq_nil_iff.1 hnil)
  have htrimmed : IsTrimmed color.toList := by
    rw [← htrim]
    exact isTrimmed_trim color
  have hwords : Text.words (written n kind color) = String.ofList (Digits.ofNat n ++ ['p', 'x']) :: kind ::
      String.ofList (firstWord color.toList) :: Text.words (String.ofList (afterWord color.toList)) := by
    have hcolorWords := words_eq_cons hnil fun c hc => htrimmed c (.inl hc)
    rw [String.ofList_toList] at hcolorWords
    rw [words_written hkind hword, hcolorWords]
  have hlead : leadingWord (written n kind color) = String.ofList (Digits.ofNat n ++ ['p', 'x']) := by
    simp [leadingWord, hwords]
  have hwidth := width?_written n
  rw [wholeOfText_ofNat, ← hlead] at hwidth
  by_cases hfew : n < 10 ^ maxDigits
  · have hmax : max 1 n = n := Nat.max_eq_right hn
    rw [if_pos hfew] at hwidth ⊢
    rw [ofText_of_width? hwidth, hwords]
    simp [hmax]
  · have hlength : (toString n).length = (Digits.ofNat n).length := String.length_ofList
    rw [if_neg hfew] at hwidth ⊢
    rw [ofText_of_width?_error hwidth, hlength]

/-- A rule that is written down is read back, but for its color: of that only the first word is read.  So the three of
them come back together exactly if the color has no blanks in it, and the width no more digits than are read. -/
theorem ofText_written_iff (hn : 1 ≤ n) (hkind : kind ≠ "") (hword : ∀ c ∈ kind.toList, isBlank c = false)
    (hcolor : color ≠ "") (htrim : Text.trim color = color) :
    ofText (written n kind color) =
        (if n < 10 ^ maxDigits then .ok ⟨n, kind, String.ofList (firstWord color.toList)⟩
        else .error (.tooManyDigits (toString n).length)) ∧
      (ofText (written n kind color) = .ok ⟨n, kind, color⟩ ↔
        n < 10 ^ maxDigits ∧ ∀ c ∈ color.toList, isBlank c = false) := by
  have hread := ofText_written hn hkind hword hcolor htrim
  refine ⟨hread, ?_⟩
  rw [hread]
  split
  · rename_i hfew
    have hwhole : String.ofList (firstWord color.toList) = color ↔ ∀ c ∈ color.toList, isBlank c = false := by
      rw [← String.toList_inj, String.toList_ofList, firstWord_eq_self_iff]
    simp [hfew, hwhole]
  · rename_i hmany
    simp [hmany]

/-- A thick rule in a color of its own. -/
theorem ofText_written_iff_solid :
    1 ≤ 12 ∧ "solid" ≠ "" ∧ (∀ c ∈ "solid".toList, isBlank c = false) ∧ "#1e40af" ≠ "" ∧
      Text.trim "#1e40af" = "#1e40af" ∧ written 12 "solid" "#1e40af" = "12px solid #1e40af" ∧
      ofText "12px solid #1e40af" = .ok ⟨12, "solid", "#1e40af"⟩ := by
  have hword : ∀ c ∈ "solid".toList, isBlank c = false := by simp [isBlank]
  have htrim : Text.trim "#1e40af" = "#1e40af" := by decide
  have hblank : ∀ c ∈ "#1e40af".toList, isBlank c = false := by simp [isBlank]
  have hfew : 12 < 10 ^ maxDigits := lt_of_lt_of_le (by norm_num) (Nat.pow_le_pow_right (by norm_num)
    (show 2 ≤ maxDigits by decide))
  obtain ⟨-, hiff⟩ := ofText_written_iff (n := 12) (by decide) (by decide) hword (by decide) htrim
  exact ⟨by decide, by decide, hword, by decide, htrim, by decide, hiff.2 ⟨hfew, hblank⟩⟩

/-- The background of a shape may be written with blanks between its parts.  Of the same color for a rule only the front
is read, which is no color. -/
theorem ofText_cuts_color :
    Style.color? (.text "rgb(30, 64, 175)") = .ok (some "rgb(30, 64, 175)") ∧
      written 2 "solid" "rgb(30, 64, 175)" = "2px solid rgb(30, 64, 175)" ∧
      ofText "2px solid rgb(30, 64, 175)" = .ok ⟨2, "solid", "rgb(30,"⟩ := by
  decide

end Written

end BottomRule

end ReportCard
