import ReportCard.Proofs.Text.Blank
import ReportCard.Text.Case

/-!
# Letter case keeps texts

No character vanishes in upper case, so only the empty text is empty in upper case.  Blanks have no case and no other
character becomes one, so that what is trimmed stays trimmed (`Text.IsTrimmed.upper`).
-/

namespace ReportCard.Text

theorem upperChar_ne_nil (c : Char) : upperChar c ≠ [] := by
  have hexpansions : ∀ e ∈ upperExpansions, e.2 ≠ [] := by decide
  unfold upperChar
  split
  · simp
  · split
    · rename_i e he
      simpa using hexpansions e (List.mem_of_find?_eq_some he)
    · simp

@[simp]
theorem upper_eq_empty {s : String} : upper s = "" ↔ s = "" := by
  constructor
  · intro h
    have hnil : s.toList.flatMap upperChar = [] := by
      rw [← String.toList_ofList (l := s.toList.flatMap upperChar)]
      exact congrArg String.toList h
    cases hs : s.toList with
    | nil => exact String.toList_eq_nil_iff.1 hs
    | cons c cs =>
      rw [hs, List.flatMap_cons, List.append_eq_nil_iff] at hnil
      exact absurd hnil.1 (upperChar_ne_nil c)
  · rintro rfl
    rfl

theorem toList_upper (s : String) : (upper s).toList = s.toList.flatMap upperChar :=
  String.toList_ofList

theorem upper_append (s t : String) : upper (s ++ t) = upper s ++ upper t := by
  simp [← String.toList_inj, toList_upper]

/-! ### Blanks -/

/-- The code points of blanks. -/
private def blanks : List Nat :=
  List.range' 0x09 5 ++ List.range' 0x1C 5 ++ [0x85, 0xA0, 0x1680] ++ List.range' 0x2000 11 ++
    [0x2028, 0x2029, 0x202F, 0x205F, 0x3000]

private theorem isBlank_iff {c : Char} : isBlank c = true ↔ c.toNat ∈ blanks := by
  simp only [isBlank, blanks, Bool.or_eq_true, Bool.and_eq_true, decide_eq_true_eq, beq_iff_eq, List.mem_append,
    List.mem_range'_1, List.mem_cons, List.not_mem_nil, or_false]
  omega

private theorem isBlank_ofNat {n : Nat} (h : isBlank (Char.ofNat n) = true) : n ∈ blanks := by
  have hzero : 0 ∉ blanks := by decide
  have hnat : (Char.ofNat n).toNat = n ∨ (Char.ofNat n).toNat = 0 := by
    -- what is no code point stands for the first one
    by_cases hvalid : n.isValidChar
    · rw [Char.ofNat, dif_pos hvalid]
      exact .inl rfl
    · rw [Char.ofNat, dif_neg hvalid]
      exact .inr rfl
  rw [isBlank_iff] at h
  rcases hnat with hnat | hnat
  · rwa [hnat] at h
  · rw [hnat] at h
    exact absurd h hzero

/-- A blank is its own upper case. -/
theorem upperChar_of_isBlank {c : Char} (h : isBlank c = true) : upperChar c = [c] := by
  have hblanks : ∀ n ∈ blanks, upperChar (Char.ofNat n) = [Char.ofNat n] := by decide +kernel
  have hc := hblanks c.toNat (isBlank_iff.1 h)
  rwa [Char.ofNat_toNat] at hc

/-- No run of characters is mapped to blanks. -/
private theorem mapRuns_upperRuns {n : Nat} (h : mapRuns upperRuns n ∈ blanks) : n ∈ blanks := by
  have hruns : ∀ r ∈ upperRuns, ∀ b ∈ blanks, (b : Int) < r.first + r.offset ∨ (r.last + r.offset : Int) < b := by
    decide +kernel
  unfold mapRuns at h
  split at h
  · rename_i r hr
    have hcovers := List.find?_some hr
    simp only [CaseRun.covers, Bool.and_eq_true, decide_eq_true_eq] at hcovers
    have hzero : 0 ∉ blanks := by decide
    have hpos : (n + r.offset).toNat ≠ 0 := fun hn => hzero (hn ▸ h)
    rcases hruns r (List.mem_of_find?_eq_some hr) _ h with hlow | hhigh
    · omega
    · omega
  · exact h

/-- No other character becomes a blank. -/
theorem isBlank_of_mem_upperChar {c d : Char} (hd : d ∈ upperChar c) (h : isBlank d = true) : isBlank c = true := by
  have hascii : ∀ n < 0x80, isBlank (Char.ofNat n).toUpper = true → isBlank (Char.ofNat n) = true := by decide +kernel
  have hexpansions : ∀ e ∈ upperExpansions, ∀ n ∈ e.2, isBlank (Char.ofNat n) = false := by decide +kernel
  unfold upperChar at hd
  split at hd
  · rename_i hsmall
    have hc := hascii c.toNat hsmall
    rw [Char.ofNat_toNat] at hc
    rw [List.mem_singleton.1 hd] at h
    exact hc h
  · split at hd
    · rename_i e he
      obtain ⟨n, hn, rfl⟩ := List.mem_map.1 hd
      rw [hexpansions e (List.mem_of_find?_eq_some he) n hn] at h
      cases h
    · rw [List.mem_singleton.1 hd] at h
      exact isBlank_iff.2 (mapRuns_upperRuns (isBlank_ofNat h))

/-- A text of blanks is its own upper case. -/
theorem upper_of_allBlank {s : String} (h : allBlank s = true) : upper s = s := by
  have hchars : ∀ cs : List Char, (∀ c ∈ cs, isBlank c = true) → cs.flatMap upperChar = cs := by
    intro cs hcs
    induction cs with
    | nil => rfl
    | cons c cs ih =>
      rw [List.flatMap_cons, upperChar_of_isBlank (hcs c List.mem_cons_self),
        ih fun d hd => hcs d (List.mem_cons_of_mem c hd), List.singleton_append]
  rw [← String.toList_inj, toList_upper]
  exact hchars _ (List.all_eq_true.1 h)

/-- Upper case neither makes a text blank nor gives it something to show. -/
theorem allBlank_upper (s : String) : allBlank (upper s) = allBlank s := by
  cases hs : allBlank s with
  | true => rw [upper_of_allBlank hs, hs]
  | false =>
    obtain ⟨c, hc, hblank⟩ := List.all_eq_false.1 hs
    obtain ⟨d, hd⟩ := List.exists_mem_of_ne_nil _ (upperChar_ne_nil c)
    have hmem : d ∈ (upper s).toList := toList_upper s ▸ List.mem_flatMap.2 ⟨c, hc, hd⟩
    exact List.all_eq_false.2 ⟨d, hmem, fun h => hblank (isBlank_of_mem_upperChar hd h)⟩

/-- Upper case keeps a text trimmed. -/
theorem IsTrimmed.upper {cs : List Char} (h : IsTrimmed cs) : IsTrimmed (cs.flatMap upperChar) := by
  have hkeeps : ∀ {c d : Char}, d ∈ upperChar c → isBlank c = false → isBlank d = false := by
    intro c d hd hc
    by_contra hblank
    rw [Bool.not_eq_false] at hblank
    rw [isBlank_of_mem_upperChar hd hblank] at hc
    cases hc
  rintro d (hhead | hlast)
  · cases cs with
    | nil => cases hhead
    | cons c cs =>
      rw [List.flatMap_cons, List.head?_append_of_ne_nil _ (upperChar_ne_nil c)] at hhead
      exact hkeeps (List.mem_of_mem_head? hhead) (h c (.inl rfl))
  · rcases List.eq_nil_or_concat cs with rfl | ⟨init, c, rfl⟩
    · cases hlast
    · rw [List.concat_eq_append, List.flatMap_append, List.flatMap_singleton,
        List.getLast?_append_of_ne_nil _ (upperChar_ne_nil c)] at hlast
      exact hkeeps (List.mem_of_mem_getLast? hlast) (h c (.inr (by simp)))

end ReportCard.Text
