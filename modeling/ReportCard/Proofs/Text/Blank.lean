import Mathlib.Data.List.Infix
import ReportCard.Text.Blank

/-!
# Blanks around texts

`Text.contains` looks for a run of neighbouring characters, and trimming leaves a text that neither begins nor ends with
a blank.  Blanks around a text neither hide what is trimmed in it nor add to it (`Text.IsTrimmed.infix_padded`).  What
stands before the first blank of a text is its first word (`Text.words_eq_cons`).
-/

namespace ReportCard.Text

theorem occursIn_iff {needle cs : List Char} : occursIn needle cs = true ↔ needle <:+: cs := by
  induction cs with
  | nil => simp [occursIn]
  | cons c cs ih => rw [occursIn, Bool.or_eq_true, ih, List.isPrefixOf_iff_prefix, List.infix_cons_iff]

theorem contains_iff {s needle : String} : contains s needle = true ↔ needle.toList <:+: s.toList :=
  occursIn_iff

/-- Neither the first character is blank nor the last one. -/
def IsTrimmed (cs : List Char) : Prop :=
  ∀ c, cs.head? = some c ∨ cs.getLast? = some c → isBlank c = false

theorem IsTrimmed.reverse {cs : List Char} (h : IsTrimmed cs) : IsTrimmed cs.reverse := by
  intro c hc
  rw [List.head?_reverse, List.getLast?_reverse] at hc
  exact h c hc.symm

theorem isTrimmed_of_any_eq_false {cs : List Char} (h : cs.any isBlank = false) : IsTrimmed cs := by
  rw [List.any_eq_false] at h
  rintro c (hc | hc)
  · exact Bool.eq_false_iff.2 (h c (List.mem_of_mem_head? hc))
  · exact Bool.eq_false_iff.2 (h c (List.mem_of_mem_getLast? hc))

private theorem not_blank_of_head? {p : Char → Bool} (cs : List Char) {c : Char}
    (h : (cs.dropWhile p).head? = some c) : p c = false := by
  have hnot := List.head?_dropWhile_not p cs
  rw [h] at hnot
  exact hnot

theorem isTrimmed_trim (s : String) : IsTrimmed (trim s).toList := by
  have htrim : (trim s).toList = ((s.toList.dropWhile isBlank).reverse.dropWhile isBlank).reverse :=
    String.toList_ofList
  rw [htrim]
  rintro c (hc | hc)
  · -- what is dropped at the end leaves the first character, unless nothing is left
    have hkept : ((s.toList.dropWhile isBlank).reverse.dropWhile isBlank).reverse <+: s.toList.dropWhile isBlank := by
      rw [← List.reverse_suffix, List.reverse_reverse]
      exact List.dropWhile_suffix _
    obtain ⟨rest, hrest⟩ := hkept
    refine not_blank_of_head? s.toList ?_
    rw [← hrest, List.head?_append, hc]
    rfl
  · rw [List.getLast?_reverse] at hc
    exact not_blank_of_head? _ hc

section Padding

variable {u v cs ds : List Char}

private theorem IsTrimmed.infix_append (h : IsTrimmed cs) (hu : ∀ c ∈ u, isBlank c = true) :
    cs <:+: u ++ ds ↔ cs <:+: ds := by
  induction u with
  | nil => rfl
  | cons c u ih =>
    rw [List.cons_append, List.infix_cons_iff, ih fun d hd => hu d (List.mem_cons_of_mem c hd)]
    refine ⟨?_, Or.inr⟩
    rintro (hhead | hinfix)
    · -- a blank would be its first character
      rcases List.prefix_cons_iff.1 hhead with rfl | ⟨rest, rfl, -⟩
      · exact List.nil_infix
      · have hc := h c (.inl rfl)
        rw [hu c List.mem_cons_self] at hc
        cases hc
    · exact hinfix

/-- What is trimmed is part of a text with blanks around it exactly if it is part of the text. -/
theorem IsTrimmed.infix_padded (h : IsTrimmed cs) (hu : ∀ c ∈ u, isBlank c = true) (hv : ∀ c ∈ v, isBlank c = true) :
    cs <:+: u ++ ds ++ v ↔ cs <:+: ds := by
  have hv' : ∀ c ∈ v.reverse, isBlank c = true := fun c hc => hv c (List.mem_reverse.1 hc)
  rw [List.append_assoc, h.infix_append hu, ← List.reverse_infix, List.reverse_append, h.reverse.infix_append hv',
    List.reverse_infix]

/-- A text without blanks is not another one with blanks around it. -/
theorem nil_of_padded_eq (hu : ∀ c ∈ u, isBlank c = true) (hv : ∀ c ∈ v, isBlank c = true)
    (h : u ++ ds ++ v = cs) (hcs : cs.any isBlank = false) : u = [] ∧ v = [] := by
  subst h
  rw [List.any_eq_false] at hcs
  constructor
  · rw [List.eq_nil_iff_forall_not_mem]
    intro c hc
    exact hcs c (List.mem_append_left v (List.mem_append_left ds hc)) (hu c hc)
  · rw [List.eq_nil_iff_forall_not_mem]
    intro c hc
    exact hcs c (List.mem_append_right (u ++ ds) hc) (hv c hc)

end Padding

/-! ### Words -/

/-- The characters before the first blank. -/
def firstWord (cs : List Char) : List Char := cs.takeWhile fun c => !isBlank c

/-- What stands behind the first word. -/
def afterWord (cs : List Char) : List Char := cs.dropWhile fun c => !isBlank c

theorem firstWord_append {w : List Char} (hw : ∀ c ∈ w, isBlank c = false) (rest : List Char) :
    firstWord (w ++ rest) = w ++ firstWord rest :=
  List.takeWhile_append_of_pos fun c hc => by simp [hw c hc]

theorem afterWord_append {w : List Char} (hw : ∀ c ∈ w, isBlank c = false) (rest : List Char) :
    afterWord (w ++ rest) = afterWord rest :=
  List.dropWhile_append_of_pos fun c hc => by simp [hw c hc]

theorem firstWord_eq_self_iff {cs : List Char} : firstWord cs = cs ↔ ∀ c ∈ cs, isBlank c = false := by
  constructor
  · intro h c hc
    rw [← h] at hc
    simpa using List.all_eq_true.1 List.all_takeWhile c hc
  · intro h
    have hself := firstWord_append h []
    rwa [List.append_nil, show firstWord [] = [] from rfl, List.append_nil] at hself

/-- A word that has been begun goes on up to the first blank. -/
private theorem wordsFrom_eq_cons {current : List Char} (hne : current ≠ []) (cs : List Char) :
    wordsFrom current cs = (current.reverse ++ firstWord cs) :: wordsFrom [] (afterWord cs) := by
  induction cs generalizing current with
  | nil => simp [wordsFrom, firstWord, afterWord, hne]
  | cons c cs ih =>
    cases hc : isBlank c with
    | true => simp [wordsFrom, firstWord, afterWord, hc, hne]
    | false =>
      have hword := ih (List.cons_ne_nil c current)
      simp only [firstWord, afterWord, List.reverse_cons, List.append_assoc, List.singleton_append] at hword
      simp [wordsFrom, firstWord, afterWord, hc, hword]

theorem words_eq_cons {cs : List Char} (hne : cs ≠ []) (hhead : ∀ c ∈ cs.head?, isBlank c = false) :
    words (String.ofList cs) = String.ofList (firstWord cs) :: words (String.ofList (afterWord cs)) := by
  obtain ⟨c, cs, rfl⟩ := List.exists_cons_of_ne_nil hne
  have hc : isBlank c = false := hhead c rfl
  have hbegun := wordsFrom_eq_cons (List.cons_ne_nil c []) cs
  simp [words, wordsFrom, hc, hbegun, firstWord, afterWord]

/-- A word with a blank behind it comes before the words behind the blank. -/
theorem words_append_blank {w : List Char} (hne : w ≠ []) (hw : ∀ c ∈ w, isBlank c = false) {b : Char}
    (hb : isBlank b = true) (rest : List Char) :
    words (String.ofList (w ++ b :: rest)) = String.ofList w :: words (String.ofList rest) := by
  have hhead : ∀ c ∈ (w ++ b :: rest).head?, isBlank c = false := by
    rw [List.head?_append_of_ne_nil _ hne]
    exact fun c hc => hw c (List.mem_of_mem_head? hc)
  have hfirst : firstWord (b :: rest) = [] := by simp [firstWord, hb]
  have hafter : afterWord (b :: rest) = b :: rest := by simp [afterWord, hb]
  have hskip : words (String.ofList (b :: rest)) = words (String.ofList rest) := by simp [words, wordsFrom, hb]
  rw [words_eq_cons (by simp) hhead, firstWord_append hw, afterWord_append hw, hfirst, hafter, hskip, List.append_nil]

end ReportCard.Text
