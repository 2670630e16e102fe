import ReportCard.Painting.Table.Cell
import ReportCard.Proofs.Record.Writing
import ReportCard.Proofs.Text.Case

/-!
# Component scores

Under a header that asks for nothing else a table shows the score of a component: the first one in the list whose name
matches the header, whether or not it has a score.  Nothing else in the list counts, neither what does not match nor
what comes after the first match (`Table.componentScore_shows_first`).  Only a name with too many digits is not passed
over: it cannot be compared, and stops the search.
-/

namespace ReportCard.Table

/-- A name matches a header: they are equal, or one is part of the other. -/
def Matches (header name : String) : Prop :=
  name = header ∨ name.toList <:+: header.toList ∨ header.toList <:+: name.toList

instance (header name : String) : Decidable (Matches header name) :=
  inferInstanceAs (Decidable (_ ∨ _ ∨ _))

/-- An item of a list of component scores belongs under a header: it is a mapping with the name of a component, and the
name matches. -/
def BelongsUnder (header : String) (item : Value) : Prop :=
  ∃ score ∈ item.entries?, componentName score ≠ "" ∧ Matches header (componentName score)

instance (header : String) : DecidablePred (BelongsUnder header) :=
  fun item => Option.decidableExistsMem item.entries?

/-- The text of the first item that belongs under a header: its score, if it has one. -/
def scoreUnder (header : String) (items : List Value) : Except Fault String :=
  match items.find? (BelongsUnder header ·) with
  | some item => if (item.member "score").isNull then .ok emptyCell else formatNumber (item.member "score")
  | none => .ok emptyCell

/-- An item of a list of component scores names its component by something that cannot be written. -/
def HasLongName (item : Value) : Prop := ∃ score ∈ item.entries?, (componentLabel score).isWritable = false

instance : DecidablePred HasLongName := fun item => Option.decidableExistsMem item.entries?

/-- An item decides what is shown under a header: it belongs there, or its name cannot be written. -/
def CountsUnder (header : String) (item : Value) : Prop := HasLongName item ∨ BelongsUnder header item

instance (header : String) : DecidablePred (CountsUnder header) :=
  fun item => inferInstanceAs (Decidable (HasLongName item ∨ BelongsUnder header item))

/-- The text of the first item that counts under a header: its score, if it has one and the name can be written. -/
def firstScore (header : String) (items : List Value) : Except Fault String :=
  match items.find? (CountsUnder header ·) with
  | some item =>
    if HasLongName item then .error .numberTooLong
    else if (item.member "score").isNull then .ok emptyCell
    else formatNumber (item.member "score")
  | none => .ok emptyCell

/-! ### Names -/

theorem isTrimmed_componentName (score : Entries) : Text.IsTrimmed (componentName score).toList := by
  rw [componentName, Text.toList_upper]
  exact (Text.isTrimmed_trim _).upper

private theorem matchesHeader_text (header name : String) :
    matchesHeader (.text header) name = .ok (decide (name ≠ "" ∧ Matches header name)) := by
  have hcontains : (Text.contains header name || Text.contains name header) = decide (Matches header name) := by
    rw [Bool.eq_iff_iff, Bool.or_eq_true, Text.contains_iff, Text.contains_iff, decide_eq_true_eq]
    refine ⟨Or.inr, ?_⟩
    rintro (rfl | h)
    · exact .inl List.infix_rfl
    · exact h
  unfold matchesHeader
  by_cases hname : name = ""
  · simp [hname]
  · have hempty : name.isEmpty = false := by simpa using hname
    simp [hempty, hname, hcontains]

/-! ### Lists -/

section First

variable {P Q : Value → Prop} [DecidablePred P] [DecidablePred Q] {items : List Value}

/-- The first item that passes a test is the first to pass a stricter one, if it does. -/
theorem find?_eq_some_of_imp (hstricter : ∀ item, Q item → P item) {item : Value}
    (h : items.find? (P ·) = some item) (hitem : Q item) : items.find? (Q ·) = some item := by
  obtain ⟨-, before, after, hsplit, hbefore⟩ := List.find?_eq_some_iff_append.1 h
  refine List.find?_eq_some_iff_append.2 ⟨decide_eq_true hitem, before, after, hsplit, fun other hother => ?_⟩
  have hnot : ¬P other := by simpa using hbefore other hother
  simpa using fun hother => hnot (hstricter other hother)

theorem find?_eq_none_of_imp (hstricter : ∀ item, Q item → P item) (h : items.find? (P ·) = none) :
    items.find? (Q ·) = none := by
  rw [List.find?_eq_none] at h ⊢
  exact fun item hmem hitem => h item hmem (decide_eq_true (hstricter item (of_decide_eq_true hitem)))

end First

/-- The search goes on until a name matches or cannot be written. -/
private theorem matching?_text (header : String) (scores : List Entries) :
    matching? (.text header) scores =
      match scores.find? fun score => CountsUnder header (.mapping score) with
      | some score => if HasLongName (.mapping score) then .error .numberTooLong else .ok (some score)
      | none => .ok none := by
  induction scores with
  | nil => rfl
  | cons score scores ih =>
    have hlong : HasLongName (.mapping score) ↔ (componentLabel score).isWritable = false := by
      simp [HasLongName, Value.entries?]
    have hbelongs : BelongsUnder header (.mapping score) ↔
        componentName score ≠ "" ∧ Matches header (componentName score) := by
      simp [BelongsUnder, Value.entries?]
    have hcounts := or_congr hlong hbelongs
    rw [matching?, List.find?_cons]
    cases hwritable : (componentLabel score).isWritable with
    | false =>
      have hdecide : decide (CountsUnder header (.mapping score)) = true := decide_eq_true (hcounts.2 (.inl hwritable))
      simp [hdecide, Value.written, hwritable, hlong, bind, Except.bind]
    | true =>
      rw [Value.written_of_isWritable hwritable]
      by_cases hmatch : componentName score ≠ "" ∧ Matches header (componentName score)
      · have hdecide : decide (CountsUnder header (.mapping score)) = true := decide_eq_true (hcounts.2 (.inr hmatch))
        simp [hdecide, matchesHeader_text, hmatch, hlong, hwritable, bind, Except.bind, pure, Except.pure]
      · have hdecide : decide (CountsUnder header (.mapping score)) = false :=
          decide_eq_false fun h => (hcounts.1 h).elim (by simp [hwritable]) hmatch
        simp [hdecide, matchesHeader_text, hmatch, ih, bind, Except.bind]

private theorem find?_entries? (header : String) (items : List Value) :
    (items.filterMap Value.entries?).find? (fun score => CountsUnder header (.mapping score)) =
      (items.find? (CountsUnder header ·)).bind Value.entries? := by
  rw [List.find?_filterMap]
  refine congrArg (fun p => (items.find? p).bind Value.entries?) (funext fun item => ?_)
  cases item <;> simp [CountsUnder, HasLongName, BelongsUnder, Value.entries?]

/-- What is shown of listed scores is the first one that belongs under the header. -/
private theorem firstScore_eq (header : String) (items : List Value) :
    firstScore header items = (do
      match ← matching? (.text header) (items.filterMap Value.entries?) with
      | some score => scoreText score
      | none => return emptyCell) := by
  unfold firstScore
  rw [matching?_text, find?_entries?]
  cases hitem : items.find? (CountsUnder header ·) with
  | none => rfl
  | some item =>
    have hcounts := List.find?_some (p := fun item => decide (CountsUnder header item)) hitem
    rcases of_decide_eq_true hcounts with ⟨score, hscore, -⟩ | ⟨score, hscore, -⟩
    all_goals
      rw [Value.entries?_eq_some_iff.1 hscore]
      dsimp only [Option.bind_some, Value.entries?]
      split <;> rfl

/-- Only the items of a list are gone through. -/
private theorem eq_of_listedScores {scores : Value} {listed : List Entries} (h : listedScores scores = .ok listed) :
    listed = (scores.items?.getD []).filterMap Value.entries? := by
  unfold listedScores at h
  split at h
  · cases scores <;> simp_all [Value.items?]
  · rename_i hempty
    cases scores <;> simp_all [Value.items?, Value.isTruthy]

/-- Where the scores can be gone through, what is shown is the first one that belongs under the header. -/
theorem componentScore_of_listed {header : String} {scores : Value} {listed : List Entries}
    (h : listedScores scores = .ok listed) :
    componentScore (.text header) scores = firstScore header (scores.items?.getD []) := by
  rw [firstScore_eq, ← eq_of_listedScores h, componentScore, h]
  rfl

/-- In a list the first item that belongs under the header is found. -/
theorem componentScore_of_items? (header : String) {scores : Value} {items : List Value}
    (h : scores.items? = some items) : componentScore (.text header) scores = firstScore header items := by
  have hlisted : listedScores scores = .ok (items.filterMap Value.entries?) := by
    unfold listedScores
    cases scores with
    | list _ | tuple _ =>
      cases h
      cases items <;> rfl
    | _ => cases h
  rw [componentScore_of_listed hlisted, h, Option.getD_some]

/-- An item whose name can be written counts under a header exactly if it belongs there. -/
theorem countsUnder_iff {header : String} {item : Value} (h : ¬HasLongName item) :
    CountsUnder header item ↔ BelongsUnder header item := or_iff_right h

/-- Where all names can be written, the first item that belongs under a header decides. -/
theorem firstScore_of_names (header : String) {items : List Value} (h : ∀ item ∈ items, ¬HasLongName item) :
    firstScore header items = scoreUnder header items := by
  have hfind : items.find? (CountsUnder header ·) = items.find? (BelongsUnder header ·) := by
    rw [← List.head?_filter, ← List.head?_filter]
    refine congrArg List.head? (List.filter_congr fun item hitem => ?_)
    rw [decide_eq_decide, countsUnder_iff (h item hitem)]
  unfold firstScore scoreUnder
  rw [hfind]
  cases hitem : items.find? (BelongsUnder header ·) with
  | none => rfl
  | some item => simp [h item (List.mem_of_find?_eq_some hitem)]

/-- A search that comes to its end has met no name that cannot be written. -/
theorem scoreUnder_of_firstScore {header text : String} {items : List Value} (h : firstScore header items = .ok text) :
    scoreUnder header items = .ok text := by
  unfold firstScore at h
  unfold scoreUnder
  cases hitem : items.find? (CountsUnder header ·) with
  | none =>
    rw [hitem] at h
    have hnone : items.find? (BelongsUnder header ·) = none := find?_eq_none_of_imp (fun _ => Or.inr) hitem
    rw [hnone]
    exact h
  | some item =>
    simp only [hitem] at h
    split at h
    · cases h
    · rename_i hname
      have hcounts := List.find?_some (p := fun item => decide (CountsUnder header item)) hitem
      have hbelongs := (countsUnder_iff hname).1 (of_decide_eq_true hcounts)
      have hfirst : items.find? (BelongsUnder header ·) = some item :=
        find?_eq_some_of_imp (fun _ => Or.inr) hitem hbelongs
      rw [hfirst]
      exact h

/-- Under a header a list shows the score of its first item that belongs there, and an empty cell if there is none or
the first one has no score; a name that cannot be written stops the search.  Lists with the same items that count there,
in the same order, show the same, whatever else stands between them; and so do lists that agree up to the first item
that counts there, whatever follows.  Where all names can be written, just the items that belong there count. -/
theorem componentScore_shows_first (header : String) {scores : Value} {items : List Value}
    (hitems : scores.items? = some items) :
    componentScore (.text header) scores = firstScore header items ∧
      (∀ others : List Value, others.filter (CountsUnder header ·) = items.filter (CountsUnder header ·) →
        componentScore (.text header) (.list others) = componentScore (.text header) scores) ∧
      (∀ (before after others : List Value) (item : Value), items = before ++ item :: after →
        CountsUnder header item →
          componentScore (.text header) (.list (before ++ item :: others)) = componentScore (.text header) scores) ∧
      (∀ item, ¬HasLongName item → (CountsUnder header item ↔ BelongsUnder header item)) ∧
      ((∀ item ∈ items, ¬HasLongName item) → componentScore (.text header) scores = scoreUnder header items) := by
  have hscore := componentScore_of_items? header hitems
  -- what is shown depends on the first item that counts alone
  have hfirst : ∀ others : List Value, others.find? (CountsUnder header ·) = items.find? (CountsUnder header ·) →
      componentScore (.text header) (.list others) = componentScore (.text header) scores := by
    intro others hothers
    have hlist : (Value.list others).items? = some others := rfl
    rw [hscore, componentScore_of_items? header hlist, firstScore, hothers, firstScore]
  refine ⟨hscore, fun others hfilter => hfirst others ?_, fun before after others item hsplit hitem => hfirst _ ?_,
    fun item hname => countsUnder_iff hname, fun hnames => hscore.trans (firstScore_of_names header hnames)⟩
  · rw [← List.head?_filter, hfilter, List.head?_filter]
  · have hdecide : decide (CountsUnder header item) = true := decide_eq_true hitem
    rw [hsplit]
    simp only [List.find?_append, List.find?_cons, hdecide]

/-- Component scores of which the first match has no score. -/
def unmarkedScores : List Value :=
  [.null, .text "CA1", .mapping [("score", .int 5)],
    .mapping [("component", .mapping [("name", .text "  ")]), ("score", .int 7)],
    .mapping [("component", .mapping [("name", .text "Exam")]), ("score", .int 55)],
    .mapping [("component", .mapping [("name", .text " 1st ca ")]), ("score", .null)],
    .mapping [("component", .mapping [("name", .text "CA")]), ("score", .float 20.0)]]

theorem componentScore_shows_first_unmarked :
    componentScore (.text "CA") (.tuple unmarkedScores) = firstScore "CA" unmarkedScores ∧
      firstScore "CA" unmarkedScores = .ok "-" ∧ firstScore "EXAMINATION" unmarkedScores = .ok "55" ∧
      componentScore (.text "CA") (.list (unmarkedScores.drop 5)) =
        componentScore (.text "CA") (.tuple unmarkedScores) ∧
      componentScore (.text "CA") (.list (unmarkedScores.take 6)) =
        componentScore (.text "CA") (.tuple unmarkedScores) := by
  have htuple : (Value.tuple unmarkedScores).items? = some unmarkedScores := rfl
  obtain ⟨hscore, hinsert, hafter, -, -⟩ := componentScore_shows_first "CA" htuple
  have hothers : (unmarkedScores.take 5).filter (CountsUnder "CA" ·) = [] :=
    List.filter_eq_nil_iff.2 (by decide +kernel)
  have hfilter := List.filter_append (p := (CountsUnder "CA" ·)) (unmarkedScores.take 5) (unmarkedScores.drop 5)
  rw [List.take_append_drop, hothers, List.nil_append] at hfilter
  refine ⟨hscore, by decide +kernel, by decide +kernel, hinsert _ hfilter.symm, ?_⟩
  exact hafter (unmarkedScores.take 5) (unmarkedScores.drop 6) [] _ rfl (by decide +kernel)

end ReportCard.Table
