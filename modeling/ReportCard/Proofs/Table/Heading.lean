import ReportCard.Proofs.Table.Failure

/-!
# Blanks in the headers of subjects

In a table of subjects a header is taken as it stands, in capitals but with its blanks.  A header of blanks asks for a
component score like any other word, and finds the first component that has the blanks in its name; an empty one is part
of every name (`Table.paint_unlabelled_iff`).  With blanks around it no header asks for a total, a grade or a remark,
and a component with the header in its name counts only if it has the blanks, too (`Table.subjectCell_padded_eq_iff`).
-/

namespace ReportCard.Table

/-! ### Padded headers -/

section Padding

variable {u v header : String}

theorem upper_padded (hu : Text.allBlank u = true) (hv : Text.allBlank v = true) :
    Text.upper (u ++ header ++ v) = u ++ Text.upper header ++ v := by
  rw [Text.upper_append, Text.upper_append, Text.upper_of_allBlank hu, Text.upper_of_allBlank hv]

/-- What is trimmed is found in a header whatever blanks stand around it. -/
private theorem infix_padded {word : List Char} (hword : Text.IsTrimmed word) (hu : Text.allBlank u = true)
    (hv : Text.allBlank v = true) : word <:+: (u ++ header ++ v).toList ↔ word <:+: header.toList := by
  rw [String.toList_append, String.toList_append]
  exact hword.infix_padded (List.all_eq_true.1 hu) (List.all_eq_true.1 hv)

/-- A header is about subjects whatever blanks stand around it. -/
theorem contains_subject_padded (hu : Text.allBlank u = true) (hv : Text.allBlank v = true) :
    Text.contains (Text.upper (u ++ header ++ v)) "SUBJECT" = Text.contains (Text.upper header) "SUBJECT" := by
  have hword : Text.IsTrimmed "SUBJECT".toList := Text.isTrimmed_of_any_eq_false (by decide)
  rw [upper_padded hu hv, Bool.eq_iff_iff, Text.contains_iff, Text.contains_iff, infix_padded hword hu hv]

/-- With blanks around it a header that is not about subjects asks for a component score. -/
theorem isScoreHeader_padded (hu : Text.allBlank u = true) (hv : Text.allBlank v = true) (hpadding : u ++ v ≠ "")
    (hsubject : Text.contains (Text.upper header) "SUBJECT" = false) : IsScoreHeader (u ++ header ++ v) := by
  have hwords : ∀ word ∈ ["TOTAL", "GRADE", "REMARK", "REMARKS"], word.toList.any Text.isBlank = false := by decide
  refine ⟨by rwa [contains_subject_padded hu hv], fun hmem => hpadding ?_⟩
  rw [upper_padded hu hv] at hmem
  have hword : u.toList ++ (Text.upper header).toList ++ v.toList = (u ++ Text.upper header ++ v).toList := by
    rw [String.toList_append, String.toList_append]
  obtain ⟨hu', hv'⟩ := Text.nil_of_padded_eq (List.all_eq_true.1 hu) (List.all_eq_true.1 hv) hword (hwords _ hmem)
  rw [String.toList_eq_nil_iff] at hu' hv'
  rw [hu', hv']
  rfl

/-- Under a padded header an item belongs if its name is part of the header, or has the header as a part together with
its blanks. -/
theorem belongsUnder_padded_iff (hu : Text.allBlank u = true) (hv : Text.allBlank v = true) {item : Value} :
    BelongsUnder (u ++ header ++ v) item ↔ ∃ score ∈ item.entries?, componentName score ≠ "" ∧
      ((componentName score).toList <:+: header.toList ∨
        (u ++ header ++ v).toList <:+: (componentName score).toList) := by
  refine exists_congr fun score => and_congr_right fun _ => and_congr_right fun _ => ?_
  rw [Matches, infix_padded (isTrimmed_componentName score) hu hv]
  refine ⟨?_, Or.inr⟩
  rintro (hname | hpart)
  · rw [hname]
    exact .inr List.infix_rfl
  · exact hpart

/-- What belongs under a padded header also belongs under the header. -/
theorem belongsUnder_of_padded (hu : Text.allBlank u = true) (hv : Text.allBlank v = true) {item : Value}
    (h : BelongsUnder (u ++ header ++ v) item) : BelongsUnder header item := by
  obtain ⟨score, hscore, hname, hpart⟩ := (belongsUnder_padded_iff hu hv).1 h
  have hheader : header.toList <:+: (u ++ header ++ v).toList := by
    rw [String.toList_append, String.toList_append]
    exact ⟨u.toList, v.toList, rfl⟩
  exact ⟨score, hscore, hname, .inr (hpart.imp_right hheader.trans)⟩

theorem countsUnder_of_padded (hu : Text.allBlank u = true) (hv : Text.allBlank v = true) {item : Value}
    (h : CountsUnder (u ++ header ++ v) item) : CountsUnder header item :=
  h.imp_right (belongsUnder_of_padded hu hv)

/-- A header shows the same score as the padded one if its first match also belongs under that. -/
theorem firstScore_padded (hu : Text.allBlank u = true) (hv : Text.allBlank v = true) {items : List Value}
    (h : ∀ item, items.find? (BelongsUnder header ·) = some item → BelongsUnder (u ++ header ++ v) item) :
    firstScore (u ++ header ++ v) items = firstScore header items := by
  have hfind : items.find? (CountsUnder (u ++ header ++ v) ·) = items.find? (CountsUnder header ·) := by
    have hstricter (item : Value) (h : CountsUnder (u ++ header ++ v) item) : CountsUnder header item :=
      countsUnder_of_padded hu hv h
    cases hitem : items.find? (CountsUnder header ·) with
    | none => exact find?_eq_none_of_imp hstricter hitem
    | some item =>
      refine find?_eq_some_of_imp hstricter hitem ?_
      have hcounts := List.find?_some (p := fun item => decide (CountsUnder header item)) hitem
      -- what counts first is the first match, or has a name that cannot be written under either header
      rcases of_decide_eq_true hcounts with hlong | hbelongs
      · exact .inl hlong
      · exact .inr (h item (find?_eq_some_of_imp (fun _ => Or.inr) hitem hbelongs))
  rw [firstScore, hfind, firstScore]

end Padding

/-! ### Cells below headers -/

/-- The component scores of a result, none if they are not listed. -/
def scoreItems (result : Value) : List Value := (result.member "componentScores").items?.getD []

section Cells

variable {header : String} {column : Nat} {result : Value} {cell : Cell}

/-- A cell that is not about subjects shows something of a mapping, and is bold only if that is a total. -/
theorem mapping_and_bold_of_subjectCell (hcolumn : 1 ≤ column)
    (hsubject : Text.contains (Text.upper header) "SUBJECT" = false)
    (h : subjectCell header column result = .ok cell) :
    (∃ es, result = .mapping es) ∧ (cell.bold = true ↔ Text.upper header = "TOTAL") := by
  have hfirst := Nat.ne_of_gt hcolumn
  obtain ⟨es, rfl⟩ : ∃ es, result = .mapping es := by
    simp only [subjectCell, hsubject, hfirst, decide_false, Bool.or_false, Bool.false_eq_true, if_false] at h
    obtain ⟨es, hes, -⟩ := bind_eq_ok_iff.1 h
    cases result with
    | mapping es => exact ⟨es, rfl⟩
    | _ => cases hes
  refine ⟨⟨es, rfl⟩, ?_⟩
  rw [subjectCell_of_other hfirst hsubject] at h
  by_cases htotal : Text.upper header = "TOTAL"
  · rw [if_pos htotal] at h
    obtain ⟨text, -, rfl⟩ := map_eq_ok_iff.1 h
    exact iff_of_true rfl htotal
  · -- grades, remarks and scores are plain
    have hplain : cell.bold = false := by
      rw [if_neg htotal] at h
      split_ifs at h
      all_goals
        obtain ⟨text, -, rfl⟩ := map_eq_ok_iff.1 h
        rfl
    rw [hplain]
    exact iff_of_false Bool.false_ne_true htotal

/-- Under a header that asks for a component score a cell shows the first one that belongs there, unless the scores
count as given and list nothing. -/
theorem subjectCell_eq_ok_iff (hcolumn : 1 ≤ column) (hheader : IsScoreHeader header) {es : Entries} :
    subjectCell header column (.mapping es) = .ok cell ↔ ¬(es.get "componentScores").IsUnlisted ∧
      firstScore (Text.upper header) (scoreItems (.mapping es)) = .ok cell.text ∧ cell.bold = false := by
  rw [subjectCell_of_score (Nat.ne_of_gt hcolumn) hheader]
  have hitems : scoreItems (.mapping es) = (es.get "componentScores").items?.getD [] := rfl
  cases hlisted : listedScores (es.get "componentScores") with
  | error fault =>
    have hunlisted := (listedScores_eq_error_iff.1 hlisted).2
    rw [componentScore_eq_error_iff.2 (.inl ⟨rfl, hunlisted⟩)]
    exact iff_of_false nofun fun h => h.1 hunlisted
  | ok listed =>
    have hlists : ¬(es.get "componentScores").IsUnlisted := fun hunlisted => by
      rw [listedScores_eq_error_iff.2 ⟨rfl, hunlisted⟩] at hlisted
      cases hlisted
    rw [and_iff_right hlists, componentScore_of_listed hlisted, hitems, map_eq_ok_iff]
    constructor
    · rintro ⟨text, htext, rfl⟩
      exact ⟨htext, rfl⟩
    · rintro ⟨htext, hbold⟩
      exact ⟨cell.text, htext, by rw [← hbold]⟩

end Cells

/-! ### Blank headers -/

/-- An item of a list of component scores has some text in the name of its component. -/
def NameHolds (part : String) (item : Value) : Prop :=
  ∃ score ∈ item.entries?, componentName score ≠ "" ∧ part.toList <:+: (componentName score).toList

/-- The first item that has a text in its name has a score, and that is not printed like a missing one. -/
def ShowsMark (part : String) (items : List Value) : Prop :=
  ∃ before item after mark, items = before ++ item :: after ∧ (∀ other ∈ before, ¬NameHolds part other) ∧
    NameHolds part item ∧ formatNumber (item.member "score") = .ok mark ∧ mark ∉ [emptyCell, ""]

section Blank

variable {header : String}

theorem isScoreHeader_of_allBlank (h : Text.allBlank header = true) : IsScoreHeader header := by
  by_cases hempty : header = ""
  · subst hempty
    exact ⟨by decide, by decide⟩
  · have hpadding : header ++ "" ≠ "" := by rwa [String.append_empty]
    have hscore : IsScoreHeader (header ++ "" ++ "") := isScoreHeader_padded h rfl hpadding (by decide)
    rwa [String.append_empty, String.append_empty] at hscore

/-- Under a blank header an item belongs if it has the header in its name, as it has if the header is empty. -/
theorem belongsUnder_blank_iff (h : Text.allBlank header = true) {item : Value} :
    BelongsUnder header item ↔ NameHolds header item := by
  have hpadded : header = header ++ "" ++ "" := by rw [String.append_empty, String.append_empty]
  rw [hpadded, belongsUnder_padded_iff h rfl, ← hpadded]
  refine exists_congr fun score => and_congr_right fun _ => and_congr_right fun hname => or_iff_right fun hnil => ?_
  exact hname (String.toList_eq_nil_iff.1 (List.infix_nil.1 hnil))

private theorem find?_blank_iff (h : Text.allBlank header = true) {items : List Value} {item : Value} :
    items.find? (BelongsUnder header ·) = some item ↔ NameHolds header item ∧
      ∃ before after, items = before ++ item :: after ∧ ∀ other ∈ before, ¬NameHolds header other := by
  rw [List.find?_eq_some_iff_append, decide_eq_true_eq, belongsUnder_blank_iff h]
  simp [belongsUnder_blank_iff h]

/-- The text under a blank header is that of a mark, or that of an empty cell. -/
theorem firstScore_blank_iff (h : Text.allBlank header = true) {items : List Value} {text : String}
    (htext : firstScore header items = .ok text) : text ∈ [emptyCell, ""] ↔ ¬ShowsMark header items := by
  have hscore := scoreUnder_of_firstScore htext
  unfold scoreUnder at hscore
  cases hfind : items.find? (BelongsUnder header ·) with
  | none =>
    rw [hfind] at hscore
    obtain rfl : emptyCell = text := Except.ok.inj hscore
    refine iff_of_true List.mem_cons_self ?_
    rintro ⟨before, item, after, -, hsplit, hbefore, hholds, -⟩
    rw [(find?_blank_iff h).2 ⟨hholds, before, after, hsplit, hbefore⟩] at hfind
    cases hfind
  | some item =>
    simp only [hfind] at hscore
    obtain ⟨hholds, before, after, hsplit, hbefore⟩ := (find?_blank_iff h).1 hfind
    constructor
    · rintro hmem ⟨before', item', after', mark, hsplit', hbefore', hholds', hmark, hshown⟩
      -- both items are the first one
      have hfirst := (find?_blank_iff h).2 ⟨hholds', before', after', hsplit', hbefore'⟩
      obtain rfl : item = item' := Option.some.inj (hfind.symm.trans hfirst)
      split at hscore
      · rename_i hnull
        cases hvalue : item.member "score" with
        | null =>
          rw [hvalue] at hmark
          obtain rfl : "" = mark := Except.ok.inj hmark
          exact hshown (by simp)
        | _ => simp [hvalue, Value.isNull] at hnull
      · obtain rfl : mark = text := Except.ok.inj (hmark.symm.trans hscore)
        exact hshown hmem
    · intro hnone
      by_contra hmark
      split at hscore
      · obtain rfl : emptyCell = text := Except.ok.inj hscore
        exact hmark List.mem_cons_self
      · exact hnone ⟨before, item, after, text, hsplit, hbefore, hholds, hscore, hmark⟩

/-- A cell below a blank header that can be read shows the first score that belongs there. -/
theorem text_of_subjectCell_blank (h : Text.allBlank header = true) {column : Nat} (hcolumn : 1 ≤ column) {es : Entries}
    {cell : Cell} (hcell : subjectCell header column (.mapping es) = .ok cell) :
    firstScore header (scoreItems (.mapping es)) = .ok cell.text := by
  obtain ⟨-, htext, -⟩ := (subjectCell_eq_ok_iff hcolumn (isScoreHeader_of_allBlank h)).1 hcell
  rwa [Text.upper_of_allBlank h] at htext

variable {α : Type}

theorem cell_of_subjects {m : Metadata α} (hkind : m.tableKind = some .subjects) {r : Record} {row : Nat}
    (hrow : row < r.results.length) (column : Nat) (header : String) :
    (sourceOf m r).cell (colCount m) row column header =
      subjectCell header column (.mapping (r.results.getD row [])) := by
  rw [sourceOf, hkind, Source.cell, getElem?_results hrow]
  rfl

variable [Scalar α]

/-- A table of subjects that comes to its end shows a mark in a column after the first that has a blank header, or none,
exactly if among the component scores of the result the first one with the header in its name has a score that is
printed. -/
theorem paint_unlabelled_iff {size : Size α} {e : Element α} {r : Record} {scale : α} {start : Recording α}
    (hkind : e.metadata.tableKind = some .subjects)
    (hreturns : ((Recording.accepting size).paint (paint e r scale) start).fault = none) :
    let m := e.metadata
    ∃ grid : Nat → Nat → Cell, HasCells m r grid ∧
      ((Recording.accepting size).paint (paint e r scale) start).state = start ++ (drawings e scale grid).toArray ∧
      ∀ row < min (rowCount m) r.results.length, ∀ column, 1 ≤ column → column < colCount m →
        Text.allBlank (m.headers.getD column "") = true →
          ((grid row column).text ∈ [emptyCell, ""] ↔
            ¬ShowsMark (m.headers.getD column "") (scoreItems (.mapping (r.results.getD row [])))) := by
  intro m
  rw [Recording.paint_accepting] at hreturns ⊢
  obtain ⟨grid, hgrid⟩ := (fault?_paint_eq_none scale).1 hreturns
  refine ⟨grid, hgrid, by rw [(comesTo_paint scale hgrid).actions], fun row hrow column hfirst hcolumn hblank => ?_⟩
  obtain ⟨hrow, hresult⟩ := Nat.lt_min.1 hrow
  have hcell := hgrid row hrow column hcolumn
  rw [cell_of_subjects hkind hresult] at hcell
  exact firstScore_blank_iff hblank (text_of_subjectCell_blank hblank hfirst hcell)

/-- A table of one row and three columns, of which the second has a blank header and the third none. -/
def spareTable : Element Rat :=
  ⟨some .table, "table", ⟨0, 0, 90, 62⟩, {},
    { rows := some 1, cols := some 3, headers := ["Subject", " "], tableKind := some .subjects }, none, none⟩

/-- A record with two component scores, the second of them not yet given. -/
def spareRecord : Record where
  results := [[("subject", .mapping [("name", .text "Art")]), ("componentScores", .list [
    .mapping [("component", .mapping [("name", .text "Exam")]), ("score", .int 55)],
    .mapping [("component", .mapping [("name", .text "1st CA")]), ("score", .null)]])]]

/-- The blank is in the name of the second component only, and the empty text in that of the first. -/
theorem paint_unlabelled_iff_spare :
    let o := (Recording.accepting (⟨600, 800⟩ : Size Rat)).paint (paint spareTable spareRecord 1) #[]
    let items := scoreItems (.mapping (spareRecord.results.getD 0 []))
    spareTable.metadata.tableKind = some .subjects ∧ o.fault = none ∧ ¬ShowsMark " " items ∧ ShowsMark "" items ∧
      ∃ grid : Nat → Nat → Cell, HasCells spareTable.metadata spareRecord grid ∧
        o.state = #[] ++ (drawings spareTable 1 grid).toArray ∧
        (grid 0 1).text ∈ [emptyCell, ""] ∧ (grid 0 2).text ∉ [emptyCell, ""] := by
  intro o items
  have hreturns : o.fault = none := by decide +kernel
  have hempty : firstScore " " items = .ok "-" := by decide +kernel
  have hmark : firstScore "" items = .ok "55" := by decide +kernel
  have hblank : ¬ShowsMark " " items := (firstScore_blank_iff (by decide) hempty).1 (by decide)
  have hnone : ShowsMark "" items := by
    by_contra h
    exact absurd ((firstScore_blank_iff (by decide) hmark).2 h) (by decide)
  obtain ⟨grid, hgrid, hstate, hcells⟩ := paint_unlabelled_iff (e := spareTable) rfl hreturns
  have hsecond := hcells 0 (by decide +kernel) 1 (by decide) (by decide +kernel) (by decide +kernel)
  have hthird := hcells 0 (by decide +kernel) 2 (by decide) (by decide +kernel) (by decide +kernel)
  exact ⟨rfl, hreturns, hblank, hnone, grid, hgrid, hstate, hsecond.2 hblank, fun h => hthird.1 h hnone⟩

/-- A column without a header shows the mark of the first component. -/
theorem paint_unlabelled_shows_mark :
    let o := (Recording.accepting (⟨600, 800⟩ : Size Rat)).paint (paint spareTable spareRecord 1) #[]
    o.fault = none ∧ Text.allBlank (spareTable.metadata.headers.getD 2 "") = true ∧
      subjectCell (spareTable.metadata.headers.getD 2 "") 2 (.mapping (spareRecord.results.getD 0 [])) =
        .ok ⟨"55", false⟩ ∧
      o.state.toList.filterMap (fun d => d.text?.bind Value.text?) = ["SUBJECT", " ", "Art", "-", "55"] := by
  decide +kernel

end Blank

/-! ### Blanks around headers -/

section Padding

variable {u v header : String} {column : Nat} {result : Value} {cell : Cell}

/-- A cell is the same below a header about subjects and below the padded one. -/
theorem subjectCell_padded_of_subject (hu : Text.allBlank u = true) (hv : Text.allBlank v = true)
    (hsubject : Text.contains (Text.upper header) "SUBJECT" = true) (column : Nat) (result : Value) :
    subjectCell (u ++ header ++ v) column result = subjectCell header column result := by
  have hpadded := (contains_subject_padded hu hv).trans hsubject
  rw [subjectCell_of_subject (.inr hsubject), subjectCell_of_subject (.inr hpadded)]

/-- With some blanks around a header that is not about subjects a cell is the same exactly if it is that of a score. -/
theorem subjectCell_padded_iff_score (hu : Text.allBlank u = true) (hv : Text.allBlank v = true)
    (hpadding : u ++ v ≠ "") (hsubject : Text.contains (Text.upper header) "SUBJECT" = false) (hcolumn : 1 ≤ column)
    (hcell : subjectCell header column result = .ok cell) :
    subjectCell (u ++ header ++ v) column result = .ok cell ↔
      Text.upper header ≠ "TOTAL" ∧ ¬(result.member "componentScores").IsUnlisted ∧
        firstScore (u ++ Text.upper header ++ v) (scoreItems result) = .ok cell.text := by
  obtain ⟨⟨es, rfl⟩, hbold⟩ := mapping_and_bold_of_subjectCell hcolumn hsubject hcell
  refine (subjectCell_eq_ok_iff hcolumn (isScoreHeader_padded hu hv hpadding hsubject)).trans ?_
  rw [upper_padded hu hv]
  constructor
  · rintro ⟨hlisted, htext, hplain⟩
    exact ⟨fun htotal => Bool.false_ne_true (hplain.symm.trans (hbold.2 htotal)), hlisted, htext⟩
  · rintro ⟨htotal, hlisted, htext⟩
    exact ⟨hlisted, htext, Bool.eq_false_iff.2 fun hbold' => htotal (hbold.1 hbold')⟩

/-- With blanks around its header a cell is the same exactly if the header is about subjects, or if it is not about
totals, the component scores can be gone through, and the first one that belongs under the padded header is what the
cell shows already.  Under a header that asks for a component score this is so if the first component that belongs there
also belongs under the padded header, being part of the header or having it as a part together with its blanks. -/
theorem subjectCell_padded_eq_iff (hu : Text.allBlank u = true) (hv : Text.allBlank v = true) (hcolumn : 1 ≤ column)
    (hcell : subjectCell header column result = .ok cell) :
    let padding := u ++ Text.upper header ++ v
    let same := subjectCell (u ++ header ++ v) column result = .ok cell
    (same ↔ u ++ v = "" ∨ Text.contains (Text.upper header) "SUBJECT" = true ∨
        Text.upper header ≠ "TOTAL" ∧ ¬(result.member "componentScores").IsUnlisted ∧
          firstScore padding (scoreItems result) = .ok cell.text) ∧
      (∀ item, BelongsUnder padding item ↔ ∃ score ∈ item.entries?, componentName score ≠ "" ∧
        ((componentName score).toList <:+: (Text.upper header).toList ∨
          padding.toList <:+: (componentName score).toList)) ∧
      (IsScoreHeader header → (∀ item, (scoreItems result).find? (BelongsUnder (Text.upper header) ·) = some item →
        BelongsUnder padding item) → same) := by
  intro padding same
  have hbare (hpadding : u ++ v = "") : same := by
    obtain ⟨rfl, rfl⟩ := String.append_eq_empty_iff.1 hpadding
    show subjectCell ("" ++ header ++ "") column result = .ok cell
    rwa [String.empty_append, String.append_empty]
  refine ⟨?_, fun item => belongsUnder_padded_iff hu hv, fun hheader hfirst => ?_⟩
  · by_cases hpadding : u ++ v = ""
    · exact iff_of_true (hbare hpadding) (.inl hpadding)
    rw [or_iff_right hpadding]
    cases hsubject : Text.contains (Text.upper header) "SUBJECT" with
    | true => exact iff_of_true ((subjectCell_padded_of_subject hu hv hsubject column result).trans hcell) (.inl rfl)
    | false =>
      rw [or_iff_right Bool.false_ne_true]
      exact subjectCell_padded_iff_score hu hv hpadding hsubject hcolumn hcell
  · by_cases hpadding : u ++ v = ""
    · exact hbare hpadding
    have htotal : Text.upper header ≠ "TOTAL" := fun htotal => hheader.2 (htotal ▸ List.mem_cons_self)
    refine (subjectCell_padded_iff_score hu hv hpadding hheader.1 hcolumn hcell).2 ⟨htotal, ?_⟩
    obtain ⟨⟨es, rfl⟩, -⟩ := mapping_and_bold_of_subjectCell hcolumn hheader.1 hcell
    obtain ⟨hlisted, htext, -⟩ := (subjectCell_eq_ok_iff hcolumn hheader).1 hcell
    exact ⟨hlisted, (firstScore_padded hu hv hfirst).trans htext⟩

end Padding

/-- A result with one component score. -/
def scoredResult : Value :=
  .mapping [("total", .int 14), ("componentScores", .list [
    .mapping [("component", .mapping [("name", .text "1st CA")]), ("score", .int 12)]])]

/-- The component has a blank before the header in its name, but none after it. -/
theorem subjectCell_padded_eq_iff_component :
    Text.allBlank " " = true ∧ subjectCell "CA" 1 scoredResult = .ok ⟨"12", false⟩ ∧
      subjectCell (" " ++ "CA" ++ "") 1 scoredResult = .ok ⟨"12", false⟩ ∧
      firstScore " CA" (scoreItems scoredResult) = .ok "12" ∧
      subjectCell ("" ++ "CA" ++ " ") 1 scoredResult ≠ .ok ⟨"12", false⟩ ∧
      firstScore "CA " (scoreItems scoredResult) ≠ .ok "12" := by
  have hcell : subjectCell "CA" 1 scoredResult = .ok ⟨"12", false⟩ := by decide +kernel
  have hfirst : firstScore " CA" (scoreItems scoredResult) = .ok "12" := by decide +kernel
  have hother : firstScore "CA " (scoreItems scoredResult) ≠ .ok "12" := by decide +kernel
  have hlisted : ¬(scoredResult.member "componentScores").IsUnlisted := fun h => h.2 _ rfl
  have hbefore := (subjectCell_padded_eq_iff (u := " ") (v := "") (by decide) (by decide) (Nat.le_refl 1) hcell).1
  have hafter := (subjectCell_padded_eq_iff (u := "") (v := " ") (by decide) (by decide) (Nat.le_refl 1) hcell).1
  refine ⟨by decide, hcell, hbefore.2 (.inr (.inr ⟨by decide, hlisted, hfirst⟩)), hfirst, fun hsame => ?_, hother⟩
  rcases hafter.1 hsame with hpadding | hsubject | ⟨-, -, htext⟩
  · exact absurd hpadding (by decide)
  · exact absurd hsubject (by decide)
  · exact hother htext

/-- With a blank behind it a header of totals finds none. -/
theorem subjectCell_padded_misses_total :
    let result : Value := .mapping [("total", .int 14)]
    Text.allBlank "" = true ∧ Text.allBlank " " = true ∧ Text.allBlank "Total" = false ∧
      subjectCell "Total" 1 result = .ok ⟨"14", true⟩ ∧
      subjectCell ("" ++ "Total" ++ " ") 1 result = .ok ⟨"-", false⟩ ∧
      subjectCell ("" ++ "Total" ++ " ") 1 result ≠ subjectCell "Total" 1 result := by
  decide +kernel

end ReportCard.Table
