import Mathlib.Data.List.Basic
import ReportCard.Painting.Table.Basic
import ReportCard.Proofs.Drawing.Tally
import ReportCard.Proofs.Table.Drawings
import ReportCard.Proofs.Text.Case

/-!
# What a table shows

A table that can be painted shows its headers in capitals and then, row after row, the cells of the records it has rows
for; cells without a text are left out, and nothing else is shown.
-/

namespace ReportCard.Table

open Script (Shows)

variable {α : Type}

/-- The texts that show at all. -/
def visible (texts : List String) : List String := texts.filter (!·.isEmpty)

/-! ### What there is to show -/

/-- The number of rows or columns that stands for a given count: three without one, and none for one below zero. -/
def clamp : Option Int → Nat
  | none => 3
  | some (.ofNat n) => n
  | some (.negSucc _) => 0

/-- The first of two lists of names if it is given, or else the second. -/
def preferred : Option (List String) → Option (List String) → List String
  | some names, _ => names
  | none, some names => names
  | none, none => []

/-- The ratings that the first of several results has at a key, none if there is nothing or null. -/
def ratingsAt (key : String) : List Entries → Value
  | [] => .mapping []
  | result :: _ =>
    match result.lookup key with
    | none | some .null => .mapping []
    | some ratings => ratings

/-- Records to show in rows: how many there are, and the text of each in a column, if it can be read. -/
structure Records where
  count : Nat
  text : Nat → Nat → Except Fault String

/-- The records that a table with some columns is about: results, or traits or skills with their ratings.  A table of
skills that lists none takes the traits in their place, and a table of traits the skills. -/
def recordsOf (m : Metadata α) (r : Record) (cols : Nat) : Records :=
  match m.tableKind with
  | none => ⟨0, fun _ _ => .ok ""⟩
  | some .subjects => ⟨r.results.length, fun row column =>
      (subjectCell (header column) column (.mapping (r.results.getD row []))).map (·.text)⟩
  | some .affective => rated (preferred m.traits m.skills) (ratingsAt "affectiveTraits" r.results)
  | some .psychomotor => rated (preferred m.skills m.traits) (ratingsAt "psychomotorSkills" r.results)
where
  header (column : Nat) : String := m.headers.getD column ""
  rated (names : List String) (ratings : Value) : Records :=
    ⟨names.length, fun row column => traitCell (names.getD row "") (header column) column ratings cols⟩

/-- The headers as they are shown above some columns. -/
def headerTexts (headers : List String) (cols : Nat) : List String :=
  if IsHeaded headers then (visible (headers.take cols)).map Text.upper else []

/-- Drawings show the headers of a table with some rows and columns and, row after row, what the records have in its
columns, as far as there are rows for them; what is empty is left out.  Their lines are the dividers of the header band,
a rule and the dividers of each row, and the rule below the last row if the table has any height. -/
structure ShowsRecords (e : Element α) (r : Record) (rows cols : Nat) (isHigh : Bool) (ds : List (Drawing α)) :
    Prop where
  texts : let records := recordsOf e.metadata r cols
    ∃ grid : Nat → Nat → String,
      (∀ row < min rows records.count, ∀ column < cols, records.text row column = .ok (grid row column)) ∧
      Drawing.cellTexts ds = (headerTexts e.metadata.headers cols ++
        (List.range (min rows records.count)).flatMap fun row =>
          visible ((List.range cols).map (grid row))).map .text
  lines : Drawing.lineCount ds =
    (if IsHeaded e.metadata.headers then cols - 1 else 0) + rows * cols + if isHigh then 1 else 0

/-! ### Counts, names and ratings -/

theorem clamp_eq (count : Option Int) : clamp count = (count.getD 3).toNat := by
  rcases count with _ | n | n <;> rfl

theorem clamp_cols (m : Metadata α) : clamp m.cols = colCount m := clamp_eq m.cols

theorem clamp_rows (m : Metadata α) : (if clamp m.cols = 0 then 0 else clamp m.rows) = rowCount m := by
  rw [clamp_cols, clamp_eq, rowCount]

private theorem preferred_eq (first second : Option (List String)) :
    preferred first second = (first.or second).getD [] := by
  cases first <;> cases second <;> rfl

private theorem ratingsAt_eq (key : String) (r : Record) :
    ratingsAt key r.results = (r.firstResult.get key).orDefault (.mapping []) := by
  unfold Record.firstResult
  cases r.results with
  | nil => rfl
  | cons result results =>
    show ratingsAt key (result :: results) = (Entries.get result key).orDefault (.mapping [])
    cases hlookup : result.lookup key with
    | none => simp [ratingsAt, Entries.get, hlookup, Value.orDefault, Value.isNull]
    | some v => cases v <;> simp [ratingsAt, Entries.get, hlookup, Value.orDefault, Value.isNull]

/-- The number of records that a table could show. -/
def recordCount (m : Metadata α) (r : Record) : Nat :=
  match m.tableKind with
  | some .subjects => r.results.length
  | some kind => (traitNames m kind).length
  | none => 0

/-- The text that the record of a row has in a column. -/
def cellAt (m : Metadata α) (r : Record) (row column : Nat) : Except Fault String :=
  let header := m.headers.getD column ""
  match m.tableKind with
  | some .subjects => (subjectCell header column (.mapping (r.results.getD row []))).map (·.text)
  | some kind => traitCell ((traitNames m kind).getD row "") header column (traitRatings r kind) (colCount m)
  | none => .ok ""

/-- The records of a table are those that its rows are painted for. -/
theorem recordsOf_count (m : Metadata α) (r : Record) : (recordsOf m r (colCount m)).count = recordCount m r := by
  unfold recordsOf recordCount
  cases m.tableKind with
  | none => rfl
  | some kind => cases kind <;> simp [recordsOf.rated, preferred_eq, traitNames]

theorem recordsOf_text (m : Metadata α) (r : Record) (row column : Nat) :
    (recordsOf m r (colCount m)).text row column = cellAt m r row column := by
  unfold recordsOf cellAt
  cases m.tableKind with
  | none => rfl
  | some kind =>
    cases kind with
    | subjects => rfl
    | _ => simp [recordsOf.rated, recordsOf.header, preferred_eq, ratingsAt_eq, traitNames, traitRatings]

section Ratings

variable {m : Metadata α} {kind : TableKind}

theorem recordCount_of_ratings (hkind : m.tableKind = some kind) (hratings : kind ≠ .subjects) (r : Record) :
    recordCount m r = (traitNames m kind).length := by
  cases kind <;> simp_all [recordCount]

theorem cellAt_of_ratings (hkind : m.tableKind = some kind) (hratings : kind ≠ .subjects) (r : Record)
    (row column : Nat) : cellAt m r row column = traitCell ((traitNames m kind).getD row "")
      (m.headers.getD column "") column (traitRatings r kind) (colCount m) := by
  cases kind <;> simp_all [cellAt]

end Ratings

/-! ### Texts -/

private theorem flatMap_visible {B : Type} (f : B → String) (l : List B) :
    (l.flatMap fun b => visible [f b]) = visible (l.map f) := by
  induction l with
  | nil => rfl
  | cons b l ih =>
    rw [List.flatMap_cons, ih, List.map_cons, visible, visible, visible, ← List.filter_append, List.singleton_append]

private theorem visible_upper (l : List String) : visible (l.map Text.upper) = (visible l).map Text.upper := by
  rw [visible, List.filter_map, visible]
  refine congrArg (List.map Text.upper) (List.filter_congr fun s _ => ?_)
  have : (Text.upper s).isEmpty = s.isEmpty := by
    rw [Bool.eq_iff_iff, String.isEmpty_iff, String.isEmpty_iff, Text.upper_eq_empty]
  simp [this]

private theorem visible_padded (headers : List String) (cols : Nat) :
    visible ((paddedHeaders headers cols).map Text.upper) = (visible (headers.take cols)).map Text.upper := by
  have hblank : ∀ n, visible (List.replicate n "") = [] := by simp [visible]
  rw [visible_upper, paddedHeaders, padded, visible, List.filter_append]
  show List.map _ (visible _ ++ visible _) = _
  rw [hblank, List.append_nil]

/-! ### Cells -/

private theorem cell_of_lt {m : Metadata α} {r : Record} {row : Nat} (h : row < recordCount m r) (column : Nat) :
    ((sourceOf m r).cell (colCount m) row column (m.headers.getD column "")).map (·.text) = cellAt m r row column := by
  cases hkind : m.tableKind with
  | none => simp [recordCount, hkind] at h
  | some kind =>
    by_cases hratings : kind = .subjects
    · subst hratings
      simp_all [recordCount, sourceOf, cellAt, Source.cell]
    · rw [recordCount_of_ratings hkind hratings] at h
      have hname : (traitNames m kind).getD row "" = (traitNames m kind)[row] := by simp [h]
      rw [sourceOf_of_ratings hkind hratings, cellAt_of_ratings hkind hratings, Source.cell, hname,
        List.getElem?_eq_getElem h, Option.map_some, Option.getD_some]
      cases traitCell (traitNames m kind)[row] (m.headers.getD column "") column (traitRatings r kind)
        (colCount m) <;> rfl

private theorem cell_of_ge {m : Metadata α} {r : Record} {row : Nat} (h : recordCount m r ≤ row) (column : Nat) :
    (sourceOf m r).cell (colCount m) row column (m.headers.getD column "") = .ok ⟨"", false⟩ := by
  cases hkind : m.tableKind with
  | none => simp [sourceOf, hkind, Source.cell]
  | some kind => cases kind <;> simp_all [recordCount, sourceOf, Source.cell]

/-- The text of a cell that can be read. -/
private def textAt (m : Metadata α) (r : Record) (row column : Nat) : String :=
  ((sourceOf m r).cell (colCount m) row column (m.headers.getD column "")).toOption.elim "" (·.text)

/-- A cell can be read. -/
private def Readable (m : Metadata α) (r : Record) (row column : Nat) : Prop :=
  ((sourceOf m r).cell (colCount m) row column (m.headers.getD column "")).map (·.text) = .ok (textAt m r row column)

/-- The texts of a row, as they are shown. -/
private def rowTexts (m : Metadata α) (r : Record) (row : Nat) : List String :=
  visible ((List.range (colCount m)).map (textAt m r row))

private theorem rowTexts_of_ge {m : Metadata α} {r : Record} {row : Nat} (h : recordCount m r ≤ row) :
    rowTexts m r row = [] := by
  have hblank : textAt m r row = fun _ => "" := by
    funext column
    rw [textAt, cell_of_ge h]
    rfl
  simp [rowTexts, hblank, visible]

/-- The rows behind the last record show nothing. -/
private theorem flatMap_rowTexts (m : Metadata α) (r : Record) (n : Nat) :
    (List.range n).flatMap (rowTexts m r) = (List.range (min n (recordCount m r))).flatMap (rowTexts m r) := by
  induction n with
  | zero => simp
  | succ n ih =>
    by_cases h : n < recordCount m r
    · rw [Nat.min_eq_left h]
    · rw [List.range_succ, List.flatMap_append, ih, List.flatMap_singleton, rowTexts_of_ge (Nat.le_of_not_lt h),
        List.append_nil, Nat.min_eq_right (by omega), Nat.min_eq_right (by omega)]

/-! ### The parts of a table -/

variable [Scalar α]

private theorem shows_cellText (c : Column α) (top height : α) (text : String) (l : Lettering α) :
    Shows (cellText c top height text l) (visible [text]) 0 := by
  unfold cellText
  cases h : text.isEmpty with
  | true =>
    have : visible [text] = [] := by simp [visible, h]
    rw [this]
    exact .done
  | false =>
    have : visible [text] = [text] := by simp [visible, h]
    rw [this]
    exact ⟨rfl, rfl, rfl⟩

private theorem shows_divider (e : Element α) (c : Column α) (top height : α) :
    Shows (divider e c top height) [] (!c.isLast).toNat := by
  unfold divider
  cases c.isLast
  · exact .line rfl rfl
  · exact .done

/-- A header or a cell, with the divider after it. -/
private theorem shows_field (e : Element α) (c : Column α) (top height : α) (text : String) (l : Lettering α) :
    Shows (.seq (cellText c top height text l) (divider e c top height)) (visible [text]) (!c.isLast).toNat := by
  have h := (shows_cellText c top height text l).seq (shows_divider e c top height)
  rw [List.append_nil, Nat.zero_add] at h
  exact h

private theorem shows_paintHeaders (e : Element α) (scale : α) :
    Shows (paintHeaders e scale) (headerTexts e.metadata.headers (colCount e.metadata))
      (if IsHeaded e.metadata.headers then colCount e.metadata - 1 else 0) := by
  have htexts : (columns e).flatMap (fun c => visible [Text.upper c.header]) =
      (visible (e.metadata.headers.take (colCount e.metadata))).map Text.upper := by
    rw [flatMap_visible fun c : Column α => Text.upper c.header, ← visible_padded, ← columns_header, List.map_map]
    rfl
  have hshows : showsHeader e = true ↔ IsHeaded e.metadata.headers := hasHeaders_iff
  simp only [headerTexts, ← hshows]
  refine Shows.when fun _ => ?_
  have hheader : ∀ c ∈ columns e,
      Shows (paintHeader e scale c) (visible [Text.upper c.header]) (!c.isLast).toNat :=
    fun c _ => shows_field e c _ _ _ _
  have hband := Shows.all_map hheader
  rw [htexts, countP_columns] at hband
  simpa using (Shows.act rfl rfl).seq hband

private theorem shows_paintCell (e : Element α) (r : Record) (scale : α) (row : Nat) (top : α) {c : Column α}
    (hc : c ∈ columns e) (h : (paintCell e scale (sourceOf e.metadata r) row top c).fault? = none) :
    Shows (paintCell e scale (sourceOf e.metadata r) row top c) (visible [textAt e.metadata r row c.index])
        (!c.isLast).toNat ∧
      Readable e.metadata r row c.index := by
  obtain ⟨cell, hcell, -⟩ := Script.fault?_tryIt_eq_none.1 h
  rw [header_of_mem_columns hc] at hcell
  have htext : textAt e.metadata r row c.index = cell.text := by
    rw [textAt, hcell]
    rfl
  refine ⟨?_, by rw [Readable, hcell, htext]; rfl⟩
  rw [paintCell, header_of_mem_columns hc, hcell, htext]
  exact shows_field e c top (rowHeight e scale) cell.text (cellLettering e scale cell.bold)

/-- A row that can be painted shows the texts of its cells, with a rule above it and dividers between them. -/
private theorem shows_paintRow {e : Element α} {r : Record} {scale : α} {row : Nat} {top : α}
    (h : (paintRow e scale (sourceOf e.metadata r) row top).fault? = none) :
    Shows (paintRow e scale (sourceOf e.metadata r) row top) (rowTexts e.metadata r row)
        (1 + (colCount e.metadata - 1)) ∧
      ∀ column < colCount e.metadata, Readable e.metadata r row column := by
  have hcells : ∀ c ∈ columns e, (paintCell e scale (sourceOf e.metadata r) row top c).fault? = none := by
    simp only [paintRow, Script.fault?, Option.or_eq_none_iff] at h
    exact fun c hc => Script.fault?_all_eq_none.1 h.2.2 _ (List.mem_map_of_mem hc)
  refine ⟨?_, fun column hcolumn => ?_⟩
  · have hrule := Shows.line (d := rule e e.box.x top (e.box.x + e.box.width) top) rfl rfl
    have hall := Shows.all_map fun c (hc : c ∈ columns e) => (shows_paintCell e r scale row top hc (hcells c hc)).1
    have htexts : (columns e).flatMap (fun c => visible [textAt e.metadata r row c.index]) =
        rowTexts e.metadata r row := by
      rw [flatMap_visible fun c : Column α => textAt e.metadata r row c.index, rowTexts, ← columns_index, List.map_map]
      rfl
    rw [htexts, countP_columns] at hall
    rw [← List.nil_append (rowTexts e.metadata r row), ← Nat.zero_add (1 + _)]
    refine Shows.seq ?_ (hrule.seq hall)
    -- the ground of a row is neither text nor line
    split
    · simpa using Shows.when fun _ => Shows.act rfl rfl
    · exact .done
  · obtain ⟨c, hc, rfl⟩ := exists_mem_columns hcolumn
    exact (shows_paintCell e r scale row top hc (hcells c hc)).2

/-- Rows that can be painted show the texts of their cells, row after row. -/
private theorem shows_paintRows {e : Element α} {r : Record} {scale : α} (row : Nat) (top : α) (n : Nat)
    (h : (Script.all (paintRows e scale (sourceOf e.metadata r) row top n)).fault? = none) :
    Shows (.all (paintRows e scale (sourceOf e.metadata r) row top n))
        ((List.range' row n).flatMap (rowTexts e.metadata r)) (n * (1 + (colCount e.metadata - 1))) ∧
      ∀ i, row ≤ i → i < row + n → ∀ column < colCount e.metadata, Readable e.metadata r i column := by
  induction n generalizing row top with
  | zero => exact ⟨by simpa [paintRows, Script.all] using Shows.done, fun i h₁ h₂ => by omega⟩
  | succ n ih =>
    rw [paintRows, (Script.all_cons _ _).1, Option.or_eq_none_iff] at h
    obtain ⟨hrow, hcells⟩ := shows_paintRow h.1
    obtain ⟨hrows, hothers⟩ := ih (row + 1) (top + rowHeight e scale) h.2
    refine ⟨?_, fun i h₁ h₂ => ?_⟩
    · rw [List.range'_succ, List.flatMap_cons, Nat.succ_mul, Nat.add_comm (n * _)]
      exact hrow.all_cons hrows
    · rcases Nat.eq_or_lt_of_le h₁ with rfl | h₁
      · exact hcells
      · exact hothers i h₁ (by omega)

private theorem shows_paintFrame (e : Element α) (scale : α) :
    Shows (paintFrame e scale) [] (if Scalar.lt (layout e scale).top (layout e scale).bottom then 1 else 0) := by
  have h : Shows (.acts [rule e e.box.x (bottom e scale) (e.box.x + e.box.width) (bottom e scale),
      .strokeRect ⟨e.box.x, e.box.y, e.box.width, bottom e scale - e.box.y⟩ (.text (borderColor e)) (borderWidth e)
        none]) [] 1 :=
    ⟨rfl, rfl, rfl⟩
  have hframe := Shows.when fun (_ : Scalar.lt e.box.y (bottom e scale) = true) => h
  rw [ite_self] at hframe
  exact hframe

omit [Scalar α] in
private theorem shows_overflowNote (m : Metadata α) (source : Source) :
    Shows (overflowNote m source : Script (Drawing α)) [] 0 := by
  unfold overflowNote
  split
  · exact .done
  · simpa using Shows.when fun _ => Shows.note _

omit [Scalar α] in
private theorem rowCount_mul (m : Metadata α) : rowCount m * (1 + (colCount m - 1)) = rowCount m * colCount m := by
  unfold rowCount
  split
  · simp
  · rw [Nat.add_sub_cancel' (by omega)]

/-- A table whose cells can be read shows them, row after row, below its headers. -/
theorem showsRecords_actions {e : Element α} {r : Record} {scale : α} (hpaint : (paint e r scale).fault? = none) :
    ShowsRecords e r (rowCount e.metadata) (colCount e.metadata)
      (Scalar.lt (layout e scale).top (layout e scale).bottom) (paint e r scale).actions := by
  have hcount := recordsOf_count e.metadata r
  -- only the rows can stop a table
  rw [fault?_paint] at hpaint
  obtain ⟨hrows, hcells⟩ := shows_paintRows 0 (bodyTop e scale) (rowCount e.metadata) hpaint
  have hshows := ((shows_paintHeaders e scale).seq (hrows.seq (shows_paintFrame e scale))).isolated.seq
    (shows_overflowNote e.metadata (sourceOf e.metadata r))
  refine ⟨?_, ?_⟩
  · dsimp only
    rw [hcount]
    refine ⟨textAt e.metadata r, fun row hrow column hcolumn => ?_, ?_⟩
    · rw [recordsOf_text, ← cell_of_lt (by omega)]
      exact hcells row (Nat.zero_le _) (by omega) column hcolumn
    · have htexts := hshows.texts
      rw [← List.range_eq_range', flatMap_rowTexts, List.append_nil, List.append_nil] at htexts
      exact htexts
  · have hlines := hshows.lines
    rw [rowCount_mul, Nat.add_zero, ← Nat.add_assoc] at hlines
    exact hlines

/-- A table that can be painted shows its headers in capitals, if one of them has text, and then, row after row, what
the records have in its columns, as far as there are rows for them; what is empty is left out.  Its lines are the
dividers of the header band, a rule and the dividers of each row, and the rule below the last row if the table has any
height. -/
theorem paint_shows_records {size : Size α} {e : Element α} {r : Record} {scale : α} {start : Recording α}
    (hreturns : ((Recording.accepting size).paint (paint e r scale) start).fault = none) :
    let cols := clamp e.metadata.cols
    let rows := if cols = 0 then 0 else clamp e.metadata.rows
    ∃ ds : List (Drawing α), ((Recording.accepting size).paint (paint e r scale) start).state = start ++ ds.toArray ∧
      ShowsRecords e r rows cols (Scalar.lt (layout e scale).top (layout e scale).bottom) ds := by
  rw [Recording.paint_accepting] at hreturns ⊢
  refine ⟨_, rfl, ?_⟩
  rw [clamp_rows, clamp_cols]
  exact showsRecords_actions hreturns

/-- A table of one row and two columns, with a header too many. -/
def smallTable : Element Rat :=
  ⟨some .table, "table", ⟨0, 0, 90, 62⟩, {},
    { rows := some 1, cols := some 2, headers := ["Subject", "Grade", "Remark"], tableKind := some .subjects },
    none, none⟩

/-- A record with a result too many for one row. -/
def smallRecord : Record where
  results := [[("subject", .mapping [("name", .text "Art")]), ("grade", .text "B")],
    [("subject", .mapping [("name", .text "Music")]), ("grade", .text "A")]]

/-- A table of skills with boxes to tick, without a number of rows. -/
def skillTable : Element Rat :=
  ⟨some .table, "table", ⟨0, 0, 90, 62⟩, {},
    { cols := some 3, headers := ["Skill", "4", "5"], tableKind := some .psychomotor, traits := some ["Neatness"]
      skills := some ["Chess", "Music"] }, none, none⟩

/-- A record with ratings of two skills in its first result. -/
def skillRecord : Record where
  results := [[("affectiveTraits", .mapping [("Chess", .int 4)]),
    ("psychomotorSkills", .mapping [("Chess", .int 5), ("Music", .text "4")])], [("psychomotorSkills", .mapping [])]]

theorem paint_shows_records_small :
    let surface := Recording.accepting (⟨600, 800⟩ : Size Rat)
    let subjects := surface.paint (paint smallTable smallRecord 1) #[]
    let skills := surface.paint (paint skillTable skillRecord 1) #[]
    let texts := fun o : Outcome (Recording Rat) => o.state.toList.filterMap fun d => d.text?.bind Value.text?
    subjects.fault = none ∧ skills.fault = none ∧ texts subjects = ["SUBJECT", "GRADE", "Art", "B"] ∧
      texts skills = ["SKILL", "4", "5", "Chess", checkmark, "Music", checkmark] ∧
      (∃ ds, subjects.state = #[] ++ ds.toArray ∧ ShowsRecords smallTable smallRecord 1 2 true ds) ∧
      ∃ ds, skills.state = #[] ++ ds.toArray ∧ ShowsRecords skillTable skillRecord 3 3 true ds := by
  intro surface subjects skills texts
  have hsubjects : subjects.fault = none := by decide +kernel
  have hskills : skills.fault = none := by decide +kernel
  have hsmall : Scalar.lt (layout smallTable 1).top (layout smallTable 1).bottom = true := by decide +kernel
  have hskill : Scalar.lt (layout skillTable 1).top (layout skillTable 1).bottom = true := by decide +kernel
  refine ⟨hsubjects, hskills, by decide +kernel, by decide +kernel, ?_, ?_⟩
  · rw [← hsmall]
    exact paint_shows_records hsubjects
  · rw [← hskill]
    exact paint_shows_records hskills

end ReportCard.Table
