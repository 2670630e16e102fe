import ReportCard.Proofs.Element.Drawings
import ReportCard.Proofs.Element.Reading
import ReportCard.Proofs.Table.Drawings
import ReportCard.Proofs.Table.Score

/-!
# When a table fails

Painting a table fails for two reasons only: a cell of a table of subjects that shows a component score, in a row whose
scores count as given but list nothing, and a cell that puts into text something with too many digits.  The second does
not happen to records that are read from what can be written.  What surrounds the cells cannot fail, whatever counts,
headers and weights the table has: worked out with operations that can fail, its geometry is the same
(`Table.arrange?_eq_ok`).  A table that fails restores the graphics state (`Table.paint_stops_iff`).
-/

namespace ReportCard

/-- The value counts as given, but has no single items. -/
def Value.IsUnlisted (v : Value) : Prop := v.isTruthy = true ∧ ∀ items, v.listed ≠ .ok items

namespace Table

/-! ### Geometry with operations that can fail -/

/-- The quotient of two doubles, unless the second is zero. -/
def quotient? (x y : Float) : Except Fault Float := if y == 0.0 then .error .divisionByZero else .ok (x / y)

/-- One of `n` equal parts of a double, unless there are no parts, or more than a double can tell. -/
def part? (x : Float) (n : Nat) : Except Fault Float :=
  if n = 0 then .error .divisionByZero else (floatOfInt n).map (x / ·)

/-- The item at a position of a list. -/
def itemAt {β : Type} (items : List β) (i : Nat) : Except Fault β :=
  match items[i]? with
  | some item => .ok item
  | none => .error .missingItem

/-- The widths of columns. -/
def columnWidths? (weights : Option (List Float)) (width : Float) (cols : Nat) : Except Fault (List Float) :=
  let equal := (List.range cols).mapM fun _ => part? width cols
  match weights with
  | none => equal
  | some ws =>
    let total := Scalar.sum ws
    if ws.length = cols ∧ Scalar.isPos total then ws.mapM fun w => (quotient? w total).map (· * width) else equal

/-- The next `n` of some columns, from a position and its left edge on. -/
def columnsFrom? (headers : List String) (widths : List Float) (cols column : Nat) (left : Float) :
    Nat → Except Fault (List (Column Float))
  | 0 => return []
  | n + 1 => do
    let header ← itemAt headers column
    let width ← itemAt widths column
    return ⟨column, header, left, width, column + 1 == cols⟩ ::
      (← columnsFrom? headers widths cols (column + 1) (left + width) n)

/-- The columns of a table and the height of its rows. -/
def arrange? (e : Element Float) (scale : Float) : Except Fault (List (Column Float) × Float) := do
  let cols := colCount e.metadata
  let widths ← columnWidths? e.metadata.columnWidths e.box.width cols
  let height ← part? (e.box.height - headerHeight e scale) (max 1 (rowCount e.metadata))
  return (← columnsFrom? (paddedHeaders e.metadata.headers cols) widths cols 0 e.box.x cols, height)

section Geometry

variable {e : Element Float}

private theorem quotient?_of_pos (x : Float) {y : Float} (h : 0.0 < y) : quotient? x y = .ok (x / y) := by
  rw [quotient?, beq_zero_of_pos h]
  rfl

private theorem part?_of_lt (x : Float) {n : Nat} (hpos : 0 < n) (h : n < doubleBound) :
    part? x n = .ok (x / Scalar.ofNat n) := by
  have hdouble : floatOfInt n = .ok (Float.ofInt n) := if_neg (Nat.not_le.2 h)
  unfold part?
  rw [if_neg (Nat.ne_of_gt hpos), hdouble]
  rfl

private theorem itemAt_of_some {β : Type} {items : List β} {i : Nat} {item : β} (h : items[i]? = some item) :
    itemAt items i = .ok item := by
  rw [itemAt, h]

private theorem columnWidths?_eq_ok (weights : Option (List Float)) (width : Float) {cols : Nat}
    (h : cols < doubleBound) : columnWidths? weights width cols = .ok (columnWidths weights width cols) := by
  have hequal : (List.range cols).mapM (fun _ => part? width cols) =
      .ok (List.replicate cols (width / Scalar.ofNat cols)) := by
    rcases Nat.eq_zero_or_pos cols with rfl | hcols
    · rfl
    · rw [part?_of_lt width hcols h]
      refine List.mapM_pure.trans (congrArg Except.ok ?_)
      rw [List.map_const', List.length_range]
  cases weights with
  | none => exact hequal
  | some ws =>
    simp only [columnWidths?, columnWidths]
    split
    · rename_i hws
      have hpos : 0.0 < Scalar.sum ws := hws.2
      simp only [quotient?_of_pos _ hpos]
      exact List.mapM_pure ..
    · exact hequal

private theorem columnsFrom?_eq_ok {column n : Nat} (h : column + n = colCount e.metadata) :
    columnsFrom? (paddedHeaders e.metadata.headers (colCount e.metadata)) (widths e) (colCount e.metadata) column
      (columnLeft e column) n = .ok ((List.range' column n).map (columnAt e)) := by
  induction n generalizing column with
  | zero => rfl
  | succ n ih =>
    have hcolumn : column < colCount e.metadata := by omega
    have hheader : (paddedHeaders e.metadata.headers (colCount e.metadata))[column]? =
        some (e.metadata.headers.getD column "") := by
      rw [paddedHeaders, padded_eq_map_range, List.getElem?_map, List.getElem?_range hcolumn]
      rfl
    rw [columnsFrom?, itemAt_of_some hheader, itemAt_of_some (getElem?_widths hcolumn)]
    have hrest := @ih (column + 1) (by omega)
    rw [columnLeft_succ hcolumn] at hrest
    simp only [bind, Except.bind, hrest]
    rfl

/-- No count, header or weight of a table makes its geometry fail. -/
theorem arrange?_eq_ok (hcols : colCount e.metadata < doubleBound) (hrows : rowCount e.metadata < doubleBound)
    (scale : Float) : arrange? e scale = .ok (columns e, rowHeight e scale) := by
  have hone : 1 < doubleBound := by decide +kernel
  have hwidths : columnWidths? e.metadata.columnWidths e.box.width (colCount e.metadata) = .ok (widths e) :=
    columnWidths?_eq_ok _ _ hcols
  have hheight : part? (e.box.height - headerHeight e scale) (max 1 (rowCount e.metadata)) =
      .ok (rowHeight e scale) := part?_of_lt _ (by omega) (by omega)
  have hcolumns : columnsFrom? (paddedHeaders e.metadata.headers (colCount e.metadata)) (widths e)
      (colCount e.metadata) 0 e.box.x (colCount e.metadata) = .ok (columns e) := by
    rw [columns_eq_map_range, List.range_eq_range']
    exact columnsFrom?_eq_ok (Nat.zero_add _)
  simp only [arrange?, hwidths, hheight, hcolumns, bind, Except.bind]
  rfl

end Geometry

/-! ### Cells -/

/-- The header stands above component scores: in capitals it asks for nothing else. -/
def IsScoreHeader (header : String) : Prop :=
  Text.contains (Text.upper header) "SUBJECT" = false ∧ Text.upper header ∉ ["TOTAL", "GRADE", "REMARK", "REMARKS"]

/-- The first of some component scores that counts under a header cannot be written, by its name or by itself. -/
def HasLongScore (header : String) (items : List Value) : Prop :=
  ∃ item, items.find? (CountsUnder header ·) = some item ∧
    (HasLongName item ∨ (item.member "score").isWritable = false)

/-- A cell of a table of subjects puts into text something that cannot be written: the name of the subject, the total,
the grade, the remark, or the score of a component. -/
def HasLongText (header : String) (column : Nat) (result : Entries) : Prop :=
  let asked := Text.upper header
  if column = 0 ∨ Text.contains asked "SUBJECT" = true then
    ((Value.mapping result).reach ["subject", "name"]).isWritable = false
  else if asked = "TOTAL" then (result.get "total").isWritable = false
  else if asked = "GRADE" then ((result.get "grade").orElse (.text emptyCell)).isWritable = false
  else if asked = "REMARK" ∨ asked = "REMARKS" then ((result.get "remark").orElse (.text emptyCell)).isWritable = false
  else HasLongScore asked ((result.get "componentScores").items?.getD [])

theorem listedScores_eq_error_iff {scores : Value} {fault : Fault} :
    listedScores scores = .error fault ↔ fault = .wrongKind ∧ scores.IsUnlisted := by
  unfold listedScores Value.IsUnlisted
  cases scores.isTruthy with
  | false => simp
  | true => cases scores <;> simp [Value.listed, eq_comm]

theorem firstScore_eq_error_iff {header : String} {items : List Value} {fault : Fault} :
    firstScore header items = .error fault ↔ fault = .numberTooLong ∧ HasLongScore header items := by
  unfold firstScore HasLongScore
  cases items.find? (CountsUnder header ·) with
  | none => simp
  | some item =>
    simp only [Option.some.injEq, exists_eq_left']
    by_cases hname : HasLongName item
    · rw [if_pos hname, Except.error.injEq, and_iff_left (.inl hname)]
      exact eq_comm
    rw [if_neg hname, or_iff_right hname]
    cases hscore : (item.member "score").isNull with
    | true => simp [Value.isWritable_of_isNull hscore]
    | false =>
      rw [if_neg Bool.false_ne_true, formatNumber, Value.written_eq_error_iff, and_comm]

/-- Looking for a component score fails exactly if what should list the scores lists nothing, or if the first one that
counts cannot be written. -/
theorem componentScore_eq_error_iff {header : String} {scores : Value} {fault : Fault} :
    componentScore (.text header) scores = .error fault ↔
      fault = .wrongKind ∧ scores.IsUnlisted ∨
        fault = .numberTooLong ∧ HasLongScore header (scores.items?.getD []) := by
  rw [← listedScores_eq_error_iff, ← firstScore_eq_error_iff]
  cases hlisted : listedScores scores with
  | error fault' =>
    have hunlisted : scores.items? = none := by
      have hitems := (listedScores_eq_error_iff.1 hlisted).2.2
      cases scores with
      | list items | tuple items => exact absurd rfl (hitems items)
      | _ => rfl
    rw [componentScore, hlisted, hunlisted]
    simp [firstScore, bind, Except.bind]
  | ok listed => simp [componentScore_of_listed hlisted]

section Subjects

variable {header : String} {column : Nat}

theorem subjectCell_of_subject (h : column = 0 ∨ Text.contains (Text.upper header) "SUBJECT" = true) (result : Value) :
    subjectCell header column result = (formatNumber (result.reach ["subject", "name"])).map (⟨·, false⟩) := by
  have hsubject : (decide (column = 0) || Text.contains (Text.upper header) "SUBJECT") = true := by simpa using h
  unfold subjectCell
  rw [if_pos hsubject]
  cases formatNumber (result.reach ["subject", "name"]) <;> rfl

/-- What a cell of another column shows of a result. -/
theorem subjectCell_of_other (hcolumn : column ≠ 0) (hsubject : Text.contains (Text.upper header) "SUBJECT" = false)
    (es : Entries) : subjectCell header column (.mapping es) =
      if Text.upper header = "TOTAL" then
        (if (es.get "total").isBlank then .ok "0" else formatNumber (es.get "total")).map (⟨·, true⟩)
      else if Text.upper header = "GRADE" then (textOrEmpty (es.get "grade")).map (⟨·, false⟩)
      else if Text.upper header = "REMARK" ∨ Text.upper header = "REMARKS" then
        (textOrEmpty (es.get "remark")).map (⟨·, false⟩)
      else (componentScore (.text (Text.upper header)) (es.get "componentScores")).map (⟨·, false⟩) := by
  unfold subjectCell
  simp only [hsubject, hcolumn, decide_false, Bool.or_false, Bool.false_eq_true, if_false, Value.entries?,
    Option.map_some, Option.getD_some, bind, Except.bind, beq_iff_eq, Bool.or_eq_true]
  split_ifs
  · rfl
  · cases formatNumber (es.get "total") <;> rfl
  · cases textOrEmpty (es.get "grade") <;> rfl
  · cases textOrEmpty (es.get "remark") <;> rfl
  · cases componentScore (.text (Text.upper header)) (es.get "componentScores") <;> rfl

/-- Under a header that asks for nothing else a cell shows a component score. -/
theorem subjectCell_of_score (hcolumn : column ≠ 0) (hheader : IsScoreHeader header) (es : Entries) :
    subjectCell header column (.mapping es) =
      (componentScore (.text (Text.upper header)) (es.get "componentScores")).map (⟨·, false⟩) := by
  have hother := hheader.2
  simp only [List.mem_cons, List.not_mem_nil, or_false, not_or] at hother
  rw [subjectCell_of_other hcolumn hheader.1]
  simp [hother]

private theorem formatNumber_eq_error_iff {v : Value} {fault : Fault} :
    formatNumber v = .error fault ↔ fault = .numberTooLong ∧ v.isWritable = false :=
  Value.written_eq_error_iff.trans and_comm

private theorem totalText_eq_error_iff {v : Value} {fault : Fault} :
    (if v.isBlank then .ok "0" else formatNumber v) = .error fault ↔
      fault = .numberTooLong ∧ v.isWritable = false := by
  cases hblank : v.isBlank with
  | true => simp [Value.isWritable_of_isBlank hblank]
  | false => exact formatNumber_eq_error_iff

/-- A cell of a table of subjects fails exactly if it is to show a component score that cannot be looked for, or
something that cannot be written. -/
theorem subjectCell_eq_error_iff {es : Entries} {fault : Fault} :
    subjectCell header column (.mapping es) = .error fault ↔
      fault = .wrongKind ∧ column ≠ 0 ∧ IsScoreHeader header ∧ (es.get "componentScores").IsUnlisted ∨
        fault = .numberTooLong ∧ HasLongText header column es := by
  unfold HasLongText
  by_cases hsubject : column = 0 ∨ Text.contains (Text.upper header) "SUBJECT" = true
  · have hplain : ¬(column ≠ 0 ∧ IsScoreHeader header) := fun h => hsubject.elim h.1 (by simp [h.2.1])
    rw [subjectCell_of_subject hsubject, map_eq_error_iff, formatNumber_eq_error_iff, if_pos hsubject,
      or_iff_right fun h => hplain ⟨h.2.1, h.2.2.1⟩]
  · rw [if_neg hsubject]
    obtain ⟨hcolumn, hcontains⟩ := not_or.1 hsubject
    rw [Bool.not_eq_true] at hcontains
    rw [subjectCell_of_other hcolumn hcontains, IsScoreHeader, hcontains]
    by_cases htotal : Text.upper header = "TOTAL"
    · simp [htotal, map_eq_error_iff, totalText_eq_error_iff]
    by_cases hgrade : Text.upper header = "GRADE"
    · simp [hgrade, map_eq_error_iff, textOrEmpty, formatNumber_eq_error_iff]
    by_cases hremark : Text.upper header = "REMARK" ∨ Text.upper header = "REMARKS"
    · simp [htotal, hgrade, hremark, map_eq_error_iff, textOrEmpty, formatNumber_eq_error_iff]
    · simp only [not_or] at hremark
      simp [htotal, hgrade, hremark, hcolumn, map_eq_error_iff, componentScore_eq_error_iff]

end Subjects

variable {α : Type}

theorem getElem?_results {r : Record} {row : Nat} (h : row < r.results.length) :
    r.results[row]? = some (r.results.getD row []) := by
  rw [List.getD_eq_getElem?_getD, List.getElem?_eq_getElem h]
  rfl

theorem traitCell_eq_error_iff {name header : String} {column cols : Nat} {ratings : Value} {fault : Fault} :
    traitCell name header column ratings cols = .error fault ↔
      fault = .numberTooLong ∧ column ≠ 0 ∧ (ratings.member name).isWritable = false := by
  unfold traitCell ratingText
  by_cases hcolumn : column = 0
  · simp [hcolumn]
  rw [if_neg hcolumn]
  cases hrating : (ratings.member name).isNull with
  | true => simp [Value.isWritable_of_isNull hrating]
  | false => simp [hcolumn, map_eq_error_iff, formatNumber_eq_error_iff]

/-- A cell of a table puts into text something that cannot be written, of a result or as a rating. -/
inductive HasLongCell (m : Metadata α) (r : Record) (row column : Nat) (header : String) : Prop where
  | result {result : Entries} (hkind : m.tableKind = some .subjects) (hresult : r.results[row]? = some result)
      (hlong : HasLongText header column result)
  | rating {kind : TableKind} {name : String} (hkind : m.tableKind = some kind) (hratings : kind ≠ .subjects)
      (hname : (traitNames m kind)[row]? = some name) (hcolumn : column ≠ 0)
      (hlong : ((traitRatings r kind).member name).isWritable = false)

section Cells

variable {m : Metadata α} {r : Record} {row column : Nat} {header : String} {fault : Fault}

private theorem cell_of_subjects_eq_error_iff (hkind : m.tableKind = some .subjects) :
    (sourceOf m r).cell (colCount m) row column header = .error fault ↔
      ∃ result, r.results[row]? = some result ∧ subjectCell header column (.mapping result) = .error fault := by
  rw [sourceOf, hkind, Source.cell]
  cases r.results[row]? <;> simp

private theorem cell_of_ratings_eq_error_iff {kind : TableKind} (hkind : m.tableKind = some kind)
    (hratings : kind ≠ .subjects) : (sourceOf m r).cell (colCount m) row column header = .error fault ↔
      ∃ name, (traitNames m kind)[row]? = some name ∧
        traitCell name header column (traitRatings r kind) (colCount m) = .error fault := by
  rw [sourceOf_of_ratings hkind hratings, Source.cell]
  cases (traitNames m kind)[row]? <;> simp [map_eq_error_iff]

/-- A cell of a table fails exactly if it is to show a component score that cannot be looked for, or something that
cannot be written. -/
theorem cell_eq_error_iff : (sourceOf m r).cell (colCount m) row column header = .error fault ↔
    fault = .wrongKind ∧ m.tableKind = some .subjects ∧ column ≠ 0 ∧ IsScoreHeader header ∧
      (∃ result, r.results[row]? = some result ∧ (result.get "componentScores").IsUnlisted) ∨
    fault = .numberTooLong ∧ HasLongCell m r row column header := by
  constructor
  · intro h
    cases hkind : m.tableKind with
    | none => simp [sourceOf, hkind, Source.cell] at h
    | some kind =>
      by_cases hsubjects : kind = .subjects
      · subst hsubjects
        obtain ⟨result, hresult, hcell⟩ := (cell_of_subjects_eq_error_iff hkind).1 h
        rcases subjectCell_eq_error_iff.1 hcell with ⟨hfault, hcolumn, hheader, hscores⟩ | ⟨hfault, hlong⟩
        · exact .inl ⟨hfault, rfl, hcolumn, hheader, result, hresult, hscores⟩
        · exact .inr ⟨hfault, .result hkind hresult hlong⟩
      · obtain ⟨name, hname, hcell⟩ := (cell_of_ratings_eq_error_iff hkind hsubjects).1 h
        obtain ⟨hfault, hcolumn, hlong⟩ := traitCell_eq_error_iff.1 hcell
        exact .inr ⟨hfault, .rating hkind hsubjects hname hcolumn hlong⟩
  · rintro (⟨hfault, hkind, hcolumn, hheader, result, hresult, hscores⟩ | ⟨hfault, hlong⟩)
    · exact (cell_of_subjects_eq_error_iff hkind).2
        ⟨result, hresult, subjectCell_eq_error_iff.2 (.inl ⟨hfault, hcolumn, hheader, hscores⟩)⟩
    cases hlong with
    | @result result hkind hresult hlong =>
      exact (cell_of_subjects_eq_error_iff hkind).2
        ⟨result, hresult, subjectCell_eq_error_iff.2 (.inr ⟨hfault, hlong⟩)⟩
    | @rating kind name hkind hratings hname hcolumn hlong =>
      exact (cell_of_ratings_eq_error_iff hkind hratings).2
        ⟨name, hname, traitCell_eq_error_iff.2 ⟨hfault, hcolumn, hlong⟩⟩

end Cells

section Writing

variable {m : Metadata α} {r : Record} {header : String} {column : Nat} {result : Entries}

private theorem not_hasLongScore {items : List Value} (h : ∀ item ∈ items, item.isWritable = true) :
    ¬HasLongScore header items := by
  rintro ⟨item, hfind, hlong⟩
  have hitem := h item (List.mem_of_find?_eq_some hfind)
  rcases hlong with ⟨score, hscore, hname⟩ | hlong
  · rw [Value.entries?_eq_some_iff.1 hscore] at hitem
    have hlabel : (componentLabel score).isWritable = true :=
      Value.isWritable_orDefault (Value.isWritable_reach hitem _) rfl
    simp [hlabel] at hname
  · simp [Value.isWritable_member hitem "score"] at hlong

private theorem not_hasLongText (h : Value.holdWritable result = true) : ¬HasLongText header column result := by
  have hget (key : String) : (result.get key).isWritable = true := Entries.isWritable_get h key
  have hor (key : String) : ((result.get key).orElse (.text emptyCell)).isWritable = true :=
    Value.isWritable_orElse (hget key) rfl
  have hname : ((Value.mapping result).reach ["subject", "name"]).isWritable = true :=
    Value.isWritable_reach (v := .mapping result) h _
  have hscores : ∀ item ∈ (result.get "componentScores").items?.getD [], item.isWritable = true := by
    cases hitems : (result.get "componentScores").items? with
    | none => simp
    | some items => exact fun item hitem => Value.isWritable_of_mem_items (hget _) hitems hitem
  unfold HasLongText
  intro hlong
  dsimp only at hlong
  split_ifs at hlong
  · simp [hname] at hlong
  · simp [hget] at hlong
  · simp [hor] at hlong
  · simp [hor] at hlong
  · exact not_hasLongScore hscores hlong

/-- Of a record that can be written every cell can. -/
theorem not_hasLongCell (h : r.IsWritable) {row : Nat} : ¬HasLongCell m r row column header := by
  rintro (⟨-, hresult, hlong⟩ | ⟨hkind, hratings, -, -, hlong⟩)
  · exact not_hasLongText (h.results _ (List.mem_of_getElem? hresult)) hlong
  · rename_i kind name
    have hgiven (key : String) : ((r.firstResult.get key).orDefault (.mapping [])).isWritable = true :=
      Value.isWritable_orDefault (Entries.isWritable_get h.firstResult key) rfl
    have hmember : ((traitRatings r kind).member name).isWritable = true := by
      cases kind <;> exact Value.isWritable_member (hgiven _) name
    simp [hmember] at hlong

end Writing

/-! ### Tables -/

section Paint

variable [Scalar α] {e : Element α} {r : Record} {scale : α}

/-- A table stops at a fault of one of its cells. -/
private theorem exists_cell_of_fault? {fault : Fault} (h : (paint e r scale).fault? = some fault) :
    ∃ row < rowCount e.metadata, ∃ column < colCount e.metadata,
      (sourceOf e.metadata r).cell (colCount e.metadata) row column (e.metadata.headers.getD column "") =
        .error fault := by
  rw [fault?_paint, paintRows_eq_map] at h
  obtain ⟨p, hp, hfault⟩ := Script.exists_fault?_of_all h
  obtain ⟨row, hrow, rfl⟩ := List.mem_map.1 hp
  rw [fault?_paintRow, columns_eq_map_range, List.map_map] at hfault
  obtain ⟨p, hp, hfault⟩ := Script.exists_fault?_of_all hfault
  obtain ⟨column, hcolumn, rfl⟩ := List.mem_map.1 hp
  rw [Function.comp_apply, fault?_paintCell _ _ _ _ _ (List.mem_range.1 hcolumn), Nat.zero_add] at hfault
  refine ⟨row, List.mem_range.1 hrow, column, List.mem_range.1 hcolumn, ?_⟩
  revert hfault
  cases (sourceOf e.metadata r).cell (colCount e.metadata) row column (e.metadata.headers.getD column "") with
  | ok cell => exact nofun
  | error fault' => exact fun hfault => congrArg Except.error (Option.some.inj hfault)

/-- Some cell of a table is to show a component score that cannot be looked for. -/
def Stumbles (m : Metadata α) (r : Record) : Prop :=
  m.tableKind = some .subjects ∧ ∃ row column,
    row < min (rowCount m) r.results.length ∧ 1 ≤ column ∧ column < colCount m ∧
      IsScoreHeader (m.headers.getD column "") ∧
      Value.IsUnlisted (Entries.get (r.results.getD row []) "componentScores")

/-- Some cell of a table puts into text something that cannot be written. -/
def IsOverlong (m : Metadata α) (r : Record) : Prop :=
  ∃ row < rowCount m, ∃ column < colCount m, HasLongCell m r row column (m.headers.getD column "")

omit [Scalar α] in
theorem isOverlong_iff {m : Metadata α} : IsOverlong m r ↔ ∃ row < rowCount m, ∃ column < colCount m,
    (sourceOf m r).cell (colCount m) row column (m.headers.getD column "") = .error .numberTooLong := by
  simp [IsOverlong, cell_eq_error_iff]

omit [Scalar α] in
/-- What cells put into text does not depend on the widths of their columns. -/
theorem isOverlong_columnWidths (m : Metadata α) (widths : Option (List α)) :
    IsOverlong { m with columnWidths := widths } r ↔ IsOverlong m r :=
  isOverlong_iff.trans (isOverlong_iff (m := m)).symm

omit [Scalar α] in
theorem not_isOverlong (m : Metadata α) (h : r.IsWritable) : ¬IsOverlong m r :=
  fun ⟨_, _, _, _, hlong⟩ => not_hasLongCell h hlong

/-- A table stops because one of its cells cannot be shown. -/
theorem fault?_paint_of_some {fault : Fault} (h : (paint e r scale).fault? = some fault) :
    fault = .wrongKind ∧ Stumbles e.metadata r ∨ fault = .numberTooLong ∧ IsOverlong e.metadata r := by
  obtain ⟨row, hrow, column, hcolumn, hcell⟩ := exists_cell_of_fault? h
  rcases cell_eq_error_iff.1 hcell with ⟨hfault, hkind, hfirst, hheader, result, hresult, hscores⟩ | ⟨hfault, hlong⟩
  · have hlength : row < r.results.length := (List.getElem?_eq_some_iff.1 hresult).1
    refine .inl ⟨hfault, hkind, row, column, by omega, by omega, hcolumn, hheader, ?_⟩
    rwa [List.getD_eq_getElem?_getD, hresult]
  · exact .inr ⟨hfault, row, hrow, column, hcolumn, hlong⟩

/-- A table is painted to its end exactly if all of its cells can be shown. -/
theorem fault?_paint_eq_none_iff :
    (paint e r scale).fault? = none ↔ ¬Stumbles e.metadata r ∧ ¬IsOverlong e.metadata r := by
  constructor
  · intro h
    obtain ⟨grid, hgrid⟩ := (fault?_paint_eq_none scale).1 h
    have hcell (row column : Nat) {fault : Fault} (hrow : row < rowCount e.metadata)
        (hcolumn : column < colCount e.metadata) : (sourceOf e.metadata r).cell (colCount e.metadata) row column
          (e.metadata.headers.getD column "") ≠ .error fault := by
      rw [hgrid row hrow column hcolumn]
      exact nofun
    constructor
    · rintro ⟨hkind, row, column, hrow, hfirst, hcolumn, hheader, hscores⟩
      have hlength : row < r.results.length := by omega
      exact hcell row column (by omega) hcolumn (cell_eq_error_iff.2
        (.inl ⟨rfl, hkind, Nat.ne_of_gt hfirst, hheader, _, getElem?_results hlength, hscores⟩))
    · rintro ⟨row, hrow, column, hcolumn, hlong⟩
      exact hcell row column hrow hcolumn (cell_eq_error_iff.2 (.inr ⟨rfl, hlong⟩))
  · rintro ⟨hstumbles, hlong⟩
    cases hfault : (paint e r scale).fault? with
    | none => rfl
    | some fault =>
      rcases fault?_paint_of_some hfault with h | h
      · exact absurd h.2 hstumbles
      · exact absurd h.2 hlong

end Paint

private theorem counts_lt_of_ofValue? {v : Value} {e : Element Float} (h : Element.ofValue? v = .ok (some e)) :
    colCount e.metadata < doubleBound ∧ rowCount e.metadata < doubleBound := by
  have hdefault : 3 < doubleBound := by decide +kernel
  obtain ⟨es, -, hes⟩ := Element.exists_entries_of_ofValue? h
  obtain ⟨hrows, hcols⟩ := Metadata.natAbs_lt_of_ofValue (Element.ofEntries_eq_ok_iff.1 hes).metadata
  have hcount : ∀ {count : Option Int}, (∀ n, count = some n → n.natAbs < doubleBound) →
      (count.getD 3).toNat < doubleBound := by
    intro count h
    cases count with
    | none => exact hdefault
    | some n =>
      have hn := h n rfl
      simp only [Option.getD_some]
      omega
  refine ⟨hcount hcols, ?_⟩
  unfold rowCount
  split
  · omega
  · exact hcount hrows

/-- Painting a table that has been read stops at a result that one of its rows shows, if it is a table of subjects and
the result has, in place of the component scores that one of its columns after the first asks for, something that counts
as given but lists nothing; then it stops because of the kind of that.  Otherwise it stops only at a cell that puts into
text something with too many digits, and that is never in a record that is read from what can be written.  The geometry
of the table never fails, and the graphics state is restored as often as it is saved. -/
theorem paint_stops_iff {v : Value} {e : Element Float} (hread : Element.ofValue? v = .ok (some e))
    (size : Size Float) (r : Record) (scale : Float) (start : Recording Float) :
    let o := (Recording.accepting size).paint (paint e r scale) start
    (o.fault = none ↔ ¬Stumbles e.metadata r ∧ ¬IsOverlong e.metadata r) ∧
      (∀ fault, o.fault = some fault →
        fault = .wrongKind ∧ Stumbles e.metadata r ∨ fault = .numberTooLong ∧ IsOverlong e.metadata r) ∧
      (∀ payload : Value, payload.isWritable = true → r = .ofValue payload →
        ∀ fault, o.fault = some fault ↔ fault = .wrongKind ∧ Stumbles e.metadata r) ∧
      arrange? e scale = .ok (columns e, rowHeight e scale) ∧
      ∃ ds, o.state = start ++ ds.toArray ∧ Drawing.depth? 0 ds = some 0 := by
  intro o
  obtain ⟨hcols, hrows⟩ := counts_lt_of_ofValue? hread
  have ho : o = ⟨start ++ (paint e r scale).actions.toArray, (paint e r scale).log, (paint e r scale).fault?⟩ :=
    Recording.paint_accepting ..
  have hnone : o.fault = none ↔ ¬Stumbles e.metadata r ∧ ¬IsOverlong e.metadata r := by
    rw [ho]
    exact fault?_paint_eq_none_iff
  have hsome (fault : Fault) (h : o.fault = some fault) :
      fault = .wrongKind ∧ Stumbles e.metadata r ∨ fault = .numberTooLong ∧ IsOverlong e.metadata r := by
    rw [ho] at h
    exact fault?_paint_of_some h
  have hdepth : Drawing.depth? 0 (paint e r scale).actions = some 0 :=
    (bracketed_paint e r scale).depth?_actions fun d hd => hd.1
  refine ⟨hnone, hsome, fun payload hpayload hr fault => ?_, arrange?_eq_ok hcols hrows scale, _, by rw [ho], hdepth⟩
  have hshort : ¬IsOverlong e.metadata r := hr ▸ not_isOverlong e.metadata (Record.isWritable_ofValue hpayload)
  constructor
  · exact fun h => (hsome fault h).resolve_right fun hlong => hshort hlong.2
  · rintro ⟨rfl, hstumbles⟩
    cases hactual : o.fault with
    | none => exact absurd hstumbles (hnone.1 hactual).1
    | some actual => rw [((hsome actual hactual).resolve_right fun hlong => hshort hlong.2).1]

/-- A table with a column for a score. -/
def scoreTable : Value :=
  .mapping [("type", .text "table"), ("width", .int 300), ("height", .int 90),
    ("metadata", .mapping [("tableType", .text "subjects"), ("rows", .int 4), ("cols", .int 2),
      ("headers", .list [.text "Subject", .text "Exam"])])]

/-- A payload whose second result has a number in place of its scores. -/
def stumblingPayload : Value :=
  .mapping [("results", .list [
    .mapping [("subject", .mapping [("name", .text "Art")])],
    .mapping [("subject", .mapping [("name", .text "Music")]), ("componentScores", .int 5)]])]

/-- The second row of the table stops it. -/
theorem paint_stops_iff_number :
    ∃ e, Element.ofValue? scoreTable = .ok (some e) ∧ stumblingPayload.isWritable = true ∧
      let r := Record.ofValue stumblingPayload
      Stumbles e.metadata r ∧ arrange? e 1.0 = .ok (columns e, rowHeight e 1.0) ∧
      ∃ ds, ((Recording.accepting ⟨600, 800⟩).paint (paint e r 1.0) #[]).state = ds.toArray ∧
        ds.length = 13 ∧ Drawing.depth? 0 ds = some 0 := by
  let r := Record.ofValue stumblingPayload
  let run (e : Element Float) := (Recording.accepting ⟨600, 800⟩).paint (paint e r 1.0) #[]
  obtain ⟨e, hread, he⟩ := Element.exists_of_any_ofValue? (v := scoreTable)
    (p := fun e => decide ((run e).fault = some .wrongKind ∧ (run e).state.size = 13)) (by decide +kernel)
  obtain ⟨hfault, hsize⟩ := of_decide_eq_true he
  have hwritable : stumblingPayload.isWritable = true := by decide +kernel
  obtain ⟨-, -, hstops, hgeometry, ds, hds, hdepth⟩ := paint_stops_iff hread ⟨600, 800⟩ r 1.0 #[]
  rw [Array.empty_append] at hds
  refine ⟨e, hread, hwritable, ((hstops _ hwritable rfl _).1 hfault).2, hgeometry, ds, hds, ?_, hdepth⟩
  rwa [show (run e).state = ds.toArray from hds] at hsize

end Table

end ReportCard
