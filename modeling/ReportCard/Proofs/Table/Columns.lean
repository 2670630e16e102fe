import ReportCard.Painting.Table.Layout

/-!
# The columns of a table

A table has as many columns as it says; they carry its headers, in order and without a gap, and all but the last are
followed by a divider.  They stand side by side, each where the one before it ends (`columns_eq_map_range`).
-/

namespace ReportCard.Table

variable {α : Type}

/-- Some header is not blank. -/
def IsHeaded (headers : List String) : Prop := ∃ h ∈ headers, Text.allBlank h = false

instance (headers : List String) : Decidable (IsHeaded headers) :=
  inferInstanceAs (Decidable (∃ h ∈ headers, Text.allBlank h = false))

theorem hasHeaders_iff {headers : List String} : hasHeaders headers = true ↔ IsHeaded headers := by
  simp [hasHeaders, IsHeaded]

@[simp]
theorem length_padded {β : Type} (blank : β) (items : List β) (cols : Nat) :
    (padded blank items cols).length = cols := by
  simp only [padded, List.length_append, List.length_take, List.length_replicate]
  omega

theorem padded_eq_map_range {β : Type} (blank : β) (items : List β) (cols : Nat) :
    padded blank items cols = (List.range cols).map (items.getD · blank) := by
  refine List.ext_getElem (by simp) fun i h _ => ?_
  have hi : i < cols := by simpa using h
  simp only [padded, List.getElem_map, List.getElem_range, List.getD_eq_getElem?_getD]
  by_cases hitem : i < items.length
  · rw [List.getElem_append_left (by rw [List.length_take]; omega)]
    simp [hitem]
  · rw [List.getElem_append_right (by rw [List.length_take]; omega)]
    simp [List.getElem?_eq_none (Nat.le_of_not_lt hitem)]

variable [Scalar α]

theorem length_columnWidths (weights : Option (List α)) (width : α) (cols : Nat) :
    (columnWidths weights width cols).length = cols := by
  unfold columnWidths
  cases weights with
  | none => simp
  | some ws =>
    dsimp only
    split
    · rename_i h
      simpa using h.1
    · simp

private theorem columnsFrom_headers (i : Nat) (left : α) (l : List (String × α)) :
    (columnsFrom i left l).map (fun c => (c.header, c.index)) = (l.map Prod.fst).zipIdx i := by
  induction l generalizing i left with
  | nil => rfl
  | cons p l ih => simp [columnsFrom, ih]

private theorem countP_columnsFrom (i : Nat) (left : α) (l : List (String × α)) :
    (columnsFrom i left l).countP (!·.isLast) = l.length - 1 := by
  induction l generalizing i left with
  | nil => rfl
  | cons p l ih =>
    rw [columnsFrom, List.countP_cons, ih]
    cases l <;> simp

private theorem headers_zip_widths (e : Element α) :
    ((paddedHeaders e.metadata.headers (colCount e.metadata)).zip (widths e)).map Prod.fst =
      paddedHeaders e.metadata.headers (colCount e.metadata) :=
  List.map_fst_zip (by simp [paddedHeaders, widths, length_columnWidths])

/-- The columns carry the headers in order, empty where there are too few. -/
private theorem columns_headers (e : Element α) :
    (columns e).map (fun c => (c.header, c.index)) =
      (List.range (colCount e.metadata)).map fun j => (e.metadata.headers.getD j "", j) := by
  rw [columns, columnsFrom_headers, headers_zip_widths, paddedHeaders, padded_eq_map_range, List.zipIdx_map]
  refine List.ext_getElem (by simp) fun j h₁ h₂ => ?_
  simp

theorem columns_header (e : Element α) :
    (columns e).map (·.header) = paddedHeaders e.metadata.headers (colCount e.metadata) := by
  have h := congrArg (List.map Prod.fst) (columns_headers e)
  rw [List.map_map, List.map_map] at h
  rw [paddedHeaders, padded_eq_map_range]
  exact h

theorem columns_index (e : Element α) : (columns e).map (·.index) = List.range (colCount e.metadata) := by
  have h := congrArg (List.map Prod.snd) (columns_headers e)
  rw [List.map_map, List.map_map] at h
  exact h.trans (List.map_id _)

theorem header_of_mem_columns {e : Element α} {c : Column α} (h : c ∈ columns e) :
    c.header = e.metadata.headers.getD c.index "" := by
  have hmem := List.mem_map_of_mem (f := fun c : Column α => (c.header, c.index)) h
  rw [columns_headers] at hmem
  obtain ⟨j, -, hj⟩ := List.mem_map.1 hmem
  obtain ⟨hheader, rfl⟩ := Prod.mk.inj hj
  exact hheader.symm

theorem exists_mem_columns {e : Element α} {j : Nat} (h : j < colCount e.metadata) :
    ∃ c ∈ columns e, c.index = j := by
  rw [← List.mem_range, ← columns_index] at h
  exact List.mem_map.1 h

/-- All columns but the last are followed by a divider. -/
theorem countP_columns (e : Element α) : (columns e).countP (!·.isLast) = colCount e.metadata - 1 := by
  have hlength := congrArg List.length (headers_zip_widths e)
  rw [List.length_map, paddedHeaders, length_padded] at hlength
  rw [columns, countP_columnsFrom, paddedHeaders, hlength]

/-! ### Where the columns stand -/

/-- The left edge of a column: that of the table, moved by the widths of the columns before.  Behind the last column it
is the right edge of the table. -/
def columnLeft (e : Element α) (c : Nat) : α := ((widths e).take c).foldl (· + ·) e.box.x

/-- The width of a column. -/
def columnWidth (e : Element α) (c : Nat) : α := (widths e).getD c Scalar.zero

/-- The column at a position. -/
def columnAt (e : Element α) (c : Nat) : Column α :=
  ⟨c, e.metadata.headers.getD c "", columnLeft e c, columnWidth e c, c + 1 == colCount e.metadata⟩

@[simp]
theorem length_widths (e : Element α) : (widths e).length = colCount e.metadata := length_columnWidths _ _ _

theorem getElem?_widths {e : Element α} {c : Nat} (h : c < colCount e.metadata) :
    (widths e)[c]? = some (columnWidth e c) := by
  rw [columnWidth, List.getD_eq_getElem?_getD, List.getElem?_eq_getElem (by rwa [length_widths])]
  rfl

/-- A column ends where the next one begins. -/
theorem columnLeft_succ {e : Element α} {c : Nat} (h : c < colCount e.metadata) :
    columnLeft e (c + 1) = columnLeft e c + columnWidth e c := by
  rw [columnLeft, List.take_add_one, getElem?_widths h, List.foldl_append]
  rfl

private theorem getElem?_columnsFrom (i : Nat) (left : α) (l : List (String × α)) (j : Nat) :
    (columnsFrom i left l)[j]? = l[j]?.map fun p =>
      ⟨i + j, p.1, ((l.take j).map Prod.snd).foldl (· + ·) left, p.2, j + 1 == l.length⟩ := by
  induction l generalizing i left j with
  | nil => rfl
  | cons p l ih =>
    cases j with
    | zero => cases l <;> simp [columnsFrom]
    | succ j =>
      have hindex : i + 1 + j = i + (j + 1) := by omega
      simp [columnsFrom, ih, hindex]

/-- The columns of a table, one for each position. -/
theorem columns_eq_map_range (e : Element α) : columns e = (List.range (colCount e.metadata)).map (columnAt e) := by
  have hlength : (paddedHeaders e.metadata.headers (colCount e.metadata)).length = colCount e.metadata := by
    rw [paddedHeaders, length_padded]
  have hwidths : (widths e).length ≤ (paddedHeaders e.metadata.headers (colCount e.metadata)).length :=
    Nat.le_of_eq ((length_widths e).trans hlength.symm)
  refine List.ext_getElem? fun j => ?_
  rw [columns, getElem?_columnsFrom, List.map_take, List.map_snd_zip hwidths, Nat.zero_add, List.length_zip,
    length_widths, hlength, Nat.min_self, List.getElem?_map]
  by_cases hj : j < colCount e.metadata
  · have hheader : (paddedHeaders e.metadata.headers (colCount e.metadata))[j]? =
        some (e.metadata.headers.getD j "") := by
      rw [paddedHeaders, padded_eq_map_range, List.getElem?_map, List.getElem?_range hj]
      rfl
    have hfield := (List.getElem?_zip_eq_some (z := (e.metadata.headers.getD j "", columnWidth e j))).2
      ⟨hheader, getElem?_widths hj⟩
    rw [hfield, List.getElem?_range hj]
    rfl
  · rw [List.getElem?_eq_none (by rw [List.length_zip, length_widths, hlength]; omega),
      List.getElem?_eq_none (by rw [List.length_range]; omega)]
    rfl

end ReportCard.Table
