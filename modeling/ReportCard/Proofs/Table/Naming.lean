import ReportCard.Proofs.Element.Absence
import ReportCard.Proofs.Table.Content
import ReportCard.Proofs.Table.Failure

/-!
# The names that a table lists

A table of ratings takes its names from the list of its own kind, and only without one from the list of the other kind.
So an empty list of its own kind is not the same as none: without it the table shows what the other list names, unless
all of that is empty (`Table.actions_paint_unlist_iff`).
-/

namespace ReportCard.Table

/-- The key of the list of names that tables of a kind prefer. -/
def namesKey? : TableKind → Option String
  | .subjects => none
  | .affective => some "traits"
  | .psychomotor => some "skills"

variable {α : Type}

/-- A table prefers the list of names at a key, and has a text to show for one of its rows. -/
def ShowsNames (key : String) (m : Metadata α) (r : Record) : Prop :=
  (∃ kind, m.tableKind = some kind ∧ namesKey? kind = some key) ∧
    ∃ row < min (rowCount m) (recordCount m r), ∃ column < colCount m, cellAt m r row column ≠ .ok ""

theorem ne_subjects_of_namesKey? {kind : TableKind} {key : String} (h : namesKey? kind = some key) :
    kind ≠ .subjects := by
  rintro rfl
  cases h

/-- An empty list of the kind that a table prefers leaves it without names. -/
theorem traitNames_of_hasNoNames {e : Element α} {kind : TableKind} {key : String} (h : e.HasNoNames key)
    (hkey : namesKey? kind = some key) : traitNames e.metadata kind = [] := by
  cases kind with
  | subjects => cases hkey
  | affective => simp [traitNames, h.1 (Option.some.inj hkey).symm]
  | psychomotor => simp [traitNames, h.2 (Option.some.inj hkey).symm]

/-- A table shows the same without an empty list of names that it does not prefer. -/
theorem sourceOf_unlist {e : Element α} {key : String} (h : e.HasNoNames key)
    (hkey : ∀ kind, e.metadata.tableKind = some kind → namesKey? kind ≠ some key) (r : Record) :
    sourceOf (e.unlist key).metadata r = sourceOf e.metadata r := by
  cases hkind : e.metadata.tableKind with
  | none => simp [sourceOf, Element.unlist, Metadata.unlist, hkind]
  | some kind =>
    have hne := hkey kind hkind
    -- the list that is lost is empty, and only a fallback
    cases kind with
    | subjects => simp [sourceOf, Element.unlist, Metadata.unlist, hkind]
    | affective =>
      have htraits : key ≠ "traits" := fun hk => hne (by rw [hk]; rfl)
      by_cases hskills : key = "skills"
      · cases ht : e.metadata.traits <;>
          simp [sourceOf, Element.unlist, Metadata.unlist, hkind, traitNames, hskills, h.2 hskills, ht]
      · simp [sourceOf, Element.unlist, Metadata.unlist, hkind, traitNames, htraits, hskills]
    | psychomotor =>
      have hskills : key ≠ "skills" := fun hk => hne (by rw [hk]; rfl)
      by_cases htraits : key = "traits"
      · cases hs : e.metadata.skills <;>
          simp [sourceOf, Element.unlist, Metadata.unlist, hkind, traitNames, htraits, h.1 htraits, hs]
      · simp [sourceOf, Element.unlist, Metadata.unlist, hkind, traitNames, htraits, hskills]

variable [Scalar α]

/-- Rows whose cells are the same are painted in the same way. -/
private theorem paintRows_congr {e : Element α} {source source' : Source} (scale : α) (row : Nat) (top : α) (n : Nat)
    (h : ∀ i < row + n, ∀ column < colCount e.metadata, let header := e.metadata.headers.getD column ""
      source'.cell (colCount e.metadata) i column header = source.cell (colCount e.metadata) i column header) :
    paintRows e scale source' row top n = paintRows e scale source row top n := by
  induction n generalizing row top with
  | zero => rfl
  | succ n ih =>
    have hcells : ∀ c ∈ columns e, paintCell e scale source' row top c = paintCell e scale source row top c := by
      intro c hc
      have hcolumn : c.index < colCount e.metadata := by
        rw [← List.mem_range, ← columns_index]
        exact List.mem_map_of_mem hc
      rw [paintCell, paintCell, header_of_mem_columns hc, h row (by omega) c.index hcolumn]
    rw [paintRows, paintRows, ih (row + 1) _ fun i hi => h i (by omega), paintRow, paintRow,
      List.map_congr_left hcells]

/-- Of an element, rows do not look at the lists of names. -/
private theorem paintRows_unlist (e : Element α) (key : String) (scale : α) (source : Source) (row : Nat) (top : α)
    (n : Nat) : paintRows (e.unlist key) scale source row top n = paintRows e scale source row top n := by
  induction n generalizing row top with
  | zero => rfl
  | succ n ih => exact congrArg (paintRow e scale source row top :: ·) (ih (row + 1) (top + rowHeight e scale))

/-- What a table draws is the part of its script inside the brackets. -/
private theorem actions_paint (e : Element α) (r : Record) (scale : α) :
    (paint e r scale).actions = (Drawing.isolated (.seq (paintHeaders e scale) (.seq
      (.all (paintRows e scale (sourceOf e.metadata r) 0 (bodyTop e scale) (rowCount e.metadata)))
      (paintFrame e scale)))).actions := by
  have hnote : (overflowNote e.metadata (sourceOf e.metadata r) : Script (Drawing α)).actions = [] := by
    unfold overflowNote Script.when
    split
    · rfl
    · split <;> rfl
  rw [paint, Script.actions, hnote, ite_self, List.append_nil]

/-- Of the names of a table, its drawings depend on the cells alone. -/
private theorem actions_paint_congr {e : Element α} {key : String} {r : Record} (scale : α)
    (h : ∀ row < rowCount e.metadata, ∀ column < colCount e.metadata, let header := e.metadata.headers.getD column ""
      (sourceOf (e.unlist key).metadata r).cell (colCount e.metadata) row column header =
        (sourceOf e.metadata r).cell (colCount e.metadata) row column header) :
    (paint (e.unlist key) r scale).actions = (paint e r scale).actions := by
  have hrows := paintRows_congr scale 0 (bodyTop e scale) (rowCount e.metadata) fun row hrow => h row (by omega)
  rw [actions_paint, actions_paint, paintRows_unlist, ← hrows]
  rfl

omit [Scalar α] in
/-- A cell of ratings without text is like one without a rating. -/
private theorem cell_of_blank {m : Metadata α} {kind : TableKind} (hkind : m.tableKind = some kind)
    (hratings : kind ≠ .subjects) {r : Record} (row column : Nat)
    (h : row < recordCount m r → cellAt m r row column = .ok "") :
    (sourceOf m r).cell (colCount m) row column (m.headers.getD column "") = .ok ⟨"", false⟩ := by
  rw [sourceOf_of_ratings hkind hratings]
  cases hname : (traitNames m kind)[row]? with
  | none => simp [Source.cell, hname]
  | some name =>
    rw [recordCount_of_ratings hkind hratings] at h
    have hcell := h (List.getElem?_eq_some_iff.1 hname).1
    rw [cellAt_of_ratings hkind hratings, List.getD_eq_getElem?_getD, hname] at hcell
    have hcell : traitCell name (m.headers.getD column "") column (traitRatings r kind) (colCount m) = .ok "" := hcell
    rw [Source.cell, hname, Option.map_some, Option.getD_some, hcell]
    rfl

private theorem visible_eq_nil {texts : List String} : visible texts = [] ↔ ∀ s ∈ texts, s = "" := by
  simp [visible, List.filter_eq_nil_iff]

/-- Without an empty list of names a table draws the same, unless it prefers that list and may have a text to show
then. -/
theorem actions_paint_unlist {e : Element α} {key : String} (h : e.HasNoNames key) {r : Record}
    (hshown : ¬ShowsNames key (e.unlist key).metadata r) (scale : α) :
    (paint (e.unlist key) r scale).actions = (paint e r scale).actions := by
  by_cases hkey : ∃ kind, e.metadata.tableKind = some kind ∧ namesKey? kind = some key
  · obtain ⟨kind, hkind, hkey⟩ := hkey
    have hratings := ne_subjects_of_namesKey? hkey
    have hcount : recordCount e.metadata r = 0 := by
      rw [recordCount_of_ratings hkind hratings, traitNames_of_hasNoNames h hkey, List.length_nil]
    refine actions_paint_congr scale fun row hrow column hcolumn => ?_
    have hold := cell_of_blank hkind hratings (r := r) row column (by omega)
    have hnew := cell_of_blank (m := (e.unlist key).metadata) hkind hratings (r := r) row column fun hlt => by
      by_contra hne
      exact hshown ⟨⟨kind, hkind, hkey⟩, row, Nat.lt_min.2 ⟨hrow, hlt⟩, column, hcolumn, hne⟩
    exact hnew.trans hold.symm
  · have hsource := sourceOf_unlist h (fun kind hkind hk => hkey ⟨kind, hkind, hk⟩) r
    refine actions_paint_congr scale fun row _ column _ => ?_
    rw [hsource]

/-- A table of ratings whose cells can all be written is painted to its end. -/
private theorem fault?_paint_of_ratings {e : Element α} {kind : TableKind} (hkind : e.metadata.tableKind = some kind)
    (hratings : kind ≠ .subjects) {r : Record} (hlong : ¬IsOverlong e.metadata r) (scale : α) :
    (paint e r scale).fault? = none :=
  fault?_paint_eq_none_iff.2 ⟨fun h => hratings (Option.some.inj (hkind.symm.trans h.1)), hlong⟩

/-- Without names a table of ratings shows its headers alone. -/
private theorem cellTexts_of_nameless {e : Element α} {kind : TableKind} (hkind : e.metadata.tableKind = some kind)
    (hratings : kind ≠ .subjects) (hnames : traitNames e.metadata kind = []) (r : Record) (scale : α) :
    Drawing.cellTexts (paint e r scale).actions =
      (headerTexts e.metadata.headers (colCount e.metadata)).map .text := by
  have hlong : ¬IsOverlong e.metadata r := by
    rintro ⟨row, -, column, -, hlong⟩
    cases hlong with
    | result hsubjects => exact hratings (Option.some.inj (hkind.symm.trans hsubjects))
    | @rating kind' name hkind' _ hname =>
      obtain rfl : kind = kind' := Option.some.inj (hkind.symm.trans hkind')
      simp [hnames] at hname
  obtain ⟨grid, -, htexts⟩ := (showsRecords_actions (fault?_paint_of_ratings hkind hratings hlong scale)).texts
  rw [recordsOf_count, recordCount_of_ratings hkind hratings, hnames, List.length_nil, Nat.min_zero,
    List.range_zero, List.flatMap_nil, List.append_nil] at htexts
  exact htexts

/-- Without an empty list of names a table that prefers that list draws something else if it has a text to show then,
and all of its cells can be written. -/
theorem actions_paint_unlist_ne {e : Element α} {key : String} (h : e.HasNoNames key) {r : Record}
    (hlong : ¬IsOverlong (e.unlist key).metadata r) (hshown : ShowsNames key (e.unlist key).metadata r) (scale : α) :
    (paint (e.unlist key) r scale).actions ≠ (paint e r scale).actions := by
  obtain ⟨⟨kind, hkind, hkey⟩, row, hrow, column, hcolumn, hne⟩ := hshown
  have hratings := ne_subjects_of_namesKey? hkey
  obtain ⟨grid, hgrid, htexts⟩ := (showsRecords_actions (fault?_paint_of_ratings hkind hratings hlong scale)).texts
  rw [recordsOf_count] at hgrid htexts
  intro heq
  rw [heq, cellTexts_of_nameless (e := e) hkind hratings (traitNames_of_hasNoNames h hkey)] at htexts
  -- only the headers are shown, so that the texts of every row are empty
  have hall := List.map_injective_iff.2 (fun s t h => Value.text.inj h) htexts
  have hblank := List.flatMap_eq_nil_iff.1 (List.self_eq_append_right.1 hall) row (List.mem_range.2 hrow)
  have hcell := visible_eq_nil.1 hblank _ (List.mem_map_of_mem (List.mem_range.2 hcolumn))
  refine hne ?_
  rw [← recordsOf_text, hgrid row hrow column hcolumn, hcell]

end ReportCard.Table
