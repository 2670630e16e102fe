import ReportCard.Proofs.Builtin.Recolumn
import ReportCard.Proofs.Record.Display

/-!
# What other subject columns are read as

A template with other subject columns is read like the original, element by element: what the reading takes for a
subjects table has the new columns and is otherwise unchanged, and every other element is the same
(`Builtin.withSubjectColumns_elements`).  The tables are found by the texts of two raw properties, before anything is
read; these texts name the kinds that are read of them.  Headers are only made into texts when a table that has them is
read, so that is where a header with too many digits is met.
-/

namespace ReportCard

/-! ### Counts -/

/-- A whole number of at most 53 bits is left of its double when the fraction is cut off. -/
theorem truncate_ofNat {n : Nat} (hn : n < 2 ^ 53) : truncate (Float.ofNat n) = .ok n := by
  rcases Nat.eq_zero_or_pos n with rfl | hpos
  · rfl
  · obtain ⟨m, e, hm, hunpack, hvalue⟩ := unpack_ofNat hpos hn
    have hexact : Exact.ofFloat (Float.ofNat n) = .finite false m e := by
      unfold Exact.ofFloat
      rw [hunpack]
      rfl
    unfold truncate
    rw [hexact]
    exact congrArg (fun k : Nat => Except.ok (k : Int)) (Exact.floorNat_eq hvalue)

/-- A count of at most 53 bits is read as itself. -/
theorem Value.whole?_ofNat {n : Nat} (hn : n < 2 ^ 53) : (Value.int n).whole? = .ok (some (n : Int)) := by
  have hbound : 2 ^ 53 ≤ doubleBound := by decide +kernel
  have hread : floatOfInt n = .ok (Float.ofNat n) := by
    unfold floatOfInt
    rw [if_neg (by rw [Int.natAbs_natCast]; omega)]
    rfl
  simp [whole?, number?, hread, truncate_ofNat hn, Except.map, bind, Except.bind, pure, Except.pure]

/-! ### Elements with other columns -/

instance {α : Type} (e : Element α) : Decidable e.IsSubjectsTable := inferInstanceAs (Decidable (_ ∧ _))

/-- The metadata with columns under the given headers, of the given weights. -/
def Metadata.withColumns (names : List String) (weights : List Float) (m : Metadata Float) : Metadata Float :=
  { m with headers := names, cols := some names.length, columnWidths := some weights }

/-- The element with other columns if it is a subjects table, otherwise the element itself. -/
def Element.withColumns (names : List String) (weights : List Float) (e : Element Float) : Element Float :=
  if e.IsSubjectsTable then { e with metadata := e.metadata.withColumns names weights } else e

/-- The texts of headers, if all of them can be written; a missing one is empty. -/
def headerTexts (headers : List Value) : Except Fault (List String) :=
  headers.mapM fun h => if h.isNull then .ok "" else h.display

theorem Metadata.texts_list (hs : List Value) : texts (.list hs) = headerTexts hs := by
  show hs.mapM _ = _
  unfold headerTexts
  congr 1
  funext h
  cases h <;> rfl

theorem exists_headerTexts {hs : List Value} (h : ∀ header ∈ hs, header.isWritable = true) :
    ∃ names, headerTexts hs = .ok names := by
  rw [← Metadata.texts_list]
  refine (Metadata.texts_reads _).exists_ok_iff.2 ?_
  rintro _ ⟨⟩
  exact h

theorem headerTexts_eq_error {hs : List Value} {header : Value} (hmem : header ∈ hs)
    (hlong : header.isWritable = false) : headerTexts hs = .error .numberTooLong := by
  cases h : headerTexts hs with
  | ok names =>
    rw [← Metadata.texts_list] at h
    simp [(Metadata.texts_reads _).exists_ok_iff.1 ⟨names, h⟩ hs rfl header hmem] at hlong
  | error fault =>
    have hprints : Prints False (headerTexts hs) := Prints.mapM fun header _ => by
      split
      · exact .ok _ _
      · exact (Value.written_prints header _).mono False.elim
    rw [(hprints fault h).1]

/-- What is read of an element that is given other columns: only a subjects table needs the texts of the headers. -/
def Element.recolumned (names? : Except Fault (List String)) (weights : List Float) (e : Element Float) :
    Except Fault (Element Float) :=
  if e.IsSubjectsTable then names?.map fun names => e.withColumns names weights else .ok e

/-- An item whose metadata is a mapping, or does not count as given. -/
def HasMetadata (item : Value) : Prop :=
  ∃ fields : Entries, item = .mapping fields ∧
    ((∃ metadata, fields.get "metadata" = .mapping metadata) ∨ (fields.get "metadata").isTruthy = false)

namespace Builtin

variable {headers widths item : Value} {hs ws : List Value} {weights : List Float} {e : Element Float}

theorem recolumnMetadata_eq (hheaders : headers.listed = .ok hs) (hwidths : widths.listed = .ok ws)
    (metadata : Entries) : recolumnMetadata headers widths metadata =
      .ok (((metadata.put "headers" (.list hs)).put "cols" (.int hs.length)).put "columnWidths" (.list ws)) := by
  rw [recolumnMetadata, hheaders, hwidths]
  rfl

/-- An item can be given other columns if it is a mapping in which the metadata, if it is given, is one too. -/
theorem exists_recolumn (hitem : HasMetadata item) (hheaders : headers.listed = .ok hs)
    (hwidths : widths.listed = .ok ws) : ∃ item', recolumn headers widths item = .ok item' := by
  obtain ⟨fields, rfl, hmetadata⟩ := hitem
  obtain ⟨metadata, hmetadata⟩ : ∃ metadata, (fields.get "metadata").orElse (.mapping []) = .mapping metadata := by
    unfold Value.orElse
    split
    · rename_i htruthy
      exact hmetadata.resolve_right (by simp [htruthy])
    · exact ⟨[], rfl⟩
  unfold recolumn
  dsimp only
  split
  · rw [hmetadata]
    dsimp only
    split
    · rw [recolumnMetadata_eq hheaders hwidths]
      exact ⟨_, rfl⟩
    · exact ⟨_, rfl⟩
  · exact ⟨_, rfl⟩

/-- The new items are a list or a tuple, as the original ones are. -/
theorem exists_recolumnAll {v : Value} {items items' : List Value} (hv : v.items? = some items)
    (h : items.mapM (recolumn headers widths) = .ok items') :
    ∃ v', recolumnAll headers widths v = .ok v' ∧ v'.items? = some items' := by
  cases v with
  | list l =>
    obtain rfl : l = items := Option.some.inj hv
    exact ⟨.list items', by simp [recolumnAll, h, Except.map], rfl⟩
  | tuple l =>
    obtain rfl : l = items := Option.some.inj hv
    exact ⟨.tuple items', by simp [recolumnAll, h, Except.map], rfl⟩
  | _ => cases hv

section Columns

variable (hheaders : headers.listed = .ok hs) (hlength : hs.length < 2 ^ 53) (hwidths : widths.listed = .ok ws)
  (hweights : ws.mapM (·.numberD 0.0) = .ok weights)

include hheaders hlength hwidths hweights

/-- Of metadata with other columns, nothing but these is read differently. -/
private theorem ofEntries_recolumnMetadata {metadata metadata' : Entries} {m : Metadata Float}
    (hm : Metadata.ofEntries metadata = .ok m) (h : recolumnMetadata headers widths metadata = .ok metadata') :
    Metadata.ofEntries metadata' = (headerTexts hs).map fun names => m.withColumns names weights := by
  obtain rfl := Except.ok.inj ((recolumnMetadata_eq hheaders hwidths metadata).symm.trans h)
  have hread := Metadata.ofEntries_eq_ok_iff.1 hm
  have hcols := Value.whole?_ofNat hlength
  have hwidths' : Metadata.weights? (.list ws) = .ok (some weights) := by
    simp [Metadata.weights?, Value.items?, hweights, Except.map]
  have htraits : Metadata.texts? metadata "traits" = .ok m.traits := hread.traits
  have hskills : Metadata.texts? metadata "skills" = .ok m.skills := hread.skills
  unfold Metadata.texts? at htraits hskills
  simp only [Metadata.ofEntries, Metadata.texts?, Entries.get_put, Entries.lookup_put, String.reduceEq, if_false,
    if_true, hwidths', hread.field, hread.displayType, hread.rows, hcols, htraits, hskills, Metadata.texts_list, bind,
    Except.bind]
  cases hnames : headerTexts hs with
  | error fault => rfl
  | ok names =>
    have hsame : names.length = hs.length := (mapM_eq_ok_iff.1 hnames).length_eq.symm
    simp [Except.map, pure, Except.pure, Metadata.withColumns, hsame, hread.isPlaceholder, hread.tableKind]

/-- What is read of an element with other columns has them if the element is a subjects table. -/
private theorem ofValue?_recolumned {item' : Value} (h : recolumn headers widths item = .ok item')
    (he : Element.ofValue? item = .ok (some e)) :
    Element.ofValue? item' = (e.recolumned (headerTexts hs) weights).map some := by
  rcases recolumn_cases h he with ⟨hother, rfl⟩ | ⟨hsubjects, fields, metadata, metadata', rfl, hget, hnew, rfl⟩
  · rw [he, Element.recolumned, if_neg hother]
    rfl
  · have hread := Element.ofEntries_of_ofValue? he
    have hm := (Element.ofEntries_eq_ok_iff.1 hread).metadata
    rw [hget] at hm
    have hm' : Metadata.ofValue (.mapping metadata') =
        (headerTexts hs).map fun names => e.metadata.withColumns names weights :=
      ofEntries_recolumnMetadata hheaders hlength hwidths hweights hm hnew
    rw [Element.ofValue?_mapping, Element.ofEntries_put_metadata hread, hm', Element.recolumned, if_pos hsubjects]
    cases headerTexts hs with
    | error fault => rfl
    | ok names => simp [Except.map, Element.withColumns, hsubjects]

/-- Items with other columns are read one by one. -/
private theorem exists_mapM_recolumn {items : List Value} {elements : List (Element Float)}
    (hitems : ∀ v ∈ items, HasMetadata v)
    (h : List.Forall₂ (fun v e => Element.ofValue? v = .ok (some e)) items elements) :
    ∃ items', items.mapM (recolumn headers widths) = .ok items' ∧
      ∀ i, Template.readFrom i items' = ([], elements.mapM (Element.recolumned (headerTexts hs) weights)) := by
  induction h with
  | nil => exact ⟨[], rfl, fun i => rfl⟩
  | @cons v e items elements hv _ ih =>
    obtain ⟨hitem, hrest⟩ := List.forall_mem_cons.1 hitems
    obtain ⟨v', hv'⟩ := exists_recolumn hitem hheaders hwidths
    obtain ⟨items', hitems', hread⟩ := ih hrest
    refine ⟨v' :: items', ?_, fun i => ?_⟩
    · simp [List.mapM_cons, hv', hitems', bind, Except.bind, pure, Except.pure]
    · rw [Template.readFrom, ofValue?_recolumned hheaders hlength hwidths hweights hv' hv, List.mapM_cons]
      cases e.recolumned (headerTexts hs) weights with
      | error fault => rfl
      | ok e' =>
        simp only [Except.map, hread, bind, Except.bind]
        cases elements.mapM (Element.recolumned (headerTexts hs) weights) <;> rfl

end Columns

theorem mapM_recolumned (names : List String) (weights : List Float) (elements : List (Element Float)) :
    elements.mapM (Element.recolumned (.ok names) weights) =
      .ok (elements.map (Element.withColumns names weights)) := by
  rw [mapM_eq_ok_iff, List.forall₂_map_right_iff, List.forall₂_same]
  intro e _
  by_cases he : e.IsSubjectsTable <;> simp [Element.recolumned, Element.withColumns, he, Except.map]

theorem mapM_recolumned_error (fault : Fault) (weights : List Float) (elements : List (Element Float)) :
    elements.mapM (Element.recolumned (.error fault) weights) =
      if ∃ e ∈ elements, e.IsSubjectsTable then .error fault else .ok elements := by
  induction elements with
  | nil => rfl
  | cons e elements ih =>
    rw [List.mapM_cons, ih]
    by_cases he : e.IsSubjectsTable
    · simp [Element.recolumned, he, Except.map, bind, Except.bind]
    · simp only [Element.recolumned, he, if_false, List.mem_cons, exists_eq_or_imp, false_or]
      split <;> rfl

/-- The template with other subject columns is there, and its elements are those of the original, in the same order and
without a note: the subjects tables with the headers, their number and the weights as they are read, and every other
element as it was.  Only where a header has too many digits to be written, reading stops at the first subjects table. -/
theorem withSubjectColumns_elements {es : Entries} {items : List Value} {elements : List (Element Float)}
    (hbare : Template.body es = es) (hitems : (es.get "elements").items? = some items)
    (hmetadata : ∀ v ∈ items, HasMetadata v) (hread : (Template.elements (.mapping es)).2 = .ok elements)
    (hheaders : headers.listed = .ok hs) (hlength : hs.length < 2 ^ 53) (hwidths : widths.listed = .ok ws)
    (hweights : ws.mapM (·.numberD 0.0) = .ok weights) (name description level : Value) :
    items.length = elements.length ∧
      ∃ new, withSubjectColumns (.mapping es) name description headers widths level = .ok new ∧
        ((∀ header ∈ hs, header.isWritable = true) → ∃ names, headerTexts hs = .ok names ∧
          Template.elements new = ([], .ok (elements.map (Element.withColumns names weights)))) ∧
        ((∃ header ∈ hs, header.isWritable = false) → Template.elements new =
          ([], if ∃ e ∈ elements, e.IsSubjectsTable then .error .numberTooLong else .ok elements)) := by
  have hread' : List.Forall₂ (fun v e => Element.ofValue? v = .ok (some e)) items elements := by
    have hsame : Template.items (.mapping es) = items := by
      simp [Template.items, Value.entries?, hbare, hitems]
    rw [Template.elements_snd_eq_mapM, hsame] at hread
    obtain ⟨es?, hes, rfl⟩ := map_eq_ok_iff.1 hread
    refine Template.forall₂_of_mapM (fun v hv => ?_) hes
    obtain ⟨fields, hfields, -⟩ := hmetadata v hv
    exact ⟨fields, hfields⟩
  obtain ⟨items', hitems', hnew⟩ := exists_mapM_recolumn hheaders hlength hwidths hweights hmetadata hread'
  refine ⟨hread'.length_eq, ?_⟩
  cases hlookup : es.lookup "elements" with
  | none => simp [Entries.get, hlookup, Value.items?] at hitems
  | some v =>
    have hv : v.items? = some items := by simpa [Entries.get, hlookup] using hitems
    obtain ⟨v', hrecolumned, hv'⟩ := exists_recolumnAll hv hitems'
    have helements : Template.elements (template name description level v') = Template.readFrom 0 items' :=
      Template.elements_of_items hv'
    rw [hnew] at helements
    refine ⟨template name description level v', by simp [withSubjectColumns, hlookup, hrecolumned, Except.map], ?_, ?_⟩
    · intro hwritable
      obtain ⟨names, hnames⟩ := exists_headerTexts hwritable
      rw [helements, hnames, mapM_recolumned]
      exact ⟨names, rfl, rfl⟩
    · rintro ⟨header, hmem, hlong⟩
      rw [helements, headerTexts_eq_error hmem hlong, mapM_recolumned_error]

/-- Two columns, of which the second has no header and no weight, change the subjects table and not the text. -/
theorem withSubjectColumns_elements_text :
    let es := subjectsEntries 794
    let items := [subjectsEntries.text, subjectsEntries.table]
    let headers := [Value.text "Subject", .null]
    let weights := [Value.float 120.0, .null]
    (es.get "elements").items? = some items ∧ (∀ v ∈ items, HasMetadata v) ∧
      weights.mapM (·.numberD 0.0) = .ok [120.0, 0.0] ∧ (∀ header ∈ headers, header.isWritable = true) ∧
      ∃ elements new, (Template.elements (.mapping es)).2 = .ok elements ∧
        withSubjectColumns (.mapping es) .null .null (.list headers) (.list weights) (.text "all") = .ok new ∧
        Template.elements new =
          ([], .ok (elements.map (Element.withColumns ["Subject", ""] [120.0, 0.0]))) ∧
        (elements.map fun e => (e.withColumns ["Subject", ""] [120.0, 0.0]).metadata.headers) =
          [[], ["Subject", ""]] := by
  intro es items headers weights
  have hmetadata : ∀ v ∈ items, HasMetadata v := by
    refine List.forall_mem_cons.2 ⟨⟨_, rfl, .inr rfl⟩, List.forall_mem_cons.2 ⟨⟨_, rfl, .inl ⟨_, rfl⟩⟩, by simp⟩⟩
  obtain ⟨elements, hread, hheaders⟩ := exists_ok_of_any (x := (Template.elements (.mapping es)).2)
    (p := fun elements => (elements.map fun e =>
      (e.withColumns ["Subject", ""] [120.0, 0.0]).metadata.headers) == [[], ["Subject", ""]]) (by decide +kernel)
  have hlisted (values : List Value) : (Value.list values).listed = .ok values := rfl
  have hwritable : ∀ header ∈ headers, header.isWritable = true := by decide +kernel
  obtain ⟨-, new, hnew, helements, -⟩ := withSubjectColumns_elements rfl rfl hmetadata hread (hlisted headers)
    (by decide) (hlisted weights) rfl .null .null (.text "all")
  obtain ⟨names, hnames, helements⟩ := helements hwritable
  have htexts : headerTexts headers = .ok ["Subject", ""] := rfl
  obtain rfl := Except.ok.inj (htexts.symm.trans hnames)
  exact ⟨rfl, hmetadata, rfl, hwritable, elements, new, hread, hnew, helements, by simpa using hheaders⟩

end Builtin

end ReportCard
