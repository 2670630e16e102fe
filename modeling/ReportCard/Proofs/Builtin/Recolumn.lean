import ReportCard.Builtin.Templates
import ReportCard.Proofs.Element.Reading
import ReportCard.Proofs.Page.Preparation
import ReportCard.Proofs.Record.Absence

/-!
# Templates with other subject columns

A template with other subject columns has the elements of the original, of which only the subjects tables are changed;
but it is made for the canvas of the A4 sheet, whatever canvas the original was made for.  So its other elements are
painted as those of the original where that is scaled from the width of the A4 canvas
(`renderBy_withSubjectColumns`).
-/

namespace ReportCard

theorem Entries.lookup_put (es : Entries) (key : String) (v : Value) (name : String) :
    (es.put key v).lookup name = if name = key then some v else es.lookup name := by
  unfold put
  split
  · rename_i hhas
    have halter : (es.map fun e => if e.1 == key then (key, v) else e) = es.alter key fun _ => v := by
      refine List.map_congr_left fun e _ => ?_
      by_cases h : e.1 = key <;> simp [h]
    obtain ⟨u, hu⟩ := Option.isSome_iff_exists.1 hhas
    rw [halter, lookup_alter]
    split
    · rename_i hname
      rw [hname, hu]
      rfl
    · rfl
  · rename_i hhas
    have hnone : es.lookup key = none := by
      cases h : es.lookup key with
      | none => rfl
      | some u => simp [has, h] at hhas
    rw [List.lookup_append]
    by_cases hname : name = key
    · simp [hname, hnone]
    · simp [hname, List.lookup_cons, beq_false_of_ne]

theorem Entries.get_put (es : Entries) (key : String) (v : Value) (name : String) :
    (es.put key v).get name = if name = key then v else es.get name := by
  rw [get, lookup_put]
  split
  · rfl
  · rfl

/-- The element is a table that lists subjects. -/
def Element.IsSubjectsTable {α : Type} (e : Element α) : Prop :=
  e.kind = some .table ∧ e.metadata.tableKind = some .subjects

/-- An element stands in the place of another one: of a subjects table one in the same box and style, and of any other
element itself. -/
structure Element.Recolumns {α : Type} (e e' : Element α) : Prop where
  other : ¬e.IsSubjectsTable → e' = e
  table : e.IsSubjectsTable → e'.IsSubjectsTable ∧ e'.box = e.box ∧ e'.style = e.style

/-- What is read of an element in which the metadata is written anew. -/
theorem Element.ofEntries_put_metadata {es : Entries} {e : Element Float} (h : ofEntries es = .ok e)
    (v : Value) :
    ofEntries (es.put "metadata" v) = (Metadata.ofValue v).map fun m => { e with metadata := m } := by
  have hbox : boxOfEntries (es.put "metadata" v) = boxOfEntries es := by
    simp [boxOfEntries, Entries.get_put]
  have hread := ofEntries_eq_ok_iff.1 h
  unfold ofEntries
  simp only [hbox, hread.box, hread.rawKind, hread.style, hread.content, hread.id, ← hread.kind, Entries.get_put,
    String.reduceEq, if_false, if_true, bind, Except.bind]
  cases Metadata.ofValue v <;> rfl

namespace Builtin

variable {headers widths item item' : Value}

/-- The columns can be read: their number, their headers and their weights. -/
def LegibleColumns (headers widths : Value) : Prop :=
  ∀ hs ws, headers.listed = .ok hs → widths.listed = .ok ws →
    (Value.int hs.length).IsCount ∧ (∀ header ∈ hs, header.isWritable = true) ∧ ∀ w ∈ ws, ¬Value.IsOversized w

/-- Metadata with other columns can be read if the columns can, and is for a table of the same kind. -/
private theorem ofValue_recolumnMetadata {metadata metadata' : Entries} {m : Metadata Float}
    (hm : Metadata.ofValue (.mapping metadata) = .ok m)
    (h : recolumnMetadata headers widths metadata = .ok metadata') :
    Reads (LegibleColumns headers widths) (Metadata.ofValue (.mapping metadata')) ∧
      ∀ m', Metadata.ofValue (.mapping metadata') = .ok m' → m'.tableKind = m.tableKind := by
  obtain ⟨hs, hlisted, h⟩ := bind_eq_ok_iff.1 h
  obtain ⟨ws, hwidths, h⟩ := bind_eq_ok_iff.1 h
  obtain rfl := Except.ok.inj h
  have hold := (Metadata.ofValue_reads _).exists_ok_iff.1 ⟨m, hm⟩ metadata rfl
  refine ⟨(Metadata.ofValue_reads _).congr ⟨fun hlegible => ?_, fun hcolumns => ?_⟩, fun m' hm' => ?_⟩
  · obtain ⟨hweights, -, hcols, -, hlists⟩ := hlegible _ rfl
    intro hs' ws' hlisted' hwidths'
    obtain rfl := Except.ok.inj (hlisted.symm.trans hlisted')
    obtain rfl := Except.ok.inj (hwidths.symm.trans hwidths')
    refine ⟨by simpa [Entries.get_put] using hcols, hlists "headers" (by simp) hs ?_, hweights ws ?_⟩ <;>
      simp [Entries.get_put, Value.items?]
  · obtain ⟨hcount, hwritten, hweights⟩ := hcolumns hs ws hlisted hwidths
    obtain ⟨-, hrows, -, hnames, hlists⟩ := hold
    rintro _ ⟨⟩
    -- only the headers, their number and the weights are written anew
    refine ⟨?_, ?_, ?_, ?_, ?_⟩
    · simpa [Entries.get_put, Value.items?] using hweights
    · simpa [Entries.get_put] using hrows
    · simpa [Entries.get_put] using hcount
    · simpa [Entries.Writable, Entries.get_put] using hnames
    · have hheaders : Metadata.WritableItems (.list hs) := by
        rintro _ ⟨⟩
        exact hwritten
      simp only [List.forall_mem_cons] at hlists
      simpa [Entries.get_put, hheaders] using hlists.2
  · rw [(Metadata.ofEntries_eq_ok_iff.1 hm').tableKind, (Metadata.ofEntries_eq_ok_iff.1 hm).tableKind]
    simp [Entries.get_put]

private theorem elementKind_eq_table (v : Value) : ElementKind.ofValue? v = some .table ↔ v.isText "table" = true :=
  Value.choose_eq_some_iff (by decide) (by decide) v

private theorem tableKind_eq_subjects (v : Value) :
    TableKind.ofValue? v = some .subjects ↔ v.isText "subjects" = true :=
  Value.choose_eq_some_iff (by decide) (by decide) v

/-- Metadata that does not count as given is for no kind of table, like empty metadata. -/
private theorem tableKind_of_orElse {v : Value} {m : Metadata Float} {metadata : Entries}
    (hm : Metadata.ofValue v = .ok m) (h : v.orElse (.mapping []) = .mapping metadata) :
    m.tableKind = TableKind.ofValue? (metadata.get "tableType") ∧
      (m.tableKind = some .subjects → v = .mapping metadata) := by
  unfold Value.orElse at h
  split at h
  · subst h
    exact ⟨(Metadata.ofEntries_eq_ok_iff.1 hm).tableKind, fun _ => rfl⟩
  · rename_i hfalsy
    obtain rfl : [] = metadata := Value.mapping.inj h
    have hnone : m.tableKind = none := by
      cases v with
      | mapping es =>
        obtain rfl : es = [] := by simpa [Value.isTruthy] using hfalsy
        exact (Metadata.ofEntries_eq_ok_iff.1 hm).tableKind
      | _ => rw [← Except.ok.inj hm]
    exact ⟨hnone, fun h => by simp [hnone] at h⟩

/-- An element is left as it is, or it is a subjects table and gets other metadata. -/
theorem recolumn_cases {e : Element Float} (h : recolumn headers widths item = .ok item')
    (he : Element.ofValue? item = .ok (some e)) :
    (¬e.IsSubjectsTable ∧ item' = item) ∨
      (e.IsSubjectsTable ∧ ∃ fields metadata metadata' : Entries, item = .mapping fields ∧
        fields.get "metadata" = .mapping metadata ∧ recolumnMetadata headers widths metadata = .ok metadata' ∧
        item' = .mapping (fields.put "metadata" (.mapping metadata'))) := by
  unfold recolumn at h
  split at h
  · rename_i fields
    obtain ⟨hkind, -, -, -, hm, -, -⟩ := Element.ofEntries_eq_ok_iff.1 (Element.ofEntries_of_ofValue? he)
    have htable := elementKind_eq_table (Entries.get fields "type")
    rw [← hkind] at htable
    dsimp only at h
    split at h
    · split at h
      · rename_i metadata hmetadata
        obtain ⟨htableKind, hgiven⟩ := tableKind_of_orElse hm hmetadata
        have hsubjects := tableKind_eq_subjects (Entries.get metadata "tableType")
        rw [← htableKind] at hsubjects
        split at h
        · rename_i htype _ hsubjects'
          have he : e.IsSubjectsTable := ⟨htable.2 htype, hsubjects.2 hsubjects'⟩
          obtain ⟨metadata', hmetadata', h⟩ := bind_eq_ok_iff.1 h
          exact .inr ⟨he, fields, metadata, metadata', rfl, hgiven he.2, hmetadata', (Except.ok.inj h).symm⟩
        · exact .inl ⟨fun he => by simp_all [Element.IsSubjectsTable], (Except.ok.inj h).symm⟩
      · cases h
    · exact .inl ⟨fun he => by simp_all [Element.IsSubjectsTable], (Except.ok.inj h).symm⟩
  · cases h

/-- An element with other columns can be read unless it is a subjects table and the columns cannot. -/
private theorem ofValue?_recolumn {e : Element Float} (h : recolumn headers widths item = .ok item')
    (he : Element.ofValue? item = .ok (some e)) :
    Reads (e.IsSubjectsTable → LegibleColumns headers widths) (Element.ofValue? item') ∧
      ∀ e?, Element.ofValue? item' = .ok e? → ∃ e', e? = some e' ∧ e.Recolumns e' := by
  rcases recolumn_cases h he with ⟨hother, rfl⟩ | ⟨hsubjects, fields, metadata, metadata', rfl, hget, hnew, rfl⟩
  · refine ⟨by rw [he]; exact fun h => absurd h hother, fun e? he? => ?_⟩
    exact ⟨e, Except.ok.inj (he?.symm.trans he), fun _ => rfl, fun h => absurd h hother⟩
  · have hread := Element.ofEntries_of_ofValue? he
    have hm := (Element.ofEntries_eq_ok_iff.1 hread).metadata
    rw [hget] at hm
    obtain ⟨hreads, hkind⟩ := ofValue_recolumnMetadata hm hnew
    rw [Element.ofValue?_mapping, Element.ofEntries_put_metadata hread]
    refine ⟨((hreads.map _).map _).congr ⟨fun h _ => h, fun h => h hsubjects⟩, fun e? he? => ?_⟩
    obtain ⟨_, he', rfl⟩ := map_eq_ok_iff.1 he?
    obtain ⟨m', hm', rfl⟩ := map_eq_ok_iff.1 he'
    refine ⟨_, rfl, fun h => absurd hsubjects h, fun _ => ⟨⟨hsubjects.1, ?_⟩, rfl, rfl⟩⟩
    exact (hkind m' hm').trans hsubjects.2

/-- Elements with other columns can be read unless there is a subjects table among them and the columns cannot. -/
private theorem mapM_recolumn {items items' : List Value} {elements : List (Element Float)}
    (h : List.Forall₂ (fun v v' => recolumn headers widths v = .ok v') items items')
    (he : List.Forall₂ (fun v e => Element.ofValue? v = .ok (some e)) items elements) :
    Reads (∀ e ∈ elements, e.IsSubjectsTable → LegibleColumns headers widths) (items'.mapM Element.ofValue?) ∧
      ∀ es?, items'.mapM Element.ofValue? = .ok es? → List.Forall₂ Element.Recolumns elements (es?.filterMap id) := by
  induction h generalizing elements with
  | nil =>
    cases he
    rw [List.mapM_nil]
    refine ⟨fun e he => absurd he List.not_mem_nil, fun es? hes? => ?_⟩
    obtain rfl : [] = es? := Except.ok.inj hes?
    exact .nil
  | @cons v v' items items' hv _ ih =>
    cases he with
    | @cons _ e _ elements hve hrest =>
      obtain ⟨hreads, hpart⟩ := ofValue?_recolumn hv hve
      obtain ⟨hreads', hparts⟩ := ih hrest
      rw [List.mapM_cons]
      refine ⟨(hreads.bind fun _ _ => hreads'.bind_pure _).congr ?_, fun es? hes? => ?_⟩
      · exact (List.forall_mem_cons (p := fun e : Element Float =>
          e.IsSubjectsTable → LegibleColumns headers widths)).symm
      obtain ⟨e?, he?, hes?⟩ := bind_eq_ok_iff.1 hes?
      obtain ⟨es', hes', hes?⟩ := bind_eq_ok_iff.1 hes?
      obtain rfl := Except.ok.inj hes?
      obtain ⟨e', rfl, hrecolumns⟩ := hpart _ he?
      exact .cons hrecolumns (hparts es' hes')

/-! ### The new template -/

/-- The entries of a template on the canvas of the A4 sheet. -/
private def sheetEntries (name description level elements : Value) : Entries :=
  [("name", name), ("description", description), ("level", level), ("canvasSize", a4Canvas), ("elements", elements)]

private theorem canvasSize_template (name description level elements : Value) :
    Template.canvasSize (template name description level elements) = .ok (some ⟨794, 1123⟩) := by
  have hsides : floatOfInt 794 = .ok 794 ∧ floatOfInt 1123 = .ok 1123 := by
    unfold floatOfInt
    rw [if_neg (by decide +kernel), if_neg (by decide +kernel)]
    exact ⟨rfl, rfl⟩
  have hwidth : (Entries.get [("width", .int 794), ("height", .int 1123)] "width").number? = .ok (some 794) := by
    show (floatOfInt 794).map some = _
    rw [hsides.1]
    rfl
  have hheight : (Entries.get [("width", .int 794), ("height", .int 1123)] "height").number? = .ok (some 1123) := by
    show (floatOfInt 1123).map some = _
    rw [hsides.2]
    rfl
  have hpos : (0.0 : Float) < 794 ∧ (0.0 : Float) < 1123 := by decide +kernel
  have hsize : Template.sizeAt (sheetEntries name description level elements) = .ok (some ⟨794, 1123⟩) :=
    Template.sizeAt_eq_some_iff.2 (.canvas rfl hwidth hheight hpos)
  have hentries : Template.entries (template name description level elements) =
      .ok (sheetEntries name description level elements) :=
    rfl
  have hbody : Template.body (sheetEntries name description level elements) =
      sheetEntries name description level elements :=
    rfl
  simp only [Template.canvasSize, hentries, hbody, hsize, bind, Except.bind]
  rfl

/-- Only mappings can get other columns. -/
private theorem forall_exists_fields {items items' : List Value}
    (h : List.Forall₂ (fun v v' => recolumn headers widths v = .ok v') items items') :
    ∀ v ∈ items, ∃ fields, v = .mapping fields := by
  induction h with
  | nil => simp
  | @cons v v' _ _ hv _ ih =>
    refine List.forall_mem_cons.2 ⟨?_, ih⟩
    cases v with
    | mapping fields => exact ⟨fields, rfl⟩
    | _ => cases hv

private theorem forall₂_of_recolumnAll {elements elements' : Value}
    (h : recolumnAll headers widths elements = .ok elements') :
    List.Forall₂ (fun v v' => recolumn headers widths v = .ok v') (elements.items?.getD [])
      (elements'.items?.getD []) := by
  unfold recolumnAll at h
  split at h
  · obtain ⟨items', hitems, rfl⟩ := map_eq_ok_iff.1 h
    exact mapM_eq_ok_iff.1 hitems
  · obtain ⟨items', hitems, rfl⟩ := map_eq_ok_iff.1 h
    exact mapM_eq_ok_iff.1 hitems
  · obtain rfl := Except.ok.inj h
    exact .nil
  · obtain rfl := Except.ok.inj h
    exact .nil
  all_goals cases h

/-- The items of the new template are those of the original with other columns. -/
private theorem exists_items {es : Entries} {name description level new : Value} (hbare : Template.body es = es)
    (hnew : withSubjectColumns (.mapping es) name description headers widths level = .ok new) :
    ∃ elements, new = template name description level elements ∧
      List.Forall₂ (fun v v' => recolumn headers widths v = .ok v') (Template.items (.mapping es))
        (elements.items?.getD []) := by
  unfold withSubjectColumns at hnew
  dsimp only at hnew
  cases hlookup : es.lookup "elements" with
  | none => simp [hlookup] at hnew
  | some elements =>
    have hitems : Template.items (.mapping es) = elements.items?.getD [] := by
      simp [Template.items, Value.entries?, hbare, Entries.get, hlookup]
    simp only [hlookup] at hnew
    obtain ⟨elements', hall, rfl⟩ := map_eq_ok_iff.1 hnew
    rw [hitems]
    exact ⟨elements', rfl, forall₂_of_recolumnAll hall⟩

/-- The elements of the new template stand in the places of those of the original. -/
private theorem elements_withSubjectColumns {es : Entries} {name description level new : Value}
    {elements : List (Element Float)} (hbare : Template.body es = es)
    (hnew : withSubjectColumns (.mapping es) name description headers widths level = .ok new)
    (hread : (Template.elements (.mapping es)).2 = .ok elements) :
    Reads (∀ e ∈ elements, e.IsSubjectsTable → LegibleColumns headers widths) (Template.elements new).2 ∧
      ∀ elements', (Template.elements new).2 = .ok elements' → List.Forall₂ Element.Recolumns elements elements' := by
  rw [Template.elements_snd_eq_mapM] at hread
  obtain ⟨es?, hes, rfl⟩ := map_eq_ok_iff.1 hread
  obtain ⟨elements', rfl, hitems⟩ := exists_items hbare hnew
  have hmappings := forall_exists_fields hitems
  obtain ⟨hreads, hparts⟩ := mapM_recolumn hitems (Template.forall₂_of_mapM hmappings hes)
  have hnew : (Template.elements (template name description level elements')).2 =
      ((elements'.items?.getD []).mapM Element.ofValue?).map (·.filterMap id) :=
    Template.elements_snd_eq_mapM _
  rw [hnew]
  refine ⟨hreads.map _, fun elements hread => ?_⟩
  obtain ⟨es?', hes', rfl⟩ := map_eq_ok_iff.1 hread
  exact hparts es?' hes'

private theorem canvasSize_withSubjectColumns {es : Entries} {name description level new : Value}
    (hbare : Template.body es = es)
    (hnew : withSubjectColumns (.mapping es) name description headers widths level = .ok new) :
    Template.canvasSize new = .ok (some ⟨794, 1123⟩) := by
  obtain ⟨elements', rfl, -⟩ := exists_items hbare hnew
  exact canvasSize_template ..

end Builtin

/-! ### Rendering -/

/-- A page is scaled from the width that its template is designed for. -/
theorem Scaler.eq_of_forPage {settings : Settings} {pageWidth : Float} {template : Value} {canvas : Option (Size Float)}
    {s : Scaler Float} (hcanvas : Template.canvasSize template = .ok canvas)
    (hs : forPage settings (.float pageWidth) (canvas.map fun c => .float c.width) = .ok s) :
    ∃ width, Template.reference settings template = .ok width ∧ s = ⟨pageWidth, width⟩ := by
  cases canvas with
  | some c =>
    have hscaler := forPage_of_canvasSize hcanvas settings pageWidth
    refine ⟨c.width, by simp [Template.reference, hcanvas, bind, Except.bind, pure, Except.pure], ?_⟩
    exact Except.ok.inj (hs.symm.trans hscaler)
  | none =>
    obtain ⟨width, href, hs⟩ := bind_eq_ok_iff.1 hs
    refine ⟨width, by simp [Template.reference, hcanvas, href, bind, Except.bind], ?_⟩
    simp only [ofValues, Value.isNonpositive, Value.asFloat, bind, Except.bind] at hs
    split at hs
    · cases hs
    · split at hs
      · cases hs
      · exact (Except.ok.inj hs).symm

/-- The image elements are kept, in their order. -/
private theorem Page.images_recolumns {elements elements' : List (Element Float)}
    (h : List.Forall₂ Element.Recolumns elements elements') :
    elements'.filter (·.kind == some .image) = elements.filter (·.kind == some .image) := by
  induction h with
  | nil => rfl
  | @cons e e' _ _ he _ ih =>
    by_cases hsubjects : e.IsSubjectsTable
    · have hkind : e'.kind = some .table := (he.table hsubjects).1.1
      simpa [List.filter_cons, hkind, hsubjects.1] using ih
    · rw [he.other hsubjects, List.filter_cons, List.filter_cons, ih]

section Render

variable {settings : Settings} {retrieval : Except Fault Retrieval} {size : Size Float} {r : Record}
  {start : Recording Float} {es : Entries} {name description headers widths level new : Value}

/-- A template with other subject columns is rendered where the original is, unless there is a subjects table and the
columns cannot be read.  Its elements stand in the places of those of the original, with the same images, and are
scaled from the width of the A4 canvas.  So where the original is scaled from that width too, each of its elements but
the subjects tables is drawn in the same way. -/
theorem renderBy_withSubjectColumns (hbare : Template.body es = es)
    (hnew : Builtin.withSubjectColumns (.mapping es) name description headers widths level = .ok new)
    (hreturns : (renderBy settings retrieval (Recording.accepting size) (.mapping es) r start).fault = none) :
    let render := fun template => renderBy settings retrieval (Recording.accepting size) template r start
    ∃ (width : Float) (elements : List (Element Float)) (images : Images),
      let draw := Page.drawings r images ⟨size.width, width⟩
      let draw' := Page.drawings r images ⟨size.width, 794⟩
      Template.reference settings (.mapping es) = .ok width ∧
        (Template.elements (.mapping es)).2 = .ok elements ∧
        (render (.mapping es)).state = start ++ (elements.flatMap draw).toArray ∧
        ((render new).fault = none ↔ ∀ e ∈ elements, e.IsSubjectsTable → Builtin.LegibleColumns headers widths) ∧
        ((render new).fault = none → ∃ elements', (render new).state = start ++ (elements'.flatMap draw').toArray ∧
          List.Forall₂ Element.Recolumns elements elements' ∧
          (width = 794 → List.Forall₂ (fun e e' => ¬e.IsSubjectsTable → draw' e' = draw e) elements elements')) := by
  intro render
  obtain ⟨elements, s, haul, hprepared⟩ := exists_prepared hreturns
  obtain ⟨hread, ⟨canvas, hcanvas, hscaler⟩, hsources, retrieve, rfl, rfl⟩ := prepareBy_snd_eq_ok.1 hprepared
  obtain ⟨width, hwidth, rfl⟩ := Scaler.eq_of_forPage hcanvas hscaler
  obtain ⟨hreads, hparts⟩ := Builtin.elements_withSubjectColumns hbare hnew hread
  have hcanvas' := Builtin.canvasSize_withSubjectColumns hbare hnew
  refine ⟨width, elements, (Fetcher.haulBy retrieve (Page.sourceTexts r elements)).images, hwidth, hread,
    (renderBy_of_ok hprepared start).2, ?_⟩
  cases hread' : (Template.elements new).2 with
  | error fault =>
    rw [hread'] at hreads
    have hfault : (render new).fault = some fault :=
      (renderBy_of_error (Recording.accepting size) (prepareBy_of_error hread') start).1
    refine ⟨⟨fun h => ?_, fun h => absurd h hreads.1⟩, fun h => ?_⟩
    · exact absurd (hfault.symm.trans h) (Option.some_ne_none fault)
    · exact absurd (hfault.symm.trans h) (Option.some_ne_none fault)
  | ok elements' =>
    rw [hread'] at hreads
    have hrecolumns := hparts elements' hread'
    have hprepared' : (prepareBy settings (.ok retrieve) size.width new r).2 =
        .ok (elements', ⟨size.width, 794⟩, Fetcher.haulBy retrieve (Page.sourceTexts r elements)) := by
      have himages := Page.images_recolumns hrecolumns
      rw [← Page.sourceTexts_congr r himages]
      exact prepareBy_snd_eq_ok.2 ⟨hread', ⟨_, hcanvas', Scaler.forPage_of_canvasSize hcanvas' settings _⟩,
        hsources.congr himages, _, rfl, rfl⟩
    obtain ⟨hfault, hstate⟩ := renderBy_of_ok hprepared' start
    refine ⟨⟨fun _ => hreads, fun _ => hfault⟩, fun _ => ⟨elements', hstate, hrecolumns, ?_⟩⟩
    rintro rfl
    exact hrecolumns.imp fun e e' he hother => by rw [he.other hother]

end Render

/-- A template of a text and a subjects table, on a canvas of a width. -/
def subjectsEntries (width : Int) : Entries :=
  [("canvasSize", .mapping [("width", .int width), ("height", .int 1123)]), ("elements", .list [text, table])]
where
  text : Value := .mapping [("type", .text "text"), ("x", .int 10), ("width", .int 100), ("content", .text "Report")]
  table : Value := .mapping [("type", .text "table"), ("metadata", .mapping [("tableType", .text "subjects"),
    ("rows", .int 1)])]

/-- The template with two columns in the subjects table. -/
def recolumnedEntries (width : Int) : Except Fault Value :=
  Builtin.withSubjectColumns (.mapping (subjectsEntries width)) .null .null (.list [.text "Subject", .text "Total"])
    (.list [.int 2, .int 1]) (.text "all")

/-- What is left of a template on a page as wide as the sheet, without images. -/
def renderOnSheet (template : Value) : Rendering (Recording Float) :=
  renderBy {} (.ok fun _ => ([], .failed "")) (Recording.accepting ⟨794, 1123⟩) template {} #[]

/-- The left edges of the texts among drawings. -/
def textEdges (ds : List (Drawing Float)) : List Float :=
  ds.filterMap fun d => match d with
    | .textBox _ x .. => some x
    | _ => none

/-- On the canvas of the sheet, the text stays where it is. -/
theorem renderBy_withSubjectColumns_sheet :
    Template.body (subjectsEntries 794) = subjectsEntries 794 ∧ ∃ new, recolumnedEntries 794 = .ok new ∧
      (renderOnSheet (.mapping (subjectsEntries 794))).fault = none ∧ (renderOnSheet new).fault = none ∧
      ∃ elements elements' images, let draw := Page.drawings {} images ⟨794, 794⟩
        (renderOnSheet (.mapping (subjectsEntries 794))).state = #[] ++ (elements.flatMap draw).toArray ∧
        (renderOnSheet new).state = #[] ++ (elements'.flatMap draw).toArray ∧
        List.Forall₂ (fun e e' => ¬e.IsSubjectsTable → draw e' = draw e) elements elements' := by
  have hreturns : (renderOnSheet (.mapping (subjectsEntries 794))).fault = none := by decide +kernel
  have hwidth : (Template.reference {} (.mapping (subjectsEntries 794))).toOption = some 794 := by decide +kernel
  have hreturns' : ((recolumnedEntries 794).map fun new => (renderOnSheet new).fault).toOption = some none := by
    decide +kernel
  obtain ⟨new, hnew⟩ : ∃ new, recolumnedEntries 794 = .ok new := ⟨_, rfl⟩
  have hreturns' : (renderOnSheet new).fault = none := by
    rw [hnew] at hreturns'
    exact Option.some.inj hreturns'
  obtain ⟨width, elements, images, hwidth', -, hstate, -, hrecolumned⟩ := renderBy_withSubjectColumns rfl hnew hreturns
  obtain ⟨elements', hstate', -, hdraw⟩ := hrecolumned hreturns'
  obtain rfl : width = 794 := by
    rw [hwidth'] at hwidth
    exact Option.some.inj hwidth
  exact ⟨rfl, new, hnew, hreturns, hreturns', elements, elements', images, hstate, hstate', hdraw rfl⟩

/-- On a canvas of twice the width, the text moves when the columns of the table are changed. -/
theorem renderBy_withSubjectColumns_moves_text :
    textEdges (renderOnSheet (.mapping (subjectsEntries 1588))).state.toList = [5] ∧
      ∃ new, recolumnedEntries 1588 = .ok new ∧ textEdges (renderOnSheet new).state.toList = [10] :=
  ⟨by decide +kernel, _, rfl, by decide +kernel⟩

end ReportCard
