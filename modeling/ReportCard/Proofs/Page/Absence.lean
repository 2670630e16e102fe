import ReportCard.Proofs.Page.Preparation
import ReportCard.Proofs.Table.Naming

/-!
# Null entries of templates

A null in an element of a template, in its style or in its metadata says the same as a missing entry, with one
exception: a table of ratings whose own list of names is null does not fall back on the other list, and stays empty
where without the null it is filled from there (`renderBy_without_iff`).
-/

namespace ReportCard

namespace Template

/-! ### The items of a template -/

/-- The path to the mapping that holds the elements. -/
def bodyPath (es : Entries) : List Key :=
  match (es.get "content").entries? with
  | some inner => if inner.has "elements" then [.name "content"] else []
  | none => []

/-- The path to an item. -/
def itemPath (es : Entries) (i : Nat) : List Key := bodyPath es ++ [.name "elements", .index i]

/-- The items at a layer of a template. -/
private def itemsAt (es : Entries) : List Value := (es.get "elements").items?.getD []

/-- A layer of a template has an item changed, and is otherwise the same. -/
private structure LayerAltered (f : Value → Value) (i : Nat) (es es' : Entries) : Prop where
  items : itemsAt es' = (itemsAt es).modify i f
  has : es'.has "elements" = true
  get : ∀ name ≠ "elements", es'.get name = es.get name

private theorem layerAltered {es : Entries} {i : Nat} {item : Value} (f : Value → Value)
    (h : (Value.mapping es).at? [.name "elements", .index i] = some item) :
    (itemsAt es)[i]? = some item ∧ LayerAltered f i es (es.alter "elements" (Value.alterAt f [.index i])) := by
  obtain ⟨_, u, ⟨⟩, hu, hitem⟩ := Value.at?_name h
  obtain ⟨items, v, hitems, hv, ⟨⟩, hitems'⟩ := Value.at?_index hitem f
  have hget : es.get "elements" = u := by
    rw [Entries.get, hu]
    rfl
  have hget' := Entries.get_alter hu (Value.alterAt f [.index i])
  refine ⟨?_, ?_, ?_, ?_⟩
  · rw [itemsAt, hget, hitems]
    exact hv
  · rw [itemsAt, itemsAt, hget' "elements", if_pos rfl, hget, hitems, hitems']
    rfl
  · simp [Entries.has, Entries.lookup_alter, hu]
  · exact fun name hname => (hget' name).trans (if_neg hname)

/-- A template is no wrapper, whatever else it holds, or its body is the content of it. -/
private theorem body_cases (es : Entries) :
    (bodyPath es = [] ∧ ∀ es' : Entries, es'.get "content" = es.get "content" → body es' = es') ∨
      ∃ inner : Entries, es.get "content" = .mapping inner ∧ body es = inner ∧ bodyPath es = [.name "content"] := by
  cases hcontent : es.get "content" with
  | mapping inner =>
    cases hhas : Entries.has inner "elements" with
    | true => exact .inr ⟨inner, rfl, by simp [body, hcontent, Value.entries?, hhas], by
        simp [bodyPath, hcontent, Value.entries?, hhas]⟩
    | false =>
      refine .inl ⟨by simp [bodyPath, hcontent, Value.entries?, hhas], fun es' hes' => ?_⟩
      simp [body, hes', Value.entries?, hhas]
  | _ => exact .inl ⟨by simp [bodyPath, hcontent, Value.entries?], fun es' hes' => by simp [body, hes', Value.entries?]⟩

private theorem items_mapping (es : Entries) : items (.mapping es) = itemsAt (body es) := rfl

private theorem canvasSize_congr {es es' : Entries}
    (hbody : (body es').get "canvasSize" = (body es).get "canvasSize")
    (hwrapper : es'.get "canvasSize" = es.get "canvasSize") :
    canvasSize (.mapping es') = canvasSize (.mapping es) := by
  have hsize : sizeAt (body es') = sizeAt (body es) ∧ sizeAt es' = sizeAt es :=
    ⟨by simp only [sizeAt, hbody], by simp only [sizeAt, hwrapper]⟩
  simp only [canvasSize, entries, Value.entries?, bind, Except.bind, hsize]

/-- Where an item is changed, a template has the changed item in its place, and the same canvas. -/
theorem alterAt_itemPath {es : Entries} {i : Nat} {item : Value} (f : Value → Value)
    (h : (Value.mapping es).at? (itemPath es i) = some item) :
    ∃ es', (Value.mapping es).alterAt f (itemPath es i) = .mapping es' ∧
      canvasSize (.mapping es') = canvasSize (.mapping es) ∧ (items (.mapping es))[i]? = some item ∧
      items (.mapping es') = (items (.mapping es)).modify i f := by
  rcases body_cases es with ⟨hpath, hbody⟩ | ⟨inner, hcontent, hbody, hpath⟩
  · rw [itemPath, hpath, List.nil_append] at h ⊢
    obtain ⟨hitem, hlayer⟩ := layerAltered f h
    have hold := hbody es rfl
    have hnew := hbody _ (hlayer.get "content" (by decide))
    refine ⟨_, rfl, canvasSize_congr ?_ (hlayer.get _ (by decide)), ?_, ?_⟩
    · rw [hold, hnew]
      exact hlayer.get _ (by decide)
    · rw [items_mapping, hold]
      exact hitem
    · rw [items_mapping, items_mapping, hold, hnew]
      exact hlayer.items
  · rw [itemPath, hpath, List.singleton_append] at h ⊢
    obtain ⟨_, u, ⟨⟩, hu, hinner⟩ := Value.at?_name h
    obtain rfl : u = .mapping inner := by
      rw [← hcontent, Entries.get, hu]
      rfl
    obtain ⟨hitem, hlayer⟩ := layerAltered f hinner
    have hget := Entries.get_alter hu (Value.alterAt f [.name "elements", .index i])
    have hnew : body (es.alter "content" (Value.alterAt f [.name "elements", .index i])) =
        Entries.alter inner "elements" (Value.alterAt f [.index i]) := by
      rw [body, hget, if_pos rfl]
      exact if_pos hlayer.has
    refine ⟨_, rfl, canvasSize_congr ?_ ((hget _).trans (if_neg (by decide))), ?_, ?_⟩
    · rw [hbody, hnew]
      exact hlayer.get _ (by decide)
    · rw [items_mapping, hbody]
      exact hitem
    · rw [items_mapping, items_mapping, hbody, hnew]
      exact hlayer.items

/-- Where one of the items is read to another element, so are the items. -/
private theorem read_congr {f : Element Float → Element Float} {item item' : Value}
    (h : Element.ofValue? item' = (Element.ofValue? item).map (·.map f)) (before after : List Value) :
    let read := fun vs : List Value => (vs.mapM Element.ofValue?).map (·.filterMap id)
    (∃ fault, read (before ++ item :: after) = .error fault ∧ read (before ++ item' :: after) = .error fault) ∨
      ∃ (es : List (Element Float)) (e? : Option (Element Float)) (es' : List (Element Float)),
        Element.ofValue? item = .ok e? ∧ read (before ++ item :: after) = .ok (es ++ (e?.toList ++ es')) ∧
        read (before ++ item' :: after) = .ok (es ++ ((e?.map f).toList ++ es')) := by
  intro read
  simp only [read, List.mapM_append, List.mapM_cons, h, bind, Except.bind]
  cases before.mapM Element.ofValue? with
  | error fault => exact .inl ⟨fault, rfl, rfl⟩
  | ok bs =>
    cases Element.ofValue? item with
    | error fault => exact .inl ⟨fault, rfl, rfl⟩
    | ok e? =>
      cases after.mapM Element.ofValue? with
      | error fault => exact .inl ⟨fault, rfl, rfl⟩
      | ok as =>
        refine .inr ⟨bs.filterMap id, e?, as.filterMap id, rfl, ?_, ?_⟩ <;>
          cases e? <;> simp [Except.map, pure, Except.pure, List.filterMap_append]

end Template

/-- No element but a table looks at lists of names. -/
private theorem Element.paint_unlist {α : Type} [Scalar α] (e : Element α) (h : e.kind ≠ some .table) (key : String)
    (r : Record) (images : Images) (scale : α) : (e.unlist key).paint r images scale = e.paint r images scale := by
  unfold paint
  rw [show (e.unlist key).kind = e.kind from rfl]
  cases hkind : e.kind with
  | none => rfl
  | some kind =>
    cases kind with
    | table => exact absurd hkind h
    | _ => rfl

/-! ### Preparing -/

section Render

variable {settings : Settings} {retrieval : Except Fault Retrieval} {width : Float} {r : Record}

/-- Templates with the same canvas and elements with the same sources are prepared alike. -/
private theorem prepareBy_congr {t t' : Value} {es es' : List (Element Float)}
    (hcanvas : Template.canvasSize t' = Template.canvasSize t) (hes : (Template.elements t).2 = .ok es)
    (hes' : (Template.elements t').2 = .ok es') (hsources : Page.sources r es' = Page.sources r es) :
    (∃ fault, (prepareBy settings retrieval width t r).2 = .error fault ∧
        (prepareBy settings retrieval width t' r).2 = .error fault) ∨
      ∃ s haul, (prepareBy settings retrieval width t r).2 = .ok (es, s, haul) ∧
        (prepareBy settings retrieval width t' r).2 = .ok (es', s, haul) := by
  simp only [prepareBy, hes, hes', hcanvas, bind, Except.bind]
  cases Template.canvasSize t with
  | error fault => exact .inl ⟨fault, rfl, rfl⟩
  | ok canvas =>
    cases hs : Scaler.forPage settings (.float width) (canvas.map fun c => .float c.width) with
    | error fault => exact .inl ⟨fault, by simp [hs], by simp [hs]⟩
    | ok s =>
      simp only [hs, hsources]
      cases Page.sources r es with
      | error fault => exact .inl ⟨fault, rfl, rfl⟩
      | ok sources =>
        cases retrieval with
        | error fault => exact .inl ⟨fault, rfl, rfl⟩
        | ok retrieve => exact .inr ⟨s, Fetcher.haulBy retrieve sources, rfl, rfl⟩

/-- An element takes the place of another one with the same source. -/
private structure SameSource (f : Element Float → Element Float) : Prop where
  kind : ∀ e, (f e).kind = e.kind
  field : ∀ e, (f e).metadata.field = e.metadata.field

private theorem SameSource.sources_eq {f : Element Float → Element Float} (hf : SameSource f)
    (e? : Option (Element Float)) (before after : List (Element Float)) :
    Page.sources r (before ++ ((e?.map f).toList ++ after)) = Page.sources r (before ++ (e?.toList ++ after)) := by
  cases e? with
  | none => rfl
  | some e => cases h : e.kind == some .image <;> simp [Page.sources, hf.kind, hf.field, h]

section Item

variable (settings retrieval r)
variable {es : Entries} {i : Nat} {item : Value} {change : Value → Value} {f : Element Float → Element Float}

/-- Where an item is read to another element with the same source, only that element is prepared differently. -/
private theorem prepareBy_alterAt (width : Float) (hitem : (Value.mapping es).at? (Template.itemPath es i) = some item)
    (hread : Element.ofValue? (change item) = (Element.ofValue? item).map (·.map f)) (hf : SameSource f) :
    let prepare := fun template => (prepareBy settings retrieval width template r).2
    let template' := (Value.mapping es).alterAt change (Template.itemPath es i)
    (∃ fault, prepare (.mapping es) = .error fault ∧ prepare template' = .error fault) ∨
      ∃ before e? after s haul, Element.ofValue? item = .ok e? ∧
        prepare (.mapping es) = .ok (before ++ (e?.toList ++ after), s, haul) ∧
        prepare template' = .ok (before ++ ((e?.map f).toList ++ after), s, haul) := by
  intro prepare template'
  obtain ⟨es', htemplate', hcanvas, hget, hitems⟩ := Template.alterAt_itemPath change hitem
  obtain ⟨hi, hget⟩ := List.getElem?_eq_some_iff.1 hget
  obtain ⟨before, v, after, hbefore, hlength, hafter⟩ := List.exists_of_modify change hi
  obtain rfl : v = item := by simpa [hbefore, ← hlength] using hget
  have hold := Template.elements_snd_eq_mapM es
  have hnew := Template.elements_snd_eq_mapM es'
  rw [hbefore] at hold
  rw [hitems, hafter] at hnew
  simp only [template', htemplate']
  rcases Template.read_congr hread before after with ⟨fault, h, h'⟩ | ⟨bs, e?, as, he, h, h'⟩
  · exact .inl ⟨fault, prepareBy_of_error (hold.trans h), prepareBy_of_error (hnew.trans h')⟩
  · rcases prepareBy_congr hcanvas (hold.trans h) (hnew.trans h') (hf.sources_eq e? bs as) with hstop | hprepared
    · exact .inl hstop
    · obtain ⟨s, haul, h, h'⟩ := hprepared
      exact .inr ⟨bs, e?, as, s, haul, he, h, h'⟩

private theorem append_toArray_inj {A : Type} {start : Array A} {l l' : List A} :
    start ++ l.toArray = start ++ l'.toArray ↔ l = l' := by
  refine ⟨fun h => ?_, fun h => h ▸ rfl⟩
  simpa using congrArg Array.toList h

/-- Where an item is read to another element with the same source, rendering stops for the same reason, or else leaves
the same exactly if that element is drawn in the same way. -/
private theorem renderBy_alterAt (size : Size Float) (start : Recording Float)
    (hitem : (Value.mapping es).at? (Template.itemPath es i) = some item)
    (hread : Element.ofValue? (change item) = (Element.ofValue? item).map (·.map f)) (hf : SameSource f) :
    let render := fun template => renderBy settings retrieval (Recording.accepting size) template r start
    let template' := (Value.mapping es).alterAt change (Template.itemPath es i)
    (∃ fault, (render (.mapping es)).fault = some fault ∧ (render template').fault = some fault ∧
        (render template').state = (render (.mapping es)).state) ∨
      ∃ e? images s, Element.ofValue? item = .ok e? ∧ (render (.mapping es)).fault = none ∧
        (render template').fault = none ∧ ((render template').state = (render (.mapping es)).state ↔
          ∀ e ∈ e?, Page.drawings r images s (f e) = Page.drawings r images s e) := by
  intro render template'
  rcases prepareBy_alterAt settings retrieval r size.width hitem hread hf with
    ⟨fault, h, h'⟩ | ⟨before, e?, after, s, haul, he, h, h'⟩
  · obtain ⟨hfault, hstate⟩ := renderBy_of_error (Recording.accepting size) h start
    obtain ⟨hfault', hstate'⟩ := renderBy_of_error (Recording.accepting size) h' start
    exact .inl ⟨fault, hfault, hfault', hstate'.trans hstate.symm⟩
  · obtain ⟨hfault, hstate⟩ := renderBy_of_ok h start
    obtain ⟨hfault', hstate'⟩ := renderBy_of_ok h' start
    refine .inr ⟨e?, haul.images, s, he, hfault, hfault', ?_⟩
    simp only [render, template', hstate, hstate', append_toArray_inj]
    cases e? <;> simp

end Item

section Unlist

variable {images : Images} {s : Scaler Float} {e : Element Float} {key : String}

private theorem drawings_of_table (hkind : e.kind = some .table) :
    Page.drawings r images s e = (Table.paint (s.apply e) r s.factor).actions := by
  simp [Page.drawings, Element.paint, Scaler.apply, hkind]

/-- Without an empty list of names an element is drawn in the same way, unless it is a table that prefers that list and
may have a text to show then. -/
private theorem drawings_unlist (h : e.HasNoNames key)
    (hshown : ¬(e.kind = some .table ∧ Table.ShowsNames key (e.unlist key).metadata r)) :
    Page.drawings r images s (e.unlist key) = Page.drawings r images s e := by
  by_cases hkind : e.kind = some .table
  · have hshown : ¬Table.ShowsNames key ((s.apply e).unlist key).metadata r := fun hnames => hshown ⟨hkind, hnames⟩
    rw [drawings_of_table hkind, drawings_of_table (e := e.unlist key) hkind]
    exact Table.actions_paint_unlist (e := s.apply e) h hshown s.factor
  · exact congrArg Script.actions ((s.apply e).paint_unlist hkind key r images s.factor)

/-- A table whose cells can all be written is not drawn in the same way if it has a text to show from the other list. -/
private theorem drawings_unlist_ne (h : e.HasNoNames key) (hkind : e.kind = some .table)
    (hlong : ¬Table.IsOverlong (e.unlist key).metadata r) (hnames : Table.ShowsNames key (e.unlist key).metadata r) :
    Page.drawings r images s (e.unlist key) ≠ Page.drawings r images s e := by
  have hlong : ¬Table.IsOverlong ((s.apply e).unlist key).metadata r :=
    fun h => hlong ((Table.isOverlong_columnWidths _ _).1 h)
  rw [drawings_of_table hkind, drawings_of_table (e := e.unlist key) hkind]
  exact Table.actions_paint_unlist_ne (e := s.apply e) h hlong hnames s.factor

end Unlist

/-- Rendering a template does not change where a null is left out of an element or of its style. -/
private theorem renderBy_without_of_ne {es fields : Entries} {i : Nat} {item : Value} {part : ElementPart}
    {key : String} {size : Size Float} {start : Recording Float}
    (hitem : (Value.mapping es).at? (Template.itemPath es i) = some item)
    (hpart : item.at? part.path = some (.mapping fields)) (hnull : fields.lookup key = some .null)
    (hne : part ≠ .metadata) :
    let render := fun template => renderBy settings retrieval (Recording.accepting size) template r start
    let template' := (Value.mapping es).alterAt (Value.alterAt (·.without key) part.path) (Template.itemPath es i)
    (render template').fault = (render (.mapping es)).fault ∧
      (render template').state = (render (.mapping es)).state := by
  intro render template'
  have hread : Element.ofValue? (item.alterAt (·.without key) part.path) =
      (Element.ofValue? item).map (·.map id) := by
    rw [Element.ofValue?_without_of_ne hpart hnull hne]
    cases Element.ofValue? item <;> simp [Except.map]
  rcases renderBy_alterAt settings retrieval r size start hitem hread ⟨fun _ => rfl, fun _ => rfl⟩ with
    ⟨fault, h, h', hsame⟩ | ⟨e?, images, s, -, h, h', hiff⟩
  · exact ⟨h'.trans h.symm, hsame⟩
  · exact ⟨h'.trans h.symm, hiff.2 fun _ _ => rfl⟩

/-- Rendering a template does not change where a null is left out of an element, of its style or of its metadata, unless
the null stands for the list of names that a table prefers, and without it the table may have a text to show from the
other list.  Then it does change, if the cells of that table can all be written.  Whether rendering stops, and at which
fault, never changes. -/
theorem renderBy_without_iff {es fields : Entries} {i : Nat} {item : Value} {part : ElementPart} {key : String}
    {size : Size Float} {start : Recording Float}
    (hitem : (Value.mapping es).at? (Template.itemPath es i) = some item)
    (hpart : item.at? part.path = some (.mapping fields)) (hnull : fields.lookup key = some .null) :
    let render := fun template => renderBy settings retrieval (Recording.accepting size) template r start
    let item' := item.alterAt (·.without key) part.path
    let template' := (Value.mapping es).alterAt (Value.alterAt (·.without key) part.path) (Template.itemPath es i)
    let isShown := (render (.mapping es)).fault = none ∧ part = .metadata ∧
      ∃ e, Element.ofValue? item' = .ok (some e) ∧ e.kind = some .table ∧ Table.ShowsNames key e.metadata r
    (render template').fault = (render (.mapping es)).fault ∧
      (¬isShown → (render template').state = (render (.mapping es)).state) ∧
      ((∀ e, Element.ofValue? item' = .ok (some e) → ¬Table.IsOverlong e.metadata r) →
        ((render template').state = (render (.mapping es)).state ↔ ¬isShown)) := by
  intro render item' template' isShown
  by_cases hne : part = .metadata
  · subst hne
    obtain ⟨hread, hnames⟩ := Element.ofValue?_without_metadata hpart hnull
    rcases renderBy_alterAt settings retrieval r size start hitem hread ⟨fun _ => rfl, fun _ => rfl⟩ with
      ⟨fault, h, h', hsame⟩ | ⟨e?, images, s, he, h, h', hiff⟩
    · have hstops : ¬isShown := fun hshown => Option.some_ne_none fault (h.symm.trans hshown.1)
      exact ⟨h'.trans h.symm, fun _ => hsame, fun _ => iff_of_true hsame hstops⟩
    have hunlisted : Element.ofValue? item' = .ok (e?.map (Element.unlist key)) := by
      rw [show Element.ofValue? item' = _ from hread, he]
      rfl
    have hsame (hshown : ¬isShown) : (render template').state = (render (.mapping es)).state := by
      refine hiff.2 fun e hmem => drawings_unlist (hnames e (he.trans (congrArg _ hmem))) fun hnames => ?_
      exact hshown ⟨h, rfl, e.unlist key, by rw [hunlisted, Option.mem_def.1 hmem]; rfl, hnames⟩
    refine ⟨h'.trans h.symm, hsame, fun hlong => ⟨fun hstate hshown => ?_, hsame⟩⟩
    -- what the item is read to without the null is the element without the list
    obtain ⟨-, -, e', he', hkind, hnames'⟩ := hshown
    obtain ⟨e, hmem, rfl⟩ := Option.map_eq_some_iff.1 (Except.ok.inj (hunlisted.symm.trans he'))
    exact drawings_unlist_ne (hnames e (he.trans (congrArg _ hmem))) hkind (hlong _ he') hnames' (hiff.1 hstate e hmem)
  · obtain ⟨hfault, hstate⟩ : (render template').fault = (render (.mapping es)).fault ∧
        (render template').state = (render (.mapping es)).state := renderBy_without_of_ne hitem hpart hnull hne
    have hother : ¬isShown := fun hshown => hne hshown.2.1
    exact ⟨hfault, fun _ => hstate, fun _ => iff_of_true hstate hother⟩

end Render

/-- A template of a table with one cell, which has a list of traits, but null for the list of skills. -/
def unskilledEntries (kind : TableKind) : Entries := [("elements", .list [item kind])]
where
  item (kind : TableKind) : Value := .mapping [("type", .text "table"), ("metadata", .mapping (metadata kind))]
  metadata (kind : TableKind) : Entries := [("tableType", .text kind.symbol), ("rows", .int 1), ("cols", .int 1),
    ("traits", .list [.text "Punctual"]), ("skills", .null)]

/-- The template without the null. -/
def withoutSkills (es : Entries) : Value :=
  (Value.mapping es).alterAt (Value.alterAt (·.without "skills") ElementPart.metadata.path) (Template.itemPath es 0)

/-- What is left of a template on a page without images. -/
def renderBare (template : Value) : Rendering (Recording Float) :=
  renderBy {} (.ok fun _ => ([], .failed "")) (Recording.accepting ⟨600, 800⟩) template {} #[]

/-- A table of traits shows them, with a null for the skills and without it. -/
theorem renderBy_without_iff_traits :
    let es := unskilledEntries .affective
    let item := unskilledEntries.item .affective
    let metadata := unskilledEntries.metadata .affective
    (Value.mapping es).at? (Template.itemPath es 0) = some item ∧
      item.at? ElementPart.metadata.path = some (.mapping metadata) ∧ metadata.lookup "skills" = some .null ∧
      (renderBare (.mapping es)).state.toList.filterMap (fun d => d.text?.bind Value.text?) = ["Punctual"] ∧
      (renderBare (withoutSkills es)).state = (renderBare (.mapping es)).state := by
  intro es item metadata
  have hmetadata : item.at? ElementPart.metadata.path = some (.mapping metadata) := rfl
  have hwritable : (Record.ofValue (.mapping [])).IsWritable := Record.isWritable_ofValue rfl
  have hlong (e : Element Float) (_ : Element.ofValue? (item.alterAt (·.without "skills")
      ElementPart.metadata.path) = .ok (some e)) : ¬Table.IsOverlong e.metadata {} :=
    Table.not_isOverlong e.metadata hwritable
  refine ⟨rfl, hmetadata, rfl, by decide +kernel, ((renderBy_without_iff rfl hmetadata rfl).2.2 hlong).2 ?_⟩
  rintro ⟨-, -, e, he, -, ⟨kind, hkind, hkey⟩, -⟩
  have haffective : (Element.ofValue? (item.alterAt (·.without "skills")
      ElementPart.metadata.path)).toOption.join.bind (·.metadata.tableKind) = some .affective := by
    decide +kernel
  obtain rfl : kind = .affective := by
    rw [he] at haffective
    exact Option.some.inj (hkind.symm.trans haffective)
  exact absurd hkey (by decide)

/-- A table of skills that are null is empty, while without the null it shows the traits in their place. -/
theorem renderBy_keeps_null_skills :
    let es := unskilledEntries .psychomotor
    let item := unskilledEntries.item .psychomotor
    let metadata := unskilledEntries.metadata .psychomotor
    let texts := fun o : Rendering (Recording Float) => o.state.toList.filterMap fun d => d.text?.bind Value.text?
    (Value.mapping es).at? (Template.itemPath es 0) = some item ∧
      item.at? ElementPart.metadata.path = some (.mapping metadata) ∧ metadata.lookup "skills" = some .null ∧
      (renderBare (.mapping es)).fault = none ∧ texts (renderBare (.mapping es)) = [] ∧
      texts (renderBare (withoutSkills es)) = ["Punctual"] :=
  ⟨rfl, rfl, rfl, by decide +kernel, by decide +kernel, by decide +kernel⟩

end ReportCard
