import Mathlib.Data.List.Basic
import ReportCard.Proofs.Image.Haul
import ReportCard.Proofs.Page.Preparation

/-!
# Locality of rendering

The elements of a template share nothing but the scaler and the images, and of the images an element looks only at its
own.  So a template is rendered to what its items are rendered to alone, one after the other.
-/

namespace ReportCard

/-- An item that describes no element is no mapping. -/
private theorem Element.entries?_eq_none {v : Value} (h : Element.ofValue? v = .ok none) : v.entries? = none := by
  unfold Element.ofValue? at h
  split at h
  · rename_i es hes
    cases he : Element.ofEntries es <;> simp [he, Except.map] at h
  · assumption

/-! ### An item alone -/

namespace Template

/-- A template that has one item alone, on the canvas of another template. -/
structure IsAlone (template item single : Value) : Prop where
  items : items single = [item]
  canvasSize : canvasSize single = canvasSize template

/-- Alone, an item is read as it is read among others. -/
theorem IsAlone.elements {template item single : Value} (h : IsAlone template item single)
    (hok : ∃ e?, Element.ofValue? item = .ok e?) : (elements single).2 = .ok (element? item).toList := by
  cases hentries : single.entries? with
  | none =>
    have hitems := h.items
    simp [Template.items, hentries, Entries.get, Value.items?] at hitems
  | some entries =>
    rcases elements_snd hentries with ⟨hall, -⟩ | ⟨v, hv, fault, hfault, -⟩
    · rw [hall, h.items]
      cases hitem : element? item <;> simp [hitem]
    · rw [h.items, List.mem_singleton] at hv
      obtain ⟨e?, hitem⟩ := hok
      rw [← hv, hfault] at hitem
      cases hitem

/-- The entry that declares a canvas. -/
def canvasEntry (c : Size Float) : String × Value :=
  ("canvasSize", .mapping [("width", .float c.width), ("height", .float c.height)])

/-- The template of one item, on a canvas if one is given. -/
def alone (canvas : Option (Size Float)) (item : Value) : Value :=
  .mapping (("elements", .list [item]) :: (canvas.map canvasEntry).toList)

private theorem entries_alone (canvas : Option (Size Float)) (item : Value) :
    entries (alone canvas item) = .ok (("elements", .list [item]) :: (canvas.map canvasEntry).toList) :=
  rfl

private theorem body_alone (canvas : Option (Size Float)) (item : Value) :
    body (("elements", .list [item]) :: (canvas.map canvasEntry).toList) =
      ("elements", .list [item]) :: (canvas.map canvasEntry).toList := by
  cases canvas <;> rfl

private theorem sizeAt_alone {canvas : Option (Size Float)}
    (hpos : ∀ c ∈ canvas, (c.width > 0.0 && c.height > 0.0) = true) (item : Value) :
    sizeAt (("elements", .list [item]) :: (canvas.map canvasEntry).toList) = .ok canvas := by
  cases canvas with
  | none => rfl
  | some c =>
    show Except.ok (if c.width > 0.0 && c.height > 0.0 then some c else none) = _
    rw [if_pos (hpos c rfl)]

/-- On the canvas that a template declares, an item makes a template alone. -/
theorem isAlone_alone {template : Value} {canvas : Option (Size Float)} (h : canvasSize template = .ok canvas)
    (item : Value) : IsAlone template item (alone canvas item) := by
  refine ⟨?_, ?_⟩
  · simp only [items, alone, Value.entries?, Option.map_some, Option.getD_some, body_alone]
    rfl
  · have hpos : ∀ c ∈ canvas, (c.width > 0.0 && c.height > 0.0) = true := by
      rintro c rfl
      exact pos_of_canvasSize h
    rw [h, canvasSize, entries_alone]
    simp only [bind, Except.bind, body_alone, sizeAt_alone hpos]
    cases canvas <;> rfl

end Template

/-! ### The image of an element -/

variable {α : Type} [Scalar α]

/-- Of the images, an element looks only at its own. -/
theorem Element.paint_congr_images {e : Element α} {r : Record} {images images' : Images}
    (h : ∀ source, e.kind = some .image → r.sourceText e.metadata.field = some source →
      images.lookup source = images'.lookup source) (scale : α) :
    e.paint r images scale = e.paint r images' scale := by
  unfold Element.paint
  split
  case h_5 hkind =>
    unfold Element.paintImage
    cases hsource : r.imageSource e.metadata.field with
    | error fault => rfl
    | ok source? =>
      cases source? with
      | none => rfl
      | some source =>
        have hlookup := h source hkind (Record.sourceText_of_imageSource hsource)
        simp only [Script.tryIt, Element.paintSource, hlookup]
  all_goals rfl

theorem Record.sourceText_ne_empty {r : Record} {field : Option String} {source : String}
    (h : r.sourceText field = some source) : source ≠ "" := by
  rintro rfl
  unfold sourceText Value.trimmed? at h
  split at h
  · cases h
  · dsimp only at h
    split at h
    · cases h
    · rename_i hne
      rw [Option.some.inj h] at hne
      exact hne rfl

omit [Scalar α] in
/-- What is fetched for a page tells an image element what became of its source. -/
theorem Page.lookup_source (retrieve : Retrieval) (r : Record) {es : List (Element α)} {e : Element α} (he : e ∈ es)
    (hkind : e.kind = some .image) {source : String} (hsource : r.sourceText e.metadata.field = some source) :
    (Fetcher.haulBy retrieve (Page.sourceTexts r es)).images.lookup source = some (retrieve source).2 := by
  refine Fetcher.lookup_haulBy retrieve (Fetcher.mem_distinct.2 ⟨?_, Record.sourceText_ne_empty hsource⟩)
  exact List.mem_map.2 ⟨e, List.mem_filter.2 ⟨he, by simp [hkind]⟩, hsource⟩

/-- The drawings of an element do not depend on which other sources were fetched with its own. -/
private theorem Page.drawings_haulBy (retrieve : Retrieval) (r : Record) (s : Scaler α) {e : Element α}
    {es es' : List (Element α)} (he : e ∈ es) (he' : e ∈ es') :
    drawings r (Fetcher.haulBy retrieve (sourceTexts r es)).images s e =
      drawings r (Fetcher.haulBy retrieve (sourceTexts r es')).images s e := by
  refine congrArg Script.actions (Element.paint_congr_images ?_ _)
  intro source hkind hsource
  rw [lookup_source retrieve r he hkind hsource, lookup_source retrieve r he' hkind hsource]

/-! ### Rendering -/

section Render

variable {settings : Settings} {retrieval : Except Fault Retrieval} {size : Size Float} {template : Value} {r : Record}

/-- Of a template that can be prepared, each item can be prepared alone; it is read to the same element and scaled in
the same way. -/
private theorem prepareBy_single {width : Float} {es : List (Element Float)} {s : Scaler Float} {haul : Fetcher.Haul}
    (h : (prepareBy settings retrieval width template r).2 = .ok (es, s, haul)) {v : Value}
    (hv : v ∈ Template.items template) {single : Value} (hsingle : Template.IsAlone template v single) :
    ∃ retrieve, haul = Fetcher.haulBy retrieve (Page.sourceTexts r es) ∧
      (prepareBy settings retrieval width single r).2 = .ok ((Template.element? v).toList, s,
        Fetcher.haulBy retrieve (Page.sourceTexts r (Template.element? v).toList)) := by
  obtain ⟨helements, ⟨canvas, hcanvas, hscaler⟩, hsources, retrieve, hretrieve, hhaul⟩ := prepareBy_snd_eq_ok.1 h
  obtain ⟨hes, hok⟩ := Template.eq_of_elements helements
  have hsource : Page.HasSources r (Template.element? v).toList := by
    intro e he
    exact hsources e (hes ▸ List.mem_filterMap.2 ⟨v, hv, Option.mem_toList.1 he⟩)
  refine ⟨retrieve, hhaul, prepareBy_snd_eq_ok.2 ⟨hsingle.elements (hok v hv), ?_, hsource, retrieve, hretrieve, rfl⟩⟩
  exact ⟨canvas, hsingle.canvasSize.trans hcanvas, hscaler⟩

/-- Alone, an item that can be prepared is rendered to the drawings of its element, with the images of any haul that the
element takes part in. -/
private theorem renderBy_single {es : List (Element Float)} {s : Scaler Float} {haul : Fetcher.Haul}
    (h : (prepareBy settings retrieval size.width template r).2 = .ok (es, s, haul)) {v : Value}
    (hv : v ∈ Template.items template) {single : Value} (hsingle : Template.IsAlone template v single) :
    (renderBy settings retrieval (Recording.accepting size) single r #[]).fault = none ∧
      (renderBy settings retrieval (Recording.accepting size) single r #[]).state.toList =
        (Template.element? v).toList.flatMap (Page.drawings r haul.images s) := by
  obtain ⟨retrieve, rfl, hprepared⟩ := prepareBy_single h hv hsingle
  obtain ⟨hfault, hstate⟩ := renderBy_of_ok hprepared #[]
  refine ⟨hfault, ?_⟩
  -- the hauls differ, but not in the source of the element
  rw [hstate, Array.empty_append]
  refine List.flatMap_congr fun e he => Page.drawings_haulBy retrieve r s he ?_
  rw [(Template.eq_of_elements (prepareBy_snd_eq_ok.1 h).1).1]
  exact List.mem_filterMap.2 ⟨v, hv, Option.mem_toList.1 he⟩

/-- Rendering a template that returns leaves, behind what was there, what rendering each item alone leaves, in order.
Alone, every item can be rendered too: one that is no mapping, or of a kind that is not known, leaves nothing, and any
other leaves what it draws before its painting ends or stops. -/
theorem renderBy_eq_append_alone {start : Recording Float} {single : Value → Value}
    (hsingle : ∀ v ∈ Template.items template, Template.IsAlone template v (single v))
    (hreturns : (renderBy settings retrieval (Recording.accepting size) template r start).fault = none) :
    let alone := fun v => renderBy settings retrieval (Recording.accepting size) (single v) r #[]
    (renderBy settings retrieval (Recording.accepting size) template r start).state =
        start ++ ((Template.items template).flatMap fun v => (alone v).state.toList).toArray ∧
      ∀ v ∈ Template.items template, (alone v).fault = none ∧
        ((v.entries? = none ∧ (alone v).state = #[]) ∨
          ∃ e s haul, Element.ofValue? v = .ok (some e) ∧
            (prepareBy settings retrieval size.width (single v) r).2 = .ok ([e], s, haul) ∧
            (alone v).state = ((Recording.accepting size).paint ((s.apply e).paint r haul.images s.factor) #[]).state ∧
            (e.kind = none → (alone v).state = #[])) := by
  intro alone
  obtain ⟨es, s, haul, hprepared⟩ := exists_prepared hreturns
  obtain ⟨hes, hok⟩ := Template.eq_of_elements (prepareBy_snd_eq_ok.1 hprepared).1
  refine ⟨?_, fun v hv => ⟨(renderBy_single hprepared hv (hsingle v hv)).1, ?_⟩⟩
  · rw [(renderBy_of_ok hprepared start).2, hes, List.filterMap_eq_flatMap_toList, List.flatMap_assoc]
    refine congrArg (fun ds => start ++ List.toArray ds) (List.flatMap_congr fun v hv => ?_)
    exact (renderBy_single hprepared hv (hsingle v hv)).2.symm
  · obtain ⟨e?, hitem⟩ := hok v hv
    obtain ⟨retrieve, -, halone⟩ := prepareBy_single hprepared hv (hsingle v hv)
    rw [show Template.element? v = e? by simp [Template.element?, hitem, Except.toOption]] at halone
    have hstate := (renderBy_of_ok halone #[]).2
    cases e? with
    | none => exact .inl ⟨Element.entries?_eq_none hitem, hstate⟩
    | some e =>
      refine .inr ⟨e, s, _, hitem, halone, ?_, fun hkind => ?_⟩
      · rw [Recording.paint_accepting]
        simpa [Page.drawings] using hstate
      · simpa [Page.drawings_of_kind_eq_none r _ s hkind] using hstate

end Render

/-- A wrapped template with a canvas of its own: a logo, an item that is no mapping, a star, a table that fails at its
second cell, and the logo again. -/
def mixedTemplate : Value :=
  .mapping [("canvasSize", .mapping [("width", .float 300), ("height", .float 400)]),
    ("content", .mapping [("elements", .list [logo, .null, .mapping [("type", .text "star")], table, logo])])]
where
  logo := .mapping [("type", .text "image"), ("metadata", .mapping [("field", .text "school_logo")])]
  table := .mapping [("type", .text "table"), ("metadata", .mapping [("tableType", .text "subjects"), ("rows", .int 1),
    ("cols", .int 2)])]

/-- A record with a logo and one result whose scores cannot be listed. -/
def mixedRecord : Record where
  school := [("logo", .text "logo.png")]
  results := [[("subject", .mapping [("name", .text "Art")]), ("componentScores", .int 1)]]

theorem renderBy_eq_append_alone_mixed :
    let retrieval : Except Fault Retrieval := .ok fun source => ([], .failed ("no " ++ source))
    let single := Template.alone (some ⟨300, 400⟩)
    let render := fun template start =>
      renderBy {} retrieval (Recording.accepting ⟨600, 800⟩) template mixedRecord start
    (∀ v ∈ Template.items mixedTemplate, Template.IsAlone mixedTemplate v (single v)) ∧
      (render mixedTemplate #[.saveState]).fault = none ∧
      (render mixedTemplate #[.saveState]).state.toList.map Drawing.operation =
        ["save_state", "save_state", "stroke_rect", "text_cell", "restore_state", "save_state", "line", "text_cell",
          "line", "restore_state", "save_state", "stroke_rect", "text_cell", "restore_state"] ∧
      (render mixedTemplate #[.saveState]).state =
        #[.saveState] ++
          ((Template.items mixedTemplate).flatMap fun v => (render (single v) #[]).state.toList).toArray := by
  intro retrieval single render
  have hcanvas : Template.canvasSize mixedTemplate = .ok (some ⟨300, 400⟩) := by
    show Except.ok (if (300 : Float) > 0.0 && (400 : Float) > 0.0 then some (⟨300, 400⟩ : Size Float) else none) = _
    rw [if_pos (by decide +kernel)]
  have hsingle : ∀ v ∈ Template.items mixedTemplate, Template.IsAlone mixedTemplate v (single v) := by
    intro v _
    exact Template.isAlone_alone hcanvas v
  have hreturns : (render mixedTemplate #[.saveState]).fault = none := by decide +kernel
  exact ⟨hsingle, hreturns, by decide +kernel, (renderBy_eq_append_alone hsingle hreturns).1⟩

end ReportCard
