import ReportCard.Painting.Page
import ReportCard.Proofs.Drawing.Transcript
import ReportCard.Proofs.Element.Reading
import ReportCard.Proofs.Number.Float
import ReportCard.Proofs.Record.Writing

/-!
# What rendering comes to

Rendering is preparing and then painting.  Preparing reads the items of a template one by one, the canvas and the
reference width, and it either stops at one of them or hands on all elements that can be read; painting cannot stop
(`Page.fault?_paint`), so on a surface that records everything rendering returns if preparing does.
-/

namespace ReportCard

namespace Template

/-! ### Reading the items -/

/-- The items of a template, of which each may describe an element. -/
def items (template : Value) : List Value :=
  (((template.entries?.map body).getD []).get "elements").items?.getD []

/-- The element that an item describes, if it is a mapping that can be read. -/
def element? (item : Value) : Option (Element Float) := (Element.ofValue? item).toOption.join

/-- Reading items yields their elements in order, or stops at an item that cannot be read. -/
theorem readFrom_snd (i : Nat) (vs : List Value) :
    ((readFrom i vs).2 = .ok (vs.filterMap element?) ∧ ∀ v ∈ vs, ∃ e?, Element.ofValue? v = .ok e?) ∨
      ∃ v ∈ vs, ∃ fault, Element.ofValue? v = .error fault ∧ (readFrom i vs).2 = .error fault := by
  induction vs generalizing i with
  | nil => exact .inl ⟨rfl, by simp⟩
  | cons v vs ih =>
    -- the first item decides, unless it can be read
    rw [readFrom]
    cases hv : Element.ofValue? v with
    | error fault => exact .inr ⟨v, by simp, fault, hv, rfl⟩
    | ok e? =>
      have helement : element? v = e? := by simp [element?, hv, Except.toOption]
      rcases ih (i + 1) with ⟨hrest, hok⟩ | ⟨w, hw, fault, hfault, hrest⟩
      · refine .inl ⟨?_, ?_⟩
        · cases e? <;> simp [helement, hrest, Except.map]
        · intro w hw
          rcases List.mem_cons.1 hw with rfl | hw
          · exact ⟨e?, hv⟩
          · exact hok w hw
      · refine .inr ⟨w, by simp [hw], fault, hfault, ?_⟩
        cases e? <;> simp [hrest, Except.map]

theorem elements_of_items {es : Entries} {items : List Value}
    (h : ((body es).get "elements").items? = some items) : elements (.mapping es) = readFrom 0 items := by
  have hentries : entries (.mapping es) = .ok es := rfl
  simp only [elements, hentries, h]

/-- Reading the elements of a mapping yields those of its items in order, or stops at an item that cannot be read. -/
theorem elements_snd {template : Value} {es : Entries} (h : template.entries? = some es) :
    ((elements template).2 = .ok ((items template).filterMap element?) ∧
        ∀ v ∈ items template, ∃ e?, Element.ofValue? v = .ok e?) ∨
      ∃ v ∈ items template, ∃ fault, Element.ofValue? v = .error fault ∧ (elements template).2 = .error fault := by
  have hentries : entries template = .ok es := by simp [entries, h]
  have hitems : items template = ((body es).get "elements").items?.getD [] := by simp [items, h]
  rw [hitems]
  simp only [elements, hentries]
  cases ((body es).get "elements").items? with
  | none => exact .inl ⟨rfl, by simp⟩
  | some vs => exact readFrom_snd 0 vs

private theorem readFrom_snd_eq_mapM (i : Nat) (vs : List Value) :
    (readFrom i vs).2 = (vs.mapM Element.ofValue?).map (·.filterMap id) := by
  induction vs generalizing i with
  | nil => rfl
  | cons v vs ih =>
    rw [readFrom, List.mapM_cons]
    cases Element.ofValue? v with
    | error fault => rfl
    | ok e? =>
      cases e? <;> simp only [ih, bind, Except.bind] <;> cases vs.mapM Element.ofValue? <;> rfl

/-- The elements of a mapping are read from its items one by one. -/
theorem elements_snd_eq_mapM (es : Entries) :
    (elements (.mapping es)).2 = ((items (.mapping es)).mapM Element.ofValue?).map (·.filterMap id) := by
  have hentries : entries (.mapping es) = .ok es := rfl
  have hitems : items (.mapping es) = ((body es).get "elements").items?.getD [] := rfl
  rw [hitems]
  simp only [elements, hentries]
  cases ((body es).get "elements").items? with
  | none => rfl
  | some vs => exact readFrom_snd_eq_mapM 0 vs

/-- If the elements of a template can be read, each of its items can, and the elements are theirs. -/
theorem eq_of_elements {template : Value} {es : List (Element Float)} (h : (elements template).2 = .ok es) :
    es = (items template).filterMap element? ∧ ∀ v ∈ items template, ∃ e?, Element.ofValue? v = .ok e? := by
  cases hentries : template.entries? with
  | none => simp [elements, entries, hentries] at h
  | some entries =>
    rcases elements_snd hentries with ⟨hall, hok⟩ | ⟨v, -, fault, -, hfault⟩
    · exact ⟨Except.ok.inj (h.symm.trans hall), hok⟩
    · rw [h] at hfault
      cases hfault

/-! ### The canvas -/

/-- A canvas that a template declares has a positive width and a positive height. -/
theorem pos_of_canvasSize {template : Value} {c : Size Float} (h : canvasSize template = .ok (some c)) :
    (c.width > 0.0 && c.height > 0.0) = true := by
  have hpos {es : Entries} (hsize : sizeAt es = .ok (some c)) : (c.width > 0.0 && c.height > 0.0) = true := by
    obtain ⟨-, -, -, hwidth, hheight⟩ := sizeAt_eq_some_iff.1 hsize
    simp [hwidth, hheight]
  obtain ⟨es, -, h⟩ := bind_eq_ok_iff.1 h
  obtain ⟨size?, hbody, h⟩ := bind_eq_ok_iff.1 h
  cases size? with
  | none => exact hpos h
  | some size =>
    obtain rfl : size = c := Option.some.inj (Except.ok.inj h)
    exact hpos hbody

/-- The width of the canvas that a template is designed on: of its own, or else of the configured one. -/
def reference (settings : Settings) (template : Value) : Except Fault Float := do
  match ← canvasSize template with
  | some canvas => return canvas.width
  | none => settings.reference

end Template

/-! ### The scaler -/

namespace Scaler

/-- Between a page and a canvas of positive width there is a scaler. -/
theorem ofValues_of_pos (width : Float) {reference : Float} (h : 0.0 < reference) :
    ofValues (.float width) (.float reference) = .ok ⟨width, reference⟩ := by
  have hnonpos : decide (reference ≤ 0.0) = false := decide_eq_false (not_le_zero_of_pos h)
  simp [ofValues, Value.isNonpositive, Value.asFloat, hnonpos, beq_zero_of_pos h, bind, Except.bind, pure, Except.pure]

/-- A canvas that a template declares is scaled to the page. -/
theorem forPage_of_canvasSize {template : Value} {c : Size Float} (h : Template.canvasSize template = .ok (some c))
    (settings : Settings) (width : Float) :
    forPage settings (.float width) (some (.float c.width)) = .ok ⟨width, c.width⟩ := by
  have hpos := Template.pos_of_canvasSize h
  rw [Bool.and_eq_true, decide_eq_true_iff] at hpos
  exact ofValues_of_pos width hpos.1

end Scaler

/-! ### Painting -/

namespace Page

variable {α : Type} [Scalar α]

/-- The drawings of an element on a page where nothing fails: those made before its painting ends or stops. -/
def drawings (r : Record) (images : Images) (s : Scaler α) (e : Element α) : List (Drawing α) :=
  ((s.apply e).paint r images s.factor).actions

theorem drawings_of_kind_eq_none (r : Record) (images : Images) (s : Scaler α) {e : Element α} (h : e.kind = none) :
    drawings r images s e = [] := by
  simp [drawings, Element.paint, Scaler.apply, h, Script.actions]

theorem paintElement_transcript (r : Record) (images : Images) (s : Scaler α) (i : Nat) (e : Element α) :
    (paintElement r images s i e).fault? = none ∧ (paintElement r images s i e).actions = drawings r images s e := by
  unfold paintElement
  cases hkind : e.kind with
  | none => exact ⟨rfl, (drawings_of_kind_eq_none r images s hkind).symm⟩
  | some kind =>
    refine ⟨?_, ?_⟩
    · cases h : ((s.apply e).paint r images s.factor).fault? <;> simp [Script.fault?, h]
    · cases h : ((s.apply e).paint r images s.factor).fault? <;> simp [Script.actions, drawings, h]

private theorem paintFrom_transcript (r : Record) (images : Images) (s : Scaler α) (i : Nat) (es : List (Element α)) :
    (paintFrom r images s i es).fault? = none ∧
      (paintFrom r images s i es).actions = es.flatMap (drawings r images s) := by
  induction es generalizing i with
  | nil => exact ⟨rfl, rfl⟩
  | cons e es ih =>
    obtain ⟨hfault, hactions⟩ := paintElement_transcript r images s i e
    simp [paintFrom, Script.fault?, Script.actions, hfault, hactions, ih (i + 1)]

/-- Painting a page does not stop where every drawing succeeds. -/
theorem fault?_paint (r : Record) (images : Images) (s : Scaler α) (es : List (Element α)) :
    (paint r images s es).fault? = none :=
  (paintFrom_transcript r images s 0 es).1

/-- A page leaves the drawings of its elements one after the other. -/
theorem actions_paint (r : Record) (images : Images) (s : Scaler α) (es : List (Element α)) :
    (paint r images s es).actions = es.flatMap (drawings r images s) :=
  (paintFrom_transcript r images s 0 es).2

end Page

/-! ### Sources -/

namespace Page

variable {α : Type} {r : Record} {es : List (Element α)}

/-- The source of each image element can be written. -/
def HasSources (r : Record) (es : List (Element α)) : Prop :=
  ∀ e ∈ es, e.kind = some .image → (r.imageOrNull e.metadata.field).isWritable = true

/-- The sources of the image elements of a page, as far as they are given. -/
def sourceTexts (r : Record) (es : List (Element α)) : List (Option String) :=
  (es.filter (·.kind == some .image)).map fun (e : Element α) => r.sourceText e.metadata.field

theorem sources_reads (r : Record) (es : List (Element α)) : Reads (HasSources r es) (sources r es) := by
  refine (Reads.mapM fun e _ => Value.written_reads (r.imageOrNull e.metadata.field) _).congr ?_
  simp only [HasSources, List.mem_filter, beq_iff_eq, and_imp]

theorem HasSources.sources_eq (h : HasSources r es) : sources r es = .ok (sourceTexts r es) := by
  rw [sources, mapM_eq_ok_iff, sourceTexts, List.forall₂_map_right_iff, List.forall₂_same]
  intro e he
  obtain ⟨hmem, hkind⟩ := List.mem_filter.1 he
  exact Record.imageSource_of_isWritable (h e hmem (beq_iff_eq.1 hkind))

theorem exists_sources_eq_error (h : ¬HasSources r es) : ∃ fault, sources r es = .error fault := by
  cases hsources : sources r es with
  | ok texts => exact absurd ((sources_reads r es).exists_ok_iff.1 ⟨texts, hsources⟩) h
  | error fault => exact ⟨fault, rfl⟩

/-- The sources are those of the image elements. -/
theorem HasSources.congr {es' : List (Element α)}
    (himages : es'.filter (·.kind == some .image) = es.filter (·.kind == some .image)) (h : HasSources r es) :
    HasSources r es' := by
  intro e he hkind
  have hmem : e ∈ es.filter (·.kind == some .image) := himages ▸ List.mem_filter.2 ⟨he, by simp [hkind]⟩
  exact h e (List.mem_filter.1 hmem).1 hkind

theorem sourceTexts_congr (r : Record) {es' : List (Element α)}
    (himages : es'.filter (·.kind == some .image) = es.filter (·.kind == some .image)) :
    sourceTexts r es' = sourceTexts r es := by
  rw [sourceTexts, himages, sourceTexts]

end Page

/-! ### Rendering -/

section Render

variable {settings : Settings} {retrieval : Except Fault Retrieval} {template : Value} {r : Record}

/-- Preparing succeeds if everything that it reads can be read. -/
theorem prepareBy_snd_eq_ok {width : Float} {es : List (Element Float)} {s : Scaler Float} {haul : Fetcher.Haul} :
    (prepareBy settings retrieval width template r).2 = .ok (es, s, haul) ↔
      (Template.elements template).2 = .ok es ∧
        (∃ canvas, Template.canvasSize template = .ok canvas ∧
          Scaler.forPage settings (.float width) (canvas.map fun c => .float c.width) = .ok s) ∧
        Page.HasSources r es ∧
        ∃ retrieve, retrieval = .ok retrieve ∧ haul = Fetcher.haulBy retrieve (Page.sourceTexts r es) := by
  unfold prepareBy
  rcases Template.elements template with ⟨notes, elements⟩
  cases elements with
  | error fault => simp [bind, Except.bind]
  | ok es' =>
    cases Template.canvasSize template with
    | error fault => simp [bind, Except.bind]
    | ok canvas =>
      cases hs : Scaler.forPage settings (.float width) (canvas.map fun c => .float c.width) with
      | error fault => simp [bind, Except.bind, hs]
      | ok s' =>
        simp only [bind, Except.bind, hs]
        by_cases hsources : Page.HasSources r es'
        · cases retrieval with
          | error fault => simp [hsources.sources_eq]
          | ok retrieve =>
            simp only [hsources.sources_eq, pure, Except.pure, Except.ok.injEq, Prod.mk.injEq]
            constructor
            · rintro ⟨rfl, rfl, rfl⟩
              exact ⟨rfl, ⟨canvas, rfl, hs⟩, hsources, retrieve, rfl, rfl⟩
            · rintro ⟨rfl, ⟨_, rfl, hs'⟩, -, _, rfl, rfl⟩
              exact ⟨rfl, Except.ok.inj (hs.symm.trans hs'), rfl⟩
        · obtain ⟨fault, hfault⟩ := Page.exists_sources_eq_error hsources
          rw [hfault]
          refine iff_of_false nofun ?_
          rintro ⟨hes, -, hsources', -⟩
          exact hsources (Except.ok.inj hes ▸ hsources')

/-- What cannot be read cannot be prepared. -/
theorem prepareBy_of_error {width : Float} {fault : Fault} (h : (Template.elements template).2 = .error fault) :
    (prepareBy settings retrieval width template r).2 = .error fault := by
  simp [prepareBy, h, bind, Except.bind]

/-- Rendering what can be prepared is painting its elements, on any surface. -/
theorem renderBy_paints {σ : Type} (surface : Surface Float σ) {es : List (Element Float)} {s : Scaler Float}
    {haul : Fetcher.Haul}
    (h : (prepareBy settings retrieval surface.size.width template r).2 = .ok (es, s, haul)) (start : σ) :
    (renderBy settings retrieval surface template r start).state =
        (surface.paint (Page.paint r haul.images s es) start).state ∧
      (renderBy settings retrieval surface template r start).fault =
        (surface.paint (Page.paint r haul.images s es) start).fault := by
  unfold renderBy
  rcases hprepared : prepareBy settings retrieval surface.size.width template r with ⟨notes, result⟩
  obtain rfl : result = .ok (es, s, haul) := (congrArg Prod.snd hprepared).symm.trans h
  exact ⟨rfl, rfl⟩

/-- Rendering what can be prepared returns, with the drawings of the elements behind what was there. -/
theorem renderBy_of_ok {size : Size Float} {es : List (Element Float)} {s : Scaler Float} {haul : Fetcher.Haul}
    (h : (prepareBy settings retrieval size.width template r).2 = .ok (es, s, haul)) (start : Recording Float) :
    (renderBy settings retrieval (Recording.accepting size) template r start).fault = none ∧
      (renderBy settings retrieval (Recording.accepting size) template r start).state =
        start ++ (es.flatMap (Page.drawings r haul.images s)).toArray := by
  obtain ⟨hstate, hfault⟩ := renderBy_paints (Recording.accepting size) h start
  rw [hstate, hfault, Recording.paint_accepting, Page.fault?_paint, Page.actions_paint]
  exact ⟨rfl, rfl⟩

/-- Rendering what cannot be prepared stops with the same fault, and paints nothing. -/
theorem renderBy_of_error {σ : Type} (surface : Surface Float σ) {fault : Fault}
    (h : (prepareBy settings retrieval surface.size.width template r).2 = .error fault) (start : σ) :
    (renderBy settings retrieval surface template r start).fault = some fault ∧
      (renderBy settings retrieval surface template r start).state = start := by
  unfold renderBy
  rcases hprepared : prepareBy settings retrieval surface.size.width template r with ⟨notes, result⟩
  obtain rfl : result = .error fault := (congrArg Prod.snd hprepared).symm.trans h
  exact ⟨rfl, rfl⟩

/-- What is rendered to its end could be prepared. -/
theorem exists_prepared {size : Size Float} {start : Recording Float}
    (hreturns : (renderBy settings retrieval (Recording.accepting size) template r start).fault = none) :
    ∃ es s haul, (prepareBy settings retrieval size.width template r).2 = .ok (es, s, haul) := by
  cases h : (prepareBy settings retrieval size.width template r).2 with
  | error fault =>
    rw [(renderBy_of_error (Recording.accepting size) h start).1] at hreturns
    cases hreturns
  | ok p => exact ⟨p.1, p.2.1, p.2.2, rfl⟩

end Render

end ReportCard
