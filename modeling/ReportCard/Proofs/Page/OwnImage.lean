import ReportCard.Proofs.Element.Drawings
import ReportCard.Proofs.Page.Fatality
import ReportCard.Proofs.Page.Locality

/-!
# Every image element shows its own image

The source of an image element is determined twice: before the sources are fetched, from the element as it is read, and
when it is painted, from the element as it is scaled.  Scaling leaves the field of an element alone, and what is fetched
has an entry for each source, so the element finds what became of its own source, however many elements share it.
-/

namespace ReportCard

namespace Element

variable {α : Type} [Scalar α]

/-- What an image element should show, given its source and what becomes of sources: the image within the box of the
element, a box that says that there is none, a dashed box if the element asks for one, or nothing. -/
def imageDrawings (e : Element α) (source : Option String) (outcome : String → Fetched) (scale : α) :
    List (Drawing α) :=
  match source.map outcome with
  | some (.loaded data) => [.saveState, .image data e.box, .restoreState]
  | some (.failed _) =>
    [.saveState, .strokeRect e.box (.text "#e5e7eb") (Scalar.ofNat 1) none,
      .textCell (.text "Image Error")
        ⟨e.box.x + Scalar.ofNat 5, e.box.y, e.box.width - Scalar.ofNat 10, e.box.height⟩ (captionLettering scale),
      .restoreState]
  | none =>
    if e.metadata.isPlaceholder then
      [.saveState,
        .strokeRect e.box (.text "#cbd5e1") (Scalar.ofNat 1) (some [Scalar.ofNat 5, Scalar.ofNat 2]),
        .textCell (.text e.placeholderCaption) e.box (captionLettering scale), .restoreState]
    else []

/-- An image element that finds what became of its source shows what it should. -/
theorem actions_paintImage (e : Element α) (r : Record) {source? : Option String} {images : Images}
    {outcome : String → Fetched} (scale : α) (hsource : r.imageSource e.metadata.field = .ok source?)
    (h : ∀ source, source? = some source → images.lookup source = some (outcome source)) :
    (e.paintImage r images scale).actions = e.imageDrawings source? outcome scale := by
  unfold paintImage imageDrawings
  rw [hsource]
  cases source? with
  | none =>
    cases e.metadata.isPlaceholder <;>
      simp [paintPlaceholder, Script.tryIt, Script.when, Script.actions, Script.fault?, Script.acts, Script.all]
  | some source =>
    simp only [Script.tryIt, paintSource, h source rfl, Option.map_some]
    cases outcome source with
    | loaded data => simp [paintLoaded, Script.actions, Script.fault?]
    | failed reason => simp [paintFailed, paintImageError, Script.actions, Script.fault?, Script.acts, Script.all]

end Element

namespace Page

variable {α : Type} [Scalar α]

/-- On a page whose sources have been fetched, an image element shows its own image. -/
theorem drawings_of_image (retrieve : Retrieval) {r : Record} (s : Scaler α) {es : List (Element α)} {e : Element α}
    (hsources : HasSources r es) (he : e ∈ es) (hkind : e.kind = some .image) :
    drawings r (Fetcher.haulBy retrieve (sourceTexts r es)).images s e =
      (s.apply e).imageDrawings (r.sourceText e.metadata.field) (fun source => (retrieve source).2) s.factor := by
  have hpaint (images : Images) : (s.apply e).paint r images s.factor = (s.apply e).paintImage r images s.factor := by
    simp [Element.paint, Scaler.apply, hkind]
  have hsource : r.imageSource (s.apply e).metadata.field = .ok (r.sourceText e.metadata.field) :=
    Record.imageSource_of_isWritable (hsources e he hkind)
  rw [drawings, hpaint]
  exact (s.apply e).actions_paintImage r s.factor hsource fun source hsome => lookup_source retrieve r he hkind hsome

/-- No other element shows an image. -/
theorem not_isImage_of_mem_drawings {r : Record} {images : Images} {s : Scaler α} {e : Element α}
    (hkind : e.kind ≠ some .image) {d : Drawing α} (hd : d ∈ drawings r images s e) : ¬d.IsImage := by
  rcases ((s.apply e).every_paint r images s.factor).of_mem_actions hd with h | h | ⟨h, -⟩
  · rintro ⟨data, b, rfl⟩
    cases h
  · exact h.2.2
  · exact absurd h hkind

end Page

variable {settings : Settings} {retrieve : Retrieval} {size : Size Float} {entries : Entries} {r : Record}
  {reference : Float} {es : List (Element Float)} {start : Recording Float}

/-- If the elements of a template can be read, rendering it stops at a number of its canvas or at one that is too long
for the source of an image, and then paints nothing, or it paints the elements one after the other.  Each image element
shows the bytes that were fetched for its own source, the box for failures if they could not be fetched, or the box for
a missing image if it has no source and asks for that; what became of its source is always known.  No other element
shows an image. -/
theorem renderBy_paints_own_images (helements : (Template.elements (.mapping entries)).2 = .ok es)
    (href : settings.reference = .ok reference) (hpos : 0.0 < reference) :
    let o := renderBy settings (.ok retrieve) (Recording.accepting size) (.mapping entries) r start
    let images := (Fetcher.haulBy retrieve (Page.sourceTexts r es)).images
    (o.fault = none ↔ Template.LegibleCanvas (Template.body entries) ∧
        ((∀ c, Template.sizeAt (Template.body entries) ≠ .ok (some c)) → Template.LegibleCanvas entries) ∧
        Page.HasSources r es) ∧
      (∀ fault, o.fault = some fault → fault ∈ Fault.ofNumbers ∧ o.state = start) ∧
      (o.fault = none → ∃ canvas s, Template.canvasSize (.mapping entries) = .ok canvas ∧
        Scaler.forPage settings (.float size.width) (canvas.map fun c => .float c.width) = .ok s ∧
        o.state = start ++ (es.flatMap (Page.drawings r images s)).toArray ∧
        ∀ e ∈ es,
          (e.kind = some .image →
            Page.drawings r images s e = (s.apply e).imageDrawings (r.sourceText e.metadata.field)
              (fun source => (retrieve source).2) s.factor ∧
            ∀ source, r.sourceText e.metadata.field = some source →
              images.lookup source = some (retrieve source).2) ∧
          (e.kind ≠ some .image → ∀ d ∈ Page.drawings r images s e, ¬d.IsImage)) := by
  intro o images
  have hitems : ∀ v ∈ Template.items (.mapping entries), ∀ item, v.entries? = some item → Element.Legible item := by
    have hreads := Template.elements_reads entries
    rwa [helements] at hreads
  have hreads : Reads (Template.Legible entries ∧ Page.HasSources r es)
      (prepareBy settings (.ok retrieve) size.width (.mapping entries) r).2 := by
    rw [(Template.eq_of_elements helements).1]
    exact prepareBy_reads href hpos size.width
  cases hprepared : (prepareBy settings (.ok retrieve) size.width (.mapping entries) r).2 with
  | error fault =>
    obtain ⟨hfault, hstate⟩ := renderBy_of_error (Recording.accepting size) hprepared start
    rw [hprepared] at hreads
    refine ⟨⟨fun h => ?_, fun ⟨hbody, hwrapper, hsources⟩ => ?_⟩, fun fault' h => ?_, fun h => ?_⟩
    · simp [o, hfault] at h
    · exact absurd ⟨⟨hitems, hbody, hwrapper⟩, hsources⟩ hreads.1
    · obtain rfl : fault = fault' := Option.some.inj (hfault.symm.trans h)
      exact ⟨hreads.2, hstate⟩
    · simp [o, hfault] at h
  | ok prepared =>
    obtain ⟨elements, s, haul⟩ := prepared
    obtain ⟨hfault, hstate⟩ := renderBy_of_ok hprepared start
    rw [hprepared] at hreads
    obtain ⟨helements', ⟨canvas, hcanvas, hs⟩, hsources, _, ⟨⟩, rfl⟩ := prepareBy_snd_eq_ok.1 hprepared
    obtain rfl : es = elements := Except.ok.inj (helements.symm.trans helements')
    refine ⟨⟨fun _ => ⟨hreads.1.body, hreads.1.wrapper, hsources⟩, fun _ => hfault⟩, fun fault h => ?_, fun _ => ?_⟩
    · simp [o, hfault] at h
    · refine ⟨canvas, s, hcanvas, hs, hstate, fun e he => ⟨fun hkind => ⟨?_, ?_⟩, fun hkind d hd => ?_⟩⟩
      · exact Page.drawings_of_image retrieve s hsources he hkind
      · exact fun source hsource => Page.lookup_source retrieve r he hkind hsource
      · exact Page.not_isImage_of_mem_drawings hkind hd

/-- A template with a logo, a photo, the logo again, and a stamp that may be missing, on a canvas. -/
def portraitEntries (canvasWidth : Value) : Entries :=
  [("canvasSize", .mapping [("width", canvasWidth), ("height", .int 400)]),
    ("elements", .list [image "school_logo", image "student_photo", image "school_logo", image "school_stamp"])]
where
  image (field : String) : Value := .mapping [("type", .text "image"), ("width", .int 40), ("height", .int 40),
    ("metadata", .mapping [("field", .text field), ("isPlaceholder", .bool true)])]

/-- A record with a logo and a photo, and no stamp. -/
def portraitRecord : Record where
  school := [("logo", .text "logo.png")]
  student := [("user", .mapping [("image", .text "photo.png")])]

/-- Only the logo is there. -/
def logoOnly : Retrieval := fun source =>
  ([], if source = "logo.png" then .loaded (.picture 4 3) else .failed "Local file not found")

theorem renderBy_paints_own_images_portrait :
    ∃ es, (Template.elements (.mapping (portraitEntries (.int 300)))).2 = .ok es ∧
      Settings.reference { referenceWidth := some (.float 794) } = .ok 794 ∧ (0.0 : Float) < 794 ∧
      let o := renderBy { referenceWidth := some (.float 794) } (.ok logoOnly) (Recording.accepting ⟨600, 800⟩)
        (.mapping (portraitEntries (.int 300))) portraitRecord #[]
      let images := (Fetcher.haulBy logoOnly (Page.sourceTexts portraitRecord es)).images
      o.state.toList.map Drawing.operation =
          ["save_state", "image", "restore_state", "save_state", "stroke_rect", "text_cell", "restore_state",
            "save_state", "image", "restore_state", "save_state", "stroke_rect", "text_cell", "restore_state"] ∧
        ∃ s, o.state = #[] ++ (es.flatMap (Page.drawings portraitRecord images s)).toArray ∧
          ∀ e ∈ es, e.kind = some .image →
            Page.drawings portraitRecord images s e = (s.apply e).imageDrawings
              (portraitRecord.sourceText e.metadata.field) (fun source => (logoOnly source).2) s.factor := by
  cases helements : (Template.elements (.mapping (portraitEntries (.int 300)))).2 with
  | error fault =>
    have hok : (Template.elements (.mapping (portraitEntries (.int 300)))).2.isOk = true := by decide +kernel
    rw [helements] at hok
    cases hok
  | ok es =>
    obtain ⟨-, -, hpaints⟩ := @renderBy_paints_own_images { referenceWidth := some (.float 794) } logoOnly ⟨600, 800⟩
      (portraitEntries (.int 300)) portraitRecord 794 es #[] helements rfl (by decide +kernel)
    obtain ⟨_, s, -, -, hstate, hown⟩ := hpaints (by decide +kernel)
    exact ⟨es, rfl, rfl, by decide +kernel, by decide +kernel, s, hstate, fun e he hkind => ((hown e he).1 hkind).1⟩

/-- A canvas width outside the range of doubles stops the rendering, although every element can be read and every image
is there. -/
theorem renderBy_stops_at_wide_canvas :
    let template := Value.mapping (portraitEntries (.int (Int.pow 10 400)))
    let o := renderBy {} (.ok logoOnly) (Recording.accepting ⟨600, 800⟩) template portraitRecord #[]
    (Template.elements template).2.isOk = true ∧ o.fault = some .numberTooLarge ∧ o.state.isEmpty := by
  decide +kernel

end ReportCard
