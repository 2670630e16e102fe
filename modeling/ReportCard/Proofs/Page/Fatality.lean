import ReportCard.Proofs.Element.Reading
import ReportCard.Proofs.Page.Preparation

/-!
# What stops the rendering of a page

Painting an element is shielded from the others, but reading one is not: a template stops being rendered at a whole
number outside the range of doubles, at a count that is not finite, and at a number with too many digits for a text or
for the source of an image, wherever they stand.  Nothing else in a mapping stops it.
-/

namespace ReportCard

namespace Template

/-- The numbers and the texts of a template can be read: those of the mappings among its items, and the canvas. -/
structure Legible (es : Entries) : Prop where
  items : ∀ v ∈ items (.mapping es), ∀ item, v.entries? = some item → Element.Legible item
  body : LegibleCanvas (body es)
  wrapper : (∀ c, sizeAt (Template.body es) ≠ .ok (some c)) → LegibleCanvas es

theorem elements_reads (es : Entries) :
    Reads (∀ v ∈ items (.mapping es), ∀ item, v.entries? = some item → Element.Legible item)
      (elements (.mapping es)).2 := by
  have hentries : (Value.mapping es).entries? = some es := rfl
  rcases elements_snd hentries with ⟨h, hok⟩ | ⟨v, hv, fault, hfault, h⟩
  · rw [h]
    exact fun v hv => (Element.ofValue?_reads v).exists_ok_iff.1 (hok v hv)
  · rw [h]
    have hread := Element.ofValue?_reads v
    rw [hfault] at hread
    exact ⟨fun hall => hread.1 (hall v hv), hread.2⟩

end Template

variable {settings : Settings} {retrieve : Retrieval} {es : Entries} {r : Record} {reference : Float}

/-- Preparing succeeds for a legible template, if the sources of its images can be written and pages have a reference
width above zero. -/
theorem prepareBy_reads (href : settings.reference = .ok reference) (hpos : 0.0 < reference) (width : Float) :
    Reads (Template.Legible es ∧ Page.HasSources r ((Template.items (.mapping es)).filterMap Template.element?))
      (prepareBy settings (.ok retrieve) width (.mapping es) r).2 := by
  have hreads : Reads _ (prepareBy settings (.ok retrieve) width (.mapping es) r).2 :=
    (Template.elements_reads es).bind
      (Q := _ ∧ Page.HasSources r ((Template.items (.mapping es)).filterMap Template.element?))
      fun elements helements => (Template.canvasSize_reads es).bind fun canvas hcanvas => ?_
  · exact hreads.congr ⟨fun ⟨h₁, ⟨h₂, h₃⟩, h₄⟩ => ⟨⟨h₁, h₂, h₃⟩, h₄⟩, fun ⟨⟨h₁, h₂, h₃⟩, h₄⟩ => ⟨h₁, ⟨h₂, h₃⟩, h₄⟩⟩
  · -- a canvas that is read has a positive width, and the configured width takes its place otherwise
    have hscaler : ∃ s, Scaler.forPage settings (.float width) (canvas.map fun c => .float c.width) = .ok s := by
      cases canvas with
      | none =>
        simp only [Option.map_none, Scaler.forPage, href]
        exact ⟨_, Scaler.ofValues_of_pos width hpos⟩
      | some c => exact ⟨_, Scaler.forPage_of_canvasSize hcanvas settings width⟩
    obtain ⟨s, hs⟩ := hscaler
    rw [hs, ← (Template.eq_of_elements helements).1]
    exact (Page.sources_reads r elements).bind_pure _

/-- Where images can be fetched and the reference width is above zero, rendering a mapping returns exactly if its
numbers and texts can be read and the sources of its images can be written.  It then leaves the drawings of every
element that the items describe; otherwise it stops at one of the numbers, and leaves nothing. -/
theorem renderBy_returns_iff_legible {size : Size Float} {start : Recording Float}
    (href : settings.reference = .ok reference) (hpos : 0.0 < reference) :
    let o := renderBy settings (.ok retrieve) (Recording.accepting size) (.mapping es) r start
    let elements := (Template.items (.mapping es)).filterMap Template.element?
    (o.fault = none ↔ Template.Legible es ∧ Page.HasSources r elements) ∧
      (o.fault = none → ∃ s, o.state = start ++ (elements.flatMap
        (Page.drawings r (Fetcher.haulBy retrieve (Page.sourceTexts r elements)).images s)).toArray) ∧
      ∀ fault, o.fault = some fault → fault ∈ Fault.ofNumbers ∧ o.state = start := by
  intro o elements
  have hreads : Reads (Template.Legible es ∧ Page.HasSources r elements)
      (prepareBy settings (.ok retrieve) size.width (.mapping es) r).2 :=
    prepareBy_reads href hpos size.width
  cases hprepared : (prepareBy settings (.ok retrieve) size.width (.mapping es) r).2 with
  | error fault =>
    obtain ⟨hfault, hstate⟩ := renderBy_of_error (Recording.accepting size) hprepared start
    rw [hprepared] at hreads
    refine ⟨?_, ?_, ?_⟩
    · exact ⟨fun h => by simp [o, hfault] at h, fun h => absurd h hreads.1⟩
    · intro h
      simp [o, hfault] at h
    · intro fault' h
      obtain rfl : fault = fault' := Option.some.inj (hfault.symm.trans h)
      exact ⟨hreads.2, hstate⟩
  | ok prepared =>
    obtain ⟨read, s, haul⟩ := prepared
    obtain ⟨hfault, hstate⟩ := renderBy_of_ok hprepared start
    rw [hprepared] at hreads
    obtain ⟨helements, -, -, _, ⟨⟩, rfl⟩ := prepareBy_snd_eq_ok.1 hprepared
    obtain ⟨rfl, -⟩ := Template.eq_of_elements helements
    refine ⟨⟨fun _ => hreads, fun _ => hfault⟩, fun _ => ⟨s, hstate⟩, fun fault h => ?_⟩
    simp [o, hfault] at h

/-- A template with a text behind an item whose number of rows is to be read off a value. -/
def countedEntries (rows : Value) : Entries :=
  [("elements", .list [.mapping [("metadata", .mapping [("rows", rows)])],
    .mapping [("type", .text "text"), ("content", .text "Report")]])]

/-- A page without images. -/
def noImages : Retrieval := fun source => ([], .failed source)

/-- The text is painted if the number of rows is a whole number, or is none at all. -/
theorem renderBy_returns_iff_legible_counted :
    Settings.reference { referenceWidth := some (.float 794) } = .ok 794 ∧ (0.0 : Float) < 794 ∧
      let o := renderBy { referenceWidth := some (.float 794) } (.ok noImages) (Recording.accepting ⟨600, 800⟩)
        (.mapping (countedEntries (.text "many"))) {} #[]
      (o.fault = none ↔ Template.Legible (countedEntries (.text "many")) ∧ Page.HasSources {}
          ((Template.items (.mapping (countedEntries (.text "many")))).filterMap Template.element?)) ∧
        o.state.toList.map Drawing.operation = ["save_state", "text_box", "restore_state"] :=
  ⟨rfl, by decide +kernel, (renderBy_returns_iff_legible rfl (by decide +kernel)).1, by decide +kernel⟩

/-- A number of rows that is not a number stops the rendering of the whole page, although no element needs it. -/
theorem renderBy_stops_at_uncountable :
    let o := renderBy {} (.ok noImages) (Recording.accepting ⟨794, 1123⟩)
      (.mapping (countedEntries (.text "nan"))) {} #[]
    o.fault = some .wholeOfNaN ∧ o.state.isEmpty := by
  decide +kernel

end ReportCard
