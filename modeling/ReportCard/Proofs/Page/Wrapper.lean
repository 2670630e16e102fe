import ReportCard.Proofs.Element.Reading
import ReportCard.Proofs.Page.Preparation

/-!
# Wrappers

A template may be the content of a wrapper.  The elements of the wrapper are those of its content, whatever else it
holds.  The canvas is looked up in both layers, the content first, and a layer that does not declare one is passed over;
so a wrapper that declares none is rendered like its content (`Template.Wraps.transparent`).
-/

namespace ReportCard

variable {settings : Settings} {retrieval : Except Fault Retrieval} {r : Record} {template template' : Value}

/-! ### What rendering reads of a template -/

/-- Rendering reads the elements and the canvas of a template, and nothing else. -/
theorem renderBy_congr {σ : Type} (helements : Template.elements template = Template.elements template')
    (hcanvas : Template.canvasSize template = Template.canvasSize template') (surface : Surface Float σ) (start : σ) :
    renderBy settings retrieval surface template r start = renderBy settings retrieval surface template' r start := by
  have hprepare : prepareBy settings retrieval surface.size.width template r =
      prepareBy settings retrieval surface.size.width template' r := by
    simp only [prepareBy, helements, hcanvas]
  simp only [renderBy, hprepare]

/-- The orientation of a document depends on the canvas, and its page is rendered like any other. -/
theorem renderDocumentBy_congr (helements : Template.elements template = Template.elements template')
    (hcanvas : Template.canvasSize template = Template.canvasSize template') (watermark : Value) :
    renderDocumentBy settings retrieval template r watermark =
      renderDocumentBy settings retrieval template' r watermark := by
  simp only [renderDocumentBy, hcanvas, renderBy_congr helements hcanvas]

namespace Template

variable {t b : Entries}

/-! ### Wrappers -/

/-- A template is the content of a wrapper, and is no wrapper itself. -/
structure Wraps (t b : Entries) : Prop where
  content : t.get "content" = .mapping b
  elements : b.has "elements" = true
  bare : ∀ inner : Entries, b.get "content" = .mapping inner → inner.has "elements" = false

namespace Wraps

theorem body_wrapper (h : Wraps t b) : body t = b := by
  simp [body, h.content, h.elements, Value.entries?]

theorem body_content (h : Wraps t b) : body b = b := by
  unfold body
  split
  · rename_i inner hinner
    rw [h.bare inner (Value.entries?_eq_some_iff.1 hinner)]
    rfl
  · rfl

/-- A wrapper and its content hold the same items. -/
theorem elements_eq (h : Wraps t b) : Template.elements (.mapping t) = Template.elements (.mapping b) := by
  have hentries (es : Entries) : entries (.mapping es) = .ok es := rfl
  simp only [Template.elements, hentries, h.body_wrapper, h.body_content]

/-- The canvas of a wrapper is that of its content, or else that of its own layer. -/
theorem canvasSize_wrapper (h : Wraps t b) : canvasSize (.mapping t) =
    sizeAt b >>= fun size? => size?.elim (sizeAt t) fun size => .ok (some size) := by
  show (sizeAt (body t) >>= _) = _
  rw [h.body_wrapper]
  cases sizeAt b with
  | error fault => rfl
  | ok size? => cases size? <;> rfl

/-- The canvas of a template that is no wrapper is that of its only layer. -/
theorem canvasSize_content (h : Wraps t b) : canvasSize (.mapping b) = sizeAt b := by
  show (sizeAt (body b) >>= _) = _
  rw [h.body_content]
  cases hsize : sizeAt b with
  | error fault => rfl
  | ok size? => cases size? <;> simp [bind, Except.bind, pure, Except.pure]

/-- A wrapper that declares no canvas has the canvas of its content. -/
theorem canvasSize_eq (h : Wraps t b) (ht : sizeAt t = .ok none) :
    canvasSize (.mapping t) = canvasSize (.mapping b) := by
  rw [h.canvasSize_wrapper, h.canvasSize_content, ht]
  cases sizeAt b with
  | error fault => rfl
  | ok size? => cases size? <;> rfl

/-- A wrapper has the elements of its content, with the same notes and the same fault.  It has the canvas that its
content declares, or else the one that it declares itself; if it declares none, it is rendered like its content on any
surface, and the page of its document lies if that of its content does. -/
theorem transparent (h : Wraps t b) :
    Template.elements (.mapping t) = Template.elements (.mapping b) ∧
      (LegibleCanvas t → LegibleCanvas b → ∃ own inner,
        canvasSize (.mapping b) = .ok inner ∧ (∀ size, inner = some size ↔ Declares b size) ∧
          canvasSize (.mapping t) = .ok (inner <|> own) ∧ ∀ size, own = some size ↔ Declares t size) ∧
      (LegibleCanvas t → (∀ size, ¬Declares t size) →
        (∀ (σ : Type) settings retrieval (surface : Surface Float σ) r start,
          renderBy settings retrieval surface (.mapping t) r start =
            renderBy settings retrieval surface (.mapping b) r start) ∧
        ∀ settings retrieval r watermark, renderDocumentBy settings retrieval (.mapping t) r watermark =
          renderDocumentBy settings retrieval (.mapping b) r watermark) := by
  refine ⟨h.elements_eq, fun ht hb => ?_, fun ht hnone => ?_⟩
  · obtain ⟨own, hown, ht⟩ := ht.sizeAt
    obtain ⟨inner, hinner, hb⟩ := hb.sizeAt
    refine ⟨own, inner, h.canvasSize_content.trans hinner, hb, ?_, ht⟩
    rw [h.canvasSize_wrapper, hinner]
    cases inner with
    | none => exact hown
    | some size => rfl
  · obtain ⟨own, hown, ht⟩ := ht.sizeAt
    have hcanvas : canvasSize (.mapping t) = canvasSize (.mapping b) := by
      cases own with
      | none => exact h.canvasSize_eq hown
      | some size => exact absurd ((ht size).1 rfl) (hnone size)
    exact ⟨fun _ _ _ surface _ start => renderBy_congr h.elements_eq hcanvas surface start,
      fun _ _ _ watermark => renderDocumentBy_congr h.elements_eq hcanvas watermark⟩

/-- A letter without a canvas. -/
def letter : Entries := [("elements", .list [.mapping [("type", .text "text"), ("content", .text "Dear parents")]])]

/-- A wrapper around a letter, with elements of its own that nobody reads and a canvas that is to be read off a
value. -/
def wrapped (canvas : Value) : Entries :=
  [("content", .mapping letter), ("elements", .list []), ("canvasSize", canvas)]

/-- The letter is rendered as it is if the canvas of the wrapper is not usable, and on that canvas if it is. -/
theorem transparent_letter :
    (Wraps (wrapped (.text "A4")) letter ∧ LegibleCanvas (wrapped (.text "A4")) ∧
      (∀ size, ¬Declares (wrapped (.text "A4")) size) ∧
      let render := fun template => renderBy {} (.ok fun source => ([], .failed source))
        (Recording.accepting ⟨600, 800⟩) (.mapping template) {} #[]
      render (wrapped (.text "A4")) = render letter ∧ (render letter).state.size = 3) ∧
    let canvas := Value.mapping [("width", .text "900px"), ("height", .text "600px")]
    Wraps (wrapped canvas) letter ∧ LegibleCanvas (wrapped canvas) ∧ LegibleCanvas letter ∧
      ∃ size, canvasSize (.mapping (wrapped canvas)) = .ok (some size) ∧ Declares (wrapped canvas) size := by
  have hwraps (canvas : Value) : Wraps (wrapped canvas) letter := ⟨rfl, rfl, nofun⟩
  have hlayer (canvas : Value) : (wrapped canvas).get "canvasSize" = canvas := rfl
  have hletter : letter.get "canvasSize" = .null := rfl
  constructor
  · have hlegible : LegibleCanvas (wrapped (.text "A4")) := by
      intro size hsize
      rw [hlayer] at hsize
      cases hsize
    have hnone : ∀ size, ¬Declares (wrapped (.text "A4")) size := by
      rintro _ ⟨hsize, _⟩
      rw [hlayer] at hsize
      cases hsize
    have hrender := ((hwraps (.text "A4")).transparent.2.2 hlegible hnone).1
    exact ⟨hwraps _, hlegible, hnone, hrender _ _ _ _ _ _, by decide +kernel⟩
  · intro canvas
    have hlegible : LegibleCanvas (wrapped canvas) := by
      rintro size hsize key hkey ⟨n, hn, -⟩
      rw [hlayer] at hsize
      obtain rfl := Value.mapping.inj (Value.entries?_eq_some_iff.1 hsize)
      rcases List.mem_pair.1 hkey with rfl | rfl <;> cases hn
    have hlegible' : LegibleCanvas letter := by
      intro size hsize
      rw [hletter] at hsize
      cases hsize
    obtain ⟨own, inner, hinner, -, hcanvas, hown⟩ := (hwraps canvas).transparent.2.1 hlegible hlegible'
    obtain ⟨size, hsize, -⟩ := exists_some_of_any (x := canvasSize (.mapping (wrapped canvas)))
      (p := fun size => size.width == 900.0 && size.height == 600.0) (by decide +kernel)
    obtain rfl := Except.ok.inj ((show canvasSize (.mapping letter) = .ok none from rfl).symm.trans hinner)
    refine ⟨hwraps _, hlegible, hlegible', size, hsize, (hown size).1 ?_⟩
    exact Except.ok.inj (hcanvas.symm.trans hsize)

end Wraps

end Template

end ReportCard
