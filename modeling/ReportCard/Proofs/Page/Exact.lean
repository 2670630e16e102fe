import Mathlib.Tactic.NormNum
import ReportCard.Proofs.Element.Zoom
import ReportCard.Proofs.Number.Double
import ReportCard.Proofs.Page.Preparation

/-!
# Rendering with exact numbers

The geometry of a page is worked out with doubles, which are rounded at every step.  Rendering exactly takes the numbers
of a template for the rationals that their doubles stand for, and works with these instead; nothing else differs.  Exact
pages that are `k` times as wide show the same drawings `k` times as large (`renderExactly_zoomedBy`).
-/

namespace ReportCard

namespace Element

/-- The lengths of an element that are given. -/
def lengths {α : Type} (e : Element α) : List α :=
  [e.box.x, e.box.y, e.box.width, e.box.height] ++ e.style.fontSize.toList ++ e.style.borderWidth.toList ++
    e.metadata.columnWidths.getD []

/-- All lengths of the element are finite. -/
def IsFinite (e : Element Float) : Prop := ∀ x ∈ e.lengths, (Exact.rat? x).isSome

instance (e : Element Float) : Decidable e.IsFinite := inferInstanceAs (Decidable (∀ x ∈ e.lengths, _))

/-- The element with the rationals that its lengths stand for, if all of them are finite. -/
def rational? (e : Element Float) : Option (Element Rat) :=
  if e.IsFinite then some (e.map fun x => (Exact.rat? x).getD 0) else none

theorem exists_mapM_rational? {es : List (Element Float)} (h : ∀ e ∈ es, e.IsFinite) :
    ∃ es', es.mapM rational? = some es' := by
  induction es with
  | nil => exact ⟨[], rfl⟩
  | cons e es ih =>
    obtain ⟨es', hes⟩ := ih fun e' he' => h e' (by simp [he'])
    have he : e.IsFinite := h e (by simp)
    exact ⟨e.map (fun x => (Exact.rat? x).getD 0) :: es', by simp [rational?, he, hes]⟩

end Element

/-- Renders a template for a record onto a recording with exact numbers, if all numbers of the template are finite. -/
def renderExactly (settings : Settings) (retrieval : Except Fault Retrieval) (size : Size Rat) (template : Value)
    (r : Record) : Option (Rendering (Recording Rat)) :=
  -- preparing only hands on the width of the page, so that any double will do
  let (notes, prepared) := prepareBy settings retrieval 0.0 template r
  match prepared with
  | .error fault => some { state := #[], notes, fault := some fault }
  | .ok (es, s, haul) => do
    let es ← es.mapM Element.rational?
    let reference ← Exact.rat? s.referenceWidth
    let o := (Recording.accepting size).paint (Page.paint r haul.images ⟨size.width, reference⟩ es) #[]
    return { state := o.state, notes := notes ++ o.notes, fetchNotes := haul.notes, requests := haul.requests,
             fault := o.fault }

/-! ### The width of the page -/

namespace Scaler

variable {settings : Settings} {canvas : Option (Size Float)} {u v : Float} {s : Scaler Float}

private theorem ofValues_float {reference : Float} (h : ofValues (.float u) (.float reference) = .ok s) :
    s.referenceWidth = reference ∧ ofValues (.float v) (.float reference) = .ok ⟨v, reference⟩ := by
  simp only [ofValues, Value.isNonpositive, Value.asFloat, bind, Except.bind, pure, Except.pure] at h ⊢
  generalize decide (reference ≤ 0.0) = nonpositive at h ⊢
  generalize (reference == 0.0) = zero at h ⊢
  cases nonpositive <;> cases zero <;> simp_all
  cases h
  rfl

/-- Whether there is a scaler depends on the canvas only. -/
private theorem forPage_float (h : forPage settings (.float u) (canvas.map fun c => .float c.width) = .ok s) :
    (canvas.map (fun c => .ok c.width)).getD settings.reference = .ok s.referenceWidth ∧
      forPage settings (.float v) (canvas.map fun c => .float c.width) = .ok ⟨v, s.referenceWidth⟩ := by
  cases canvas with
  | some c =>
    obtain ⟨hreference, hv⟩ := ofValues_float (v := v) h
    exact ⟨congrArg Except.ok hreference.symm, hreference ▸ hv⟩
  | none =>
    cases href : settings.reference with
    | error fault => simp [forPage, href, bind, Except.bind] at h
    | ok reference =>
      simp only [forPage, href, bind, Except.bind, Option.map_none] at h ⊢
      obtain ⟨hreference, hv⟩ := ofValues_float (v := v) h
      exact ⟨congrArg Except.ok hreference.symm, hreference ▸ hv⟩

end Scaler

section Render

variable {settings : Settings} {retrieval : Except Fault Retrieval} {template : Value} {r : Record}

/-- What is prepared does not depend on the width of the page, which is only handed on. -/
theorem prepareBy_congr_width {u : Float} {es : List (Element Float)} {s : Scaler Float} {haul : Fetcher.Haul}
    (h : (prepareBy settings retrieval u template r).2 = .ok (es, s, haul)) (v : Float) :
    Template.reference settings template = .ok s.referenceWidth ∧
      (prepareBy settings retrieval v template r).2 = .ok (es, ⟨v, s.referenceWidth⟩, haul) := by
  -- of the three things that are prepared, only the scaler is given the width
  obtain ⟨helements, ⟨canvas, hcanvas, hs⟩, hhaul⟩ := prepareBy_snd_eq_ok.1 h
  obtain ⟨hreference, hv⟩ := Scaler.forPage_float (v := v) hs
  refine ⟨?_, prepareBy_snd_eq_ok.2 ⟨helements, ⟨canvas, hcanvas, hv⟩, hhaul⟩⟩
  rw [Template.reference, hcanvas]
  cases canvas <;> exact hreference

/-- Rendering exactly what can be prepared returns, with the exact drawings of the elements. -/
theorem renderExactly_of_ok (size : Size Rat) {u : Float} {es : List (Element Float)} {s : Scaler Float}
    {haul : Fetcher.Haul} {es' : List (Element Rat)} {reference : Rat}
    (h : (prepareBy settings retrieval u template r).2 = .ok (es, s, haul))
    (hes : es.mapM Element.rational? = some es') (hreference : Exact.rat? s.referenceWidth = some reference) :
    ∃ o, renderExactly settings retrieval size template r = some o ∧ o.fault = none ∧
      o.state = (es'.flatMap (Page.drawings r haul.images ⟨size.width, reference⟩)).toArray := by
  have hok := (prepareBy_congr_width h 0.0).2
  unfold renderExactly
  rcases hprepared : prepareBy settings retrieval 0.0 template r with ⟨notes, result⟩
  obtain rfl : result = _ := (congrArg Prod.snd hprepared).symm.trans hok
  simp only [hes, hreference, bind, Option.bind]
  refine ⟨_, rfl, ?_, ?_⟩ <;> rw [Recording.paint_accepting]
  · exact Page.fault?_paint ..
  · simp [Page.actions_paint]

/-- Rendering exactly what cannot be prepared stops with the same fault, and paints nothing. -/
theorem renderExactly_of_error (size : Size Rat) {fault : Fault}
    (h : (prepareBy settings retrieval 0.0 template r).2 = .error fault) :
    ∃ o, renderExactly settings retrieval size template r = some o ∧ o.fault = some fault ∧ o.state = #[] := by
  unfold renderExactly
  rcases hprepared : prepareBy settings retrieval 0.0 template r with ⟨notes, result⟩
  obtain rfl : result = .error fault := (congrArg Prod.snd hprepared).symm.trans h
  exact ⟨_, rfl, rfl, rfl⟩

/-- An exact page that is `k` times as wide shows the drawings of each element `k` times as large, with the same texts,
colors, fonts, line widths and images.  Only a text in a cell keeps its margin: two points in a table, five in the box
for a failed image, none in that for a missing one.  What stops one of the pages before it is painted stops the other
one, too. -/
theorem renderExactly_zoomedBy {k : Rat} (hk : 0 < k) {es : List (Element Float)}
    (helements : (Template.elements template).2 = .ok es) (hfinite : ∀ e ∈ es, e.IsFinite)
    (hreference : ∀ x, Template.reference settings template = .ok x → (Exact.rat? x).isSome) (w h h' : Rat) :
    ∃ o o', renderExactly settings retrieval ⟨w, h⟩ template r = some o ∧
      renderExactly settings retrieval ⟨k * w, h'⟩ template r = some o' ∧ o.fault = o'.fault ∧
      (o.fault ≠ none → o.state = #[] ∧ o'.state = #[]) ∧
      (o.fault = none → ∃ es' images reference, es.mapM Element.rational? = some es' ∧
        (∃ x, Template.reference settings template = .ok x ∧ Exact.rat? x = some reference) ∧
        o.state = (es'.flatMap (Page.drawings r images ⟨w, reference⟩)).toArray ∧
        o'.state = (es'.flatMap (Page.drawings r images ⟨k * w, reference⟩)).toArray ∧
        ∀ e ∈ es', List.Forall₂ (Drawing.ZoomedBy k (e.margin r)) (Page.drawings r images ⟨w, reference⟩ e)
          (Page.drawings r images ⟨k * w, reference⟩ e)) := by
  cases hprepared : (prepareBy settings retrieval 0.0 template r).2 with
  | error fault =>
    obtain ⟨o, ho, hfault, hstate⟩ := renderExactly_of_error ⟨w, h⟩ hprepared
    obtain ⟨o', ho', hfault', hstate'⟩ := renderExactly_of_error ⟨k * w, h'⟩ hprepared
    exact ⟨o, o', ho, ho', hfault.trans hfault'.symm, fun _ => ⟨hstate, hstate'⟩, fun h => by simp [hfault] at h⟩
  | ok prepared =>
    obtain ⟨elements, s, haul⟩ := prepared
    obtain rfl : es = elements := Except.ok.inj (helements.symm.trans (prepareBy_snd_eq_ok.1 hprepared).1)
    obtain ⟨es', hes⟩ := Element.exists_mapM_rational? hfinite
    have hwidth := (prepareBy_congr_width hprepared 0.0).1
    obtain ⟨reference, href⟩ := Option.isSome_iff_exists.1 (hreference _ hwidth)
    obtain ⟨o, ho, hfault, hstate⟩ := renderExactly_of_ok ⟨w, h⟩ hprepared hes href
    obtain ⟨o', ho', hfault', hstate'⟩ := renderExactly_of_ok ⟨k * w, h'⟩ hprepared hes href
    refine ⟨o, o', ho, ho', hfault.trans hfault'.symm, fun h => absurd hfault h, fun _ => ?_⟩
    refine ⟨es', haul.images, reference, hes, ⟨_, hwidth, href⟩, hstate, hstate', fun e _ => ?_⟩
    rw [Page.drawings, Page.drawings, Scaler.apply_mul, Scaler.factor_mul]
    exact (Element.rel_paint_zoom hk ((⟨w, reference⟩ : Scaler Rat).apply e) r haul.images _).actions

end Render

/-- A template with a rule, a logo that is missing, and a table with a wide and a narrow column. -/
def wideTemplate : Value :=
  .mapping [("canvasSize", .mapping [("width", .int 400), ("height", .int 500)]),
    ("elements", .list [
      .mapping [("type", .text "line"), ("width", .int 380),
        ("style", .mapping [("borderBottom", .text "2 solid #333333")])],
      .mapping [("type", .text "image"), ("width", .int 60), ("height", .int 40),
        ("metadata", .mapping [("field", .text "school_logo"), ("isPlaceholder", .bool true)])],
      .mapping [("type", .text "table"), ("y", .int 50), ("width", .int 300), ("height", .int 90),
        ("metadata", .mapping [("tableType", .text "subjects"), ("rows", .int 1), ("cols", .int 2),
          ("headers", .list [.text "Subject", .text "Total"]), ("columnWidths", .list [.int 3, .int 1])])]])]

/-- A page of half a point more than the canvas, and one that is one and a half times as wide. -/
theorem renderExactly_zoomedBy_wide :
    let page (width : Rat) := renderExactly {} (.ok fun _ => ([], .failed "")) ⟨width, 500⟩ wideTemplate {}
    ∃ o o', page (801 / 2) = some o ∧ page (3 / 2 * (801 / 2)) = some o' ∧ o.fault = none ∧ o.state.size = 17 ∧
      ∃ (es : List (Element Rat)) (images : Images) (reference : Rat),
        o.state = (es.flatMap (Page.drawings {} images ⟨801 / 2, reference⟩)).toArray ∧
        o'.state = (es.flatMap (Page.drawings {} images ⟨3 / 2 * (801 / 2), reference⟩)).toArray ∧
        ∀ e ∈ es, List.Forall₂ (Drawing.ZoomedBy (3 / 2) (e.margin {}))
          (Page.drawings {} images ⟨801 / 2, reference⟩ e)
          (Page.drawings {} images ⟨3 / 2 * (801 / 2), reference⟩ e) := by
  intro page
  cases helements : (Template.elements wideTemplate).2 with
  | error fault =>
    have hok : (Template.elements wideTemplate).2.isOk = true := by decide +kernel
    rw [helements] at hok
    cases hok
  | ok es =>
    have hfinite : ((Template.elements wideTemplate).2.toOption.map fun es => es.all (decide ·.IsFinite)) =
        some true := by
      decide +kernel
    have href : ((Template.reference {} wideTemplate).toOption.all fun x => (Exact.rat? x).isSome) = true := by
      decide +kernel
    have hpage : (page (801 / 2)).map (fun o => (o.fault, o.state.size)) = some (none, 17) := by decide +kernel
    rw [helements] at hfinite
    have hall : ∀ e ∈ es, e.IsFinite := fun e he =>
      of_decide_eq_true (List.all_eq_true.1 (Option.some.inj hfinite) e he)
    obtain ⟨o, o', ho, ho', -, -, hpaints⟩ := @renderExactly_zoomedBy {} (.ok fun _ => ([], .failed ""))
      wideTemplate {} (3 / 2) (by norm_num) es helements hall (fun x hx => by rwa [hx] at href) (801 / 2) 500 500
    rw [show page (801 / 2) = some o from ho] at hpage
    obtain ⟨hfault, hsize⟩ := Prod.mk.inj (Option.some.inj hpage)
    obtain ⟨es', images, reference, -, -, hstate, hstate', hzoomed⟩ := hpaints hfault
    exact ⟨o, o', ho, ho', hfault, hsize, es', images, reference, hstate, hstate', hzoomed⟩

end ReportCard
