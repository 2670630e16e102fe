import ReportCard.Proofs.Element.Drawings
import ReportCard.Proofs.Page.Fit

/-!
# Font sizes and the width of the page

All texts of an element have one font size.  It grows with the page like everything else, also where the element gives
none and a table or a caption has one of its own.  Only a text without a font size has always the same, so that a page
keeps its proportions in letters exactly if no such text is painted (`renderExactly_fontSizes_iff`).
-/

namespace ReportCard

namespace Drawing

variable {α : Type}

/-- The font size of the text that is drawn. -/
def fontSize? : Drawing α → Option α
  | textBox _ _ _ _ l _ => some l.fontSize
  | textCell _ _ l => some l.fontSize
  | _ => none

/-- The font sizes of the texts among drawings. -/
def fontSizes (ds : List (Drawing α)) : List α := ds.filterMap fontSize?

theorem fontSizes_flatMap {C : Type} (f : C → List (Drawing α)) (l : List C) :
    fontSizes (l.flatMap f) = l.flatMap fun c => fontSizes (f c) := List.filterMap_flatMap

/-- Where one drawing shows a text, so does the same drawing at another size. -/
theorem ZoomedBy.fontSize?_isSome {k margin : Rat} {d d' : Drawing Rat} (h : ZoomedBy k margin d d') :
    d'.fontSize?.isSome = d.fontSize?.isSome := by
  cases d <;> cases d' <;> first | rfl | exact h.elim

theorem length_fontSizes_of_zoomedBy {k margin : Rat} {ds ds' : List (Drawing Rat)}
    (h : List.Forall₂ (ZoomedBy k margin) ds ds') : (fontSizes ds').length = (fontSizes ds).length := by
  induction h with
  | nil => rfl
  | cons hd _ ih =>
    have hsome := hd.fontSize?_isSome
    simp only [fontSizes, List.filterMap_cons] at ih ⊢
    split <;> split <;> simp_all

end Drawing

open Drawing (fontSizes)

/-! ### The font size of an element -/

namespace Element

section

variable {α : Type} [Scalar α]

/-- The font size of the texts that an element shows, if it shows any. -/
def letterSize (e : Element α) (scale : α) : α :=
  match e.kind with
  | some .text | some .dynamic => e.textSize
  | some .image => Scalar.ofNat 8 * scale
  | some .table => Table.fontSize e scale
  | _ => Scalar.zero

theorem IsLettering.fontSize {e : Element α} {scale : α} {l : Lettering α} (h : e.IsLettering scale l) :
    l.fontSize = e.letterSize scale := by
  unfold IsLettering at h
  unfold letterSize
  rcases hkind : e.kind with _ | _ | _ | _ | _ | _ | _ <;> rw [hkind] at h
  · exact h.elim
  · exact h.elim
  · exact h.elim
  · obtain ⟨face, rfl⟩ := h
    rfl
  · obtain ⟨face, rfl⟩ := h
    rfl
  · exact congrArg Lettering.fontSize h
  · obtain rfl | ⟨bold, rfl⟩ := h <;> rfl

/-- All texts of an element have the same font size. -/
theorem eq_letterSize_of_mem {e : Element α} {r : Record} {images : Images} {scale x : α}
    (hx : x ∈ fontSizes (e.paint r images scale).actions) : x = e.letterSize scale := by
  obtain ⟨d, hd, hsize⟩ := List.mem_filterMap.1 hx
  have hpaint := bracketed_paint_of (P := fun d => ∀ x, d.fontSize? = some x → x = e.letterSize scale)
    (fun d hd x hx => by cases d <;> first | exact hd.elim | cases hx) e
    (fun l hl d hd x hx => by cases hd <;> exact (Option.some.inj hx).symm.trans hl.fontSize)
    (fun _ d ⟨data, b, hd⟩ x hx => by rw [hd] at hx; cases hx) r images
  obtain hbare | heq := hpaint.every.of_mem_actions hd
  · cases d <;> first | exact Bool.noConfusion hbare | cases hsize
  · exact heq x hsize

end

/-- The element shows a text of its own, or that of a field, and gives no font size for it. -/
def IsUnsized (e : Element Rat) : Prop :=
  (e.kind = some .text ∨ e.kind = some .dynamic) ∧ ∀ x, e.style.fontSize = some x → x = 0

theorem isNil_rat (x : Rat) : Scalar.isNil x = decide (x = 0) := by simp [Scalar.isNil]

variable {k : Rat}

private theorem orElse_map (hk : k ≠ 0) (x : Option Rat) (y : Rat) :
    Scalar.orElse (x.map (k * ·)) (k * y) = k * Scalar.orElse x y := by
  cases x with
  | none => rfl
  | some x =>
    simp only [Scalar.orElse, Option.map_some, isNil_rat, mul_eq_zero, hk, false_or]
    split <;> rfl

/-- Twelve points stay twelve points. -/
theorem letterSize_of_isUnsized {e : Element Rat} (h : e.IsUnsized) (scale : Rat) : e.letterSize scale = 12 := by
  have hsize : e.textSize = 12 := by
    unfold textSize
    cases hx : e.style.fontSize with
    | none => rfl
    | some x =>
      rw [h.2 x hx]
      rfl
  unfold letterSize
  rcases h.1 with hkind | hkind <;> rw [hkind] <;> exact hsize

/-- Every other font size grows with the element and its scale. -/
theorem letterSize_zoom (hk : 0 < k) {e : Element Rat} (h : ¬e.IsUnsized) (scale : Rat) :
    (e.zoom k).letterSize (k * scale) = k * e.letterSize scale := by
  have hkind : (e.zoom k).kind = e.kind := rfl
  have hsized (htext : e.kind = some .text ∨ e.kind = some .dynamic) : (e.zoom k).textSize = k * e.textSize := by
    unfold textSize
    rw [zoom_style]
    dsimp only
    cases hx : e.style.fontSize with
    | none => exact absurd ⟨htext, fun x hx' => by rw [hx] at hx'; cases hx'⟩ h
    | some x =>
      have hne : x ≠ 0 := fun hzero => h ⟨htext, fun y hy => by rw [hx] at hy; exact Option.some.inj hy ▸ hzero⟩
      simp [Scalar.orElse, isNil_rat, hk.ne', hne]
  unfold letterSize
  rw [hkind]
  split
  · exact hsized (.inl ‹_›)
  · exact hsized (.inr ‹_›)
  · exact mul_left_comm _ _ _
  · rw [Table.fontSize, Table.fontSize, ← orElse_map hk.ne', mul_left_comm]
    rfl
  · exact (mul_zero k).symm

end Element

/-! ### The elements of a page -/

namespace Page

variable {k w reference : Rat} {r : Record} {images : Images} {e : Element Rat}

private theorem isUnsized_apply (hfactor : (⟨w, reference⟩ : Scaler Rat).factor ≠ 0) :
    ((⟨w, reference⟩ : Scaler Rat).apply e).IsUnsized ↔ e.IsUnsized := by
  refine and_congr Iff.rfl ?_
  show (∀ x, e.style.fontSize.map (⟨w, reference⟩ : Scaler Rat).scale = some x → x = 0) ↔ _
  cases e.style.fontSize with
  | none => simp
  | some x => simp [Scaler.scale, hfactor]

variable (r images e) in
private theorem fontSizes_eq_replicate (s : Scaler Rat) :
    fontSizes (drawings r images s e) =
      List.replicate (fontSizes (drawings r images s e)).length ((s.apply e).letterSize s.factor) :=
  List.eq_replicate_of_mem fun _ hx => Element.eq_letterSize_of_mem hx

/-- On a page that is `k` times as wide an element shows as many texts. -/
theorem length_fontSizes (hk : 0 < k) :
    (fontSizes (drawings r images ⟨k * w, reference⟩ e)).length =
      (fontSizes (drawings r images ⟨w, reference⟩ e)).length := by
  rw [drawings, drawings, Scaler.apply_mul, Scaler.factor_mul]
  exact Drawing.length_fontSizes_of_zoomedBy (Element.rel_paint_zoom hk _ r images _).actions

/-- The texts of an element without a font size for them have twelve points, on every page. -/
theorem fontSizes_of_isUnsized (hfactor : (⟨w, reference⟩ : Scaler Rat).factor ≠ 0) (h : e.IsUnsized) :
    fontSizes (drawings r images ⟨w, reference⟩ e) =
      List.replicate (fontSizes (drawings r images ⟨w, reference⟩ e)).length 12 := by
  have hsizes := fontSizes_eq_replicate r images e ⟨w, reference⟩
  rwa [Element.letterSize_of_isUnsized ((isUnsized_apply hfactor).2 h)] at hsizes

/-- The texts of any other element are `k` times as large on a page that is `k` times as wide. -/
theorem fontSizes_of_not_isUnsized (hk : 0 < k) (hfactor : (⟨w, reference⟩ : Scaler Rat).factor ≠ 0)
    (h : ¬e.IsUnsized) :
    fontSizes (drawings r images ⟨k * w, reference⟩ e) =
      (fontSizes (drawings r images ⟨w, reference⟩ e)).map (k * ·) := by
  rw [fontSizes_eq_replicate r images e ⟨w, reference⟩, fontSizes_eq_replicate r images e ⟨k * w, reference⟩,
    length_fontSizes hk, Scaler.apply_mul, Scaler.factor_mul,
    Element.letterSize_zoom hk (mt (isUnsized_apply hfactor).1 h), List.map_replicate]

/-- The texts of an element grow with the page exactly if there are none, or it gives a font size for them. -/
theorem fontSizes_mul_iff (hk : 0 < k) (hone : k ≠ 1) (hfactor : (⟨w, reference⟩ : Scaler Rat).factor ≠ 0)
    (hfactor' : (⟨k * w, reference⟩ : Scaler Rat).factor ≠ 0) :
    fontSizes (drawings r images ⟨k * w, reference⟩ e) =
        (fontSizes (drawings r images ⟨w, reference⟩ e)).map (k * ·) ↔
      (e.IsUnsized → fontSizes (drawings r images ⟨w, reference⟩ e) = []) := by
  by_cases h : e.IsUnsized
  · rw [fontSizes_of_isUnsized hfactor' h, length_fontSizes hk, fontSizes_of_isUnsized hfactor h]
    generalize (fontSizes (drawings r images ⟨w, reference⟩ e)).length = n
    cases n with
    | zero => simp
    | succ n => simp [h, List.replicate_succ, hone]
  · exact iff_of_true (fontSizes_of_not_isUnsized hk hfactor h) fun hunsized => absurd hunsized h

end Page

/-- Lists that are put together from parts of the same lengths are equal if the parts are. -/
private theorem flatMap_eq_flatMap_iff {C B : Type} {f g : C → List B} {l : List C}
    (h : ∀ c ∈ l, (f c).length = (g c).length) : l.flatMap f = l.flatMap g ↔ ∀ c ∈ l, f c = g c := by
  refine ⟨fun heq => ?_, List.flatMap_congr⟩
  induction l with
  | nil => simp
  | cons c l ih =>
    rw [List.flatMap_cons, List.flatMap_cons] at heq
    obtain ⟨hc, hl⟩ := List.append_inj heq (h c List.mem_cons_self)
    have hrest := ih (fun d hd => h d (List.mem_cons_of_mem c hd)) hl
    exact List.forall_mem_cons.2 ⟨hc, hrest⟩

/-! ### The reference width -/

namespace Scaler

variable {settings : Settings} {u : Float} {s : Scaler Float}

private theorem not_le_of_ofValues {reference : Float} (h : ofValues (.float u) (.float reference) = .ok s) :
    ¬s.referenceWidth ≤ 0.0 := by
  simp only [ofValues, Value.isNonpositive, Value.asFloat, bind, Except.bind, pure, Except.pure] at h
  by_cases hle : reference ≤ 0.0
  · simp [hle] at h
  · rw [decide_eq_false hle] at h
    cases hzero : reference == 0.0 with
    | true => simp [hzero] at h
    | false =>
      rw [hzero] at h
      rw [← Except.ok.inj h]
      exact hle

/-- The width that lengths are divided by is above zero. -/
theorem not_le_of_forPage {canvas : Option (Size Float)}
    (h : forPage settings (.float u) (canvas.map fun c => .float c.width) = .ok s) : ¬s.referenceWidth ≤ 0.0 := by
  cases canvas with
  | some c => exact not_le_of_ofValues h
  | none =>
    cases href : settings.reference with
    | error fault => simp [forPage, href, bind, Except.bind] at h
    | ok reference =>
      simp only [forPage, href, bind, Except.bind, Option.map_none] at h
      exact not_le_of_ofValues h

end Scaler

section Render

variable {settings : Settings} {retrieval : Except Fault Retrieval} {template : Value} {r : Record}

/-- An exact page that is `k` times as wide shows as many texts, and their font sizes are `k` times as large, except for
texts and fields that give no font size: these have twelve points on either page.  So all font sizes grow with the page
exactly if no such text is painted, or the pages are equally wide. -/
theorem renderExactly_fontSizes_iff {k w : Rat} (hk : 0 < k) (hw : 0 < w) {es : List (Element Float)}
    (helements : (Template.elements template).2 = .ok es) (hfinite : ∀ e ∈ es, e.IsFinite)
    (hreference : ∀ x, Template.reference settings template = .ok x → (Exact.rat? x).isSome) (h h' : Rat) :
    ∃ o o', renderExactly settings retrieval ⟨w, h⟩ template r = some o ∧
      renderExactly settings retrieval ⟨k * w, h'⟩ template r = some o' ∧ o.fault = o'.fault ∧
      (o.fault ≠ none → o.state = #[] ∧ o'.state = #[]) ∧
      (o.fault = none → ∃ es' images reference, es.mapM Element.rational? = some es' ∧
        let sizes (width : Rat) (e : Element Rat) := fontSizes (Page.drawings r images ⟨width, reference⟩ e)
        o.state = (es'.flatMap (Page.drawings r images ⟨w, reference⟩)).toArray ∧
        o'.state = (es'.flatMap (Page.drawings r images ⟨k * w, reference⟩)).toArray ∧
        (∀ e ∈ es', ¬e.IsUnsized → sizes (k * w) e = (sizes w e).map (k * ·)) ∧
        (∀ e ∈ es', e.IsUnsized → ∃ n, sizes w e = List.replicate n 12 ∧ sizes (k * w) e = List.replicate n 12) ∧
        (fontSizes o'.state.toList = (fontSizes o.state.toList).map (k * ·) ↔
          k = 1 ∨ ∀ e ∈ es', e.IsUnsized → sizes w e = [])) := by
  cases hprepared : (prepareBy settings retrieval 0.0 template r).2 with
  | error fault =>
    obtain ⟨o, ho, hfault, hstate⟩ := renderExactly_of_error ⟨w, h⟩ hprepared
    obtain ⟨o', ho', hfault', hstate'⟩ := renderExactly_of_error ⟨k * w, h'⟩ hprepared
    exact ⟨o, o', ho, ho', hfault.trans hfault'.symm, fun _ => ⟨hstate, hstate'⟩, fun h => by simp [hfault] at h⟩
  | ok prepared =>
    obtain ⟨elements, s, haul⟩ := prepared
    obtain ⟨hread, ⟨canvas, -, hscaler⟩, -⟩ := prepareBy_snd_eq_ok.1 hprepared
    obtain rfl : es = elements := Except.ok.inj (helements.symm.trans hread)
    obtain ⟨es', hes⟩ := Element.exists_mapM_rational? hfinite
    have hwidth := (prepareBy_congr_width hprepared 0.0).1
    obtain ⟨reference, href⟩ := Option.isSome_iff_exists.1 (hreference _ hwidth)
    have hpos : 0 < reference := Exact.pos_of_rat? href (Scaler.not_le_of_forPage hscaler)
    have hfactor : (⟨w, reference⟩ : Scaler Rat).factor ≠ 0 := (div_pos hw hpos).ne'
    have hfactor' : (⟨k * w, reference⟩ : Scaler Rat).factor ≠ 0 := (div_pos (mul_pos hk hw) hpos).ne'
    obtain ⟨o, ho, hfault, hstate⟩ := renderExactly_of_ok ⟨w, h⟩ hprepared hes href
    obtain ⟨o', ho', hfault', hstate'⟩ := renderExactly_of_ok ⟨k * w, h'⟩ hprepared hes href
    refine ⟨o, o', ho, ho', hfault.trans hfault'.symm, fun h => absurd hfault h, fun _ => ?_⟩
    refine ⟨es', haul.images, reference, hes, hstate, hstate',
      fun e _ => Page.fontSizes_of_not_isUnsized hk hfactor, fun e _ hunsized => ?_, ?_⟩
    · refine ⟨_, Page.fontSizes_of_isUnsized hfactor hunsized, ?_⟩
      rw [← Page.length_fontSizes hk]
      exact Page.fontSizes_of_isUnsized hfactor' hunsized
    · rw [hstate, hstate', List.toList_toArray, List.toList_toArray, Drawing.fontSizes_flatMap,
        Drawing.fontSizes_flatMap, List.map_flatMap]
      by_cases hone : k = 1
      · simp [hone]
      · -- the texts of each element can be compared on their own, as there are as many on either page
        rw [flatMap_eq_flatMap_iff fun e _ => (Page.length_fontSizes hk).trans (List.length_map _).symm,
          or_iff_right hone]
        exact forall₂_congr fun e _ => Page.fontSizes_mul_iff hk hone hfactor hfactor'

end Render

/-- A template with a text that gives no font size and one that gives one, and with a caption. -/
def letteredTemplate : Value :=
  .mapping [("elements", .list [
    .mapping [("type", .text "text"), ("width", .int 100), ("content", .text "Hi")],
    .mapping [("type", .text "text"), ("width", .int 100), ("content", .text "Term"),
      ("style", .mapping [("fontSize", .int 20)])],
    .mapping [("type", .text "image"), ("width", .int 60), ("height", .int 40),
      ("metadata", .mapping [("field", .text "school_logo"), ("isPlaceholder", .bool true)])]])]

/-- The exact page of the template at a width. -/
def letteredPage (width : Rat) : Option (Rendering (Recording Rat)) :=
  renderExactly {} (.ok fun _ => ([], .failed "")) ⟨width, 1123⟩ letteredTemplate {}

/-- On a page of half the width all letters are half as large but those of the first text: an element that gives no font
size shows a text. -/
theorem renderExactly_fontSizes_iff_half :
    ∃ o o', letteredPage 794 = some o ∧ letteredPage (1 / 2 * 794) = some o' ∧ o.fault = none ∧
      fontSizes o.state.toList = [12, 20, 8] ∧ fontSizes o'.state.toList = [12, 10, 4] ∧
      ∃ (es : List (Element Rat)) (images : Images) (reference : Rat),
        o.state = (es.flatMap (Page.drawings {} images ⟨794, reference⟩)).toArray ∧
        ∃ e ∈ es, e.IsUnsized ∧ fontSizes (Page.drawings {} images ⟨794, reference⟩ e) ≠ [] := by
  cases helements : (Template.elements letteredTemplate).2 with
  | error fault =>
    have hok : (Template.elements letteredTemplate).2.isOk = true := by decide +kernel
    rw [helements] at hok
    cases hok
  | ok es =>
    have hfinite : ((Template.elements letteredTemplate).2.toOption.map fun es => es.all (decide ·.IsFinite)) =
        some true := by
      decide +kernel
    have href : ((Template.reference {} letteredTemplate).toOption.all fun x => (Exact.rat? x).isSome) = true := by
      decide +kernel
    have hpage : (letteredPage 794).map (fun o => (o.fault, fontSizes o.state.toList)) = some (none, [12, 20, 8]) := by
      decide +kernel
    have hpage' : (letteredPage (1 / 2 * 794)).map (fun o => fontSizes o.state.toList) = some [12, 10, 4] := by
      decide +kernel
    rw [helements] at hfinite
    have hall : ∀ e ∈ es, e.IsFinite := fun e he =>
      of_decide_eq_true (List.all_eq_true.1 (Option.some.inj hfinite) e he)
    obtain ⟨o, o', ho, ho', -, -, hpaints⟩ := @renderExactly_fontSizes_iff {} (.ok fun _ => ([], .failed ""))
      letteredTemplate {} (1 / 2) 794 (by norm_num) (by norm_num) es helements hall
      (fun x hx => by rwa [hx] at href) 1123 1123
    rw [show letteredPage 794 = some o from ho] at hpage
    rw [show letteredPage (1 / 2 * 794) = some o' from ho'] at hpage'
    obtain ⟨hfault, hsizes⟩ := Prod.mk.inj (Option.some.inj hpage)
    have hsizes' : fontSizes o'.state.toList = [12, 10, 4] := Option.some.inj hpage'
    obtain ⟨es', images, reference, -, hstate, -, -, -, hiff⟩ := hpaints hfault
    refine ⟨o, o', ho, ho', hfault, hsizes, hsizes', es', images, reference, hstate, ?_⟩
    by_contra hnone
    have hgrow := hiff.2 (.inr fun e he hunsized => by_contra fun hne => hnone ⟨e, he, hunsized, hne⟩)
    rw [hsizes, hsizes'] at hgrow
    exact absurd hgrow (by norm_num)

/-- The font size of a text that gives none is the same on a page of half the width. -/
theorem fontSizes_unsized_half :
    (letteredPage 794).map (fun o => (fontSizes o.state.toList)[0]?) = some (some 12) ∧
      (letteredPage (1 / 2 * 794)).map (fun o => (fontSizes o.state.toList)[0]?) = some (some 12) ∧
      (12 : Rat) ≠ 1 / 2 * 12 := by
  decide +kernel

end ReportCard
