import ReportCard.Proofs.Page.Exact

/-!
# What fits on a page

The canvas of a template is scaled to the width of the page by one factor, so that nothing of it is lost to the sides or
above.  It is as high on the page as it is in proportion to its width: what is too low on the canvas for that falls off
the page, whichever way round the page lies (`renderDocumentBy_fits_iff`).
-/

namespace ReportCard

/-! ### Exact sizes -/

/-- The size with the rationals that its lengths stand for, if both are finite. -/
def Size.rational? (s : Size Float) : Option (Size Rat) := do return ⟨← Exact.rat? s.width, ← Exact.rat? s.height⟩

/-- The scaler with the rationals that its widths stand for, if both are finite. -/
def Scaler.rational? (s : Scaler Float) : Option (Scaler Rat) := do
  return ⟨← Exact.rat? s.pageWidth, ← Exact.rat? s.referenceWidth⟩

theorem Size.rational?_eq_some {s : Size Float} {r : Size Rat} :
    s.rational? = some r ↔ Exact.rat? s.width = some r.width ∧ Exact.rat? s.height = some r.height := by
  obtain ⟨w, h⟩ := r
  unfold rational?
  cases Exact.rat? s.width <;> cases Exact.rat? s.height <;> simp

theorem Exact.pos_of_rat? {x : Float} {q : Rat} (hq : rat? x = some q) (hx : ¬x ≤ 0.0) : 0 < q := by
  rw [le_zero_iff_unpack] at hx
  unfold rat? ofFloat at hq
  cases hu : x.toModel.unpack with
  | notANumber => simp [hu] at hq
  | infinity s => simp [hu] at hq
  | zero s =>
    rw [hu] at hx
    cases s <;> exact absurd rfl hx
  | finite s m e hm =>
    rw [hu] at hx
    cases s with
    | negative => exact absurd rfl hx
    | positive =>
      have hm : (0 : Rat) < ((m : Int) : Rat) := by exact_mod_cast hm
      have hpow : (0 : Rat) < (2 : Rat) ^ e := zpow_pos (by norm_num) e
      rw [hu] at hq
      rw [← Option.some.inj hq]
      exact mul_pos hm hpow

/-! ### Boxes on a page -/

/-- The box lies within an area, from its upper left corner on. -/
structure Box.Within (b : Box Rat) (area : Size Rat) : Prop where
  left : 0 ≤ b.x
  right : b.x + b.width ≤ area.width
  upper : 0 ≤ b.y
  lower : b.y + b.height ≤ area.height

namespace Scaler

variable {s : Scaler Rat} (b : Box Rat)

/-- Between positive widths, a box keeps to both sides of the page if it keeps to those of the canvas. -/
theorem box_right_iff (hpage : 0 < s.pageWidth) (hreference : 0 < s.referenceWidth) :
    (s.box b).x + (s.box b).width ≤ s.pageWidth ↔ b.x + b.width ≤ s.referenceWidth := by
  have hfactor : 0 < s.factor := div_pos hpage hreference
  have hwidth : s.referenceWidth * s.factor = s.pageWidth := mul_div_cancel₀ _ hreference.ne'
  calc b.x * s.factor + b.width * s.factor ≤ s.pageWidth
      _ ↔ (b.x + b.width) * s.factor ≤ s.referenceWidth * s.factor := by rw [add_mul, hwidth]
      _ ↔ b.x + b.width ≤ s.referenceWidth := mul_le_mul_iff_left₀ hfactor

/-- Where a box ends on the page depends on its lower edge and on the width of the canvas. -/
theorem box_lower_iff (hreference : 0 < s.referenceWidth) (height : Rat) :
    (s.box b).y + (s.box b).height ≤ height ↔ (b.y + b.height) * s.pageWidth ≤ s.referenceWidth * height := by
  have hedge : b.y * s.factor + b.height * s.factor = (b.y + b.height) * s.pageWidth / s.referenceWidth := by
    rw [← add_mul]
    exact (mul_div_assoc ..).symm
  calc b.y * s.factor + b.height * s.factor ≤ height
      _ ↔ (b.y + b.height) * s.pageWidth / s.referenceWidth ≤ height := by rw [hedge]
      _ ↔ (b.y + b.height) * s.pageWidth ≤ s.referenceWidth * height := div_le_iff₀' hreference

/-- A box of the canvas leaves the page below or not at all. -/
theorem box_within_iff (hpage : 0 < s.pageWidth) (hreference : 0 < s.referenceWidth) {canvasHeight height : Rat}
    (hb : b.Within ⟨s.referenceWidth, canvasHeight⟩) :
    (s.box b).Within ⟨s.pageWidth, height⟩ ↔ (b.y + b.height) * s.pageWidth ≤ s.referenceWidth * height := by
  have hfactor : 0 ≤ s.factor := (div_pos hpage hreference).le
  rw [← box_lower_iff b hreference]
  refine ⟨Box.Within.lower, fun hlower => ?_⟩
  exact ⟨mul_nonneg hb.left hfactor, (box_right_iff b hpage hreference).2 hb.right, mul_nonneg hb.upper hfactor, hlower⟩

end Scaler

/-! ### Pages of documents -/

/-- Pages have a positive width and a positive height. -/
theorem PageSize.pos_of_ofSetting {setting : Value} {landscape : Bool} {size : Size Float}
    (h : ofSetting setting landscape = .ok size) : ¬size.width ≤ 0.0 ∧ ¬size.height ≤ 0.0 := by
  unfold ofSetting at h
  cases hdimensions : dimensions setting with
  | error fault => simp [hdimensions, bind, Except.bind] at h
  | ok d =>
    simp only [hdimensions, bind, Except.bind] at h
    split at h
    · cases h
    · rename_i hpos
      simp only [Bool.or_eq_true, decide_eq_true_iff, not_or] at hpos
      obtain rfl : (if landscape then lying d else upright d) = size := Except.ok.inj h
      -- turning a size swaps its dimensions at most
      cases landscape
      · simp only [upright, Bool.false_eq_true, if_false]
        split
        · exact hpos.symm
        · exact hpos
      · simp only [lying, if_true]
        split
        · exact hpos.symm
        · exact hpos

section Document

variable {settings : Settings} {retrieval : Except Fault Retrieval} {template watermark : Value} {r : Record}
  {sheet : Sheet}

/-- The page of a document lies if the canvas of the template is wider than high. -/
theorem page_of_renderDocumentBy {canvas : Option (Size Float)} (hcanvas : Template.canvasSize template = .ok canvas)
    (hsheet : (renderDocumentBy settings retrieval template r watermark).state = some sheet) :
    settings.page ((canvas.map fun c => decide (c.width > c.height)).getD false) = .ok sheet.size := by
  unfold renderDocumentBy at hsheet
  simp only [hcanvas, Except.bind] at hsheet
  cases hpage : settings.page ((canvas.map fun c => decide (c.width > c.height)).getD false) with
  | error fault => simp [hpage] at hsheet
  | ok size =>
    simp only [hpage] at hsheet
    -- the page has this size whether or not the watermark can be painted
    split at hsheet <;> rw [← Option.some.inj hsheet]

/-- The elements of a canvas are scaled to the page of a document from the width of the one to the width of the other.
Of those that lie within the canvas none leaves the page to the sides or above, and one leaves it below exactly if its
lower edge is too low for the width of the canvas.  So all of them stay on the page exactly if the canvas is no higher
than the page in proportion to its width. -/
theorem renderDocumentBy_fits_iff {canvas : Size Float} {c p : Size Rat}
    (hsheet : (renderDocumentBy settings retrieval template r watermark).state = some sheet)
    (hcanvas : Template.canvasSize template = .ok (some canvas))
    (hc : canvas.rational? = some c) (hp : sheet.size.rational? = some p) :
    let s : Scaler Rat := ⟨p.width, c.width⟩
    (∃ s', Scaler.forPage settings (.float sheet.size.width) (some (.float canvas.width)) = .ok s' ∧
        s'.rational? = some s) ∧
      (∀ e : Element Rat, e.box.Within c →
        let b := (s.apply e).box
        0 ≤ b.x ∧ b.x + b.width ≤ p.width ∧ 0 ≤ b.y ∧
          (b.Within p ↔ (e.box.y + e.box.height) * p.width ≤ c.width * p.height)) ∧
      ((∀ e : Element Rat, e.box.Within c → (s.apply e).box.Within p) ↔ c.height * p.width ≤ c.width * p.height) := by
  intro s
  obtain ⟨hcw, -⟩ := Size.rational?_eq_some.1 hc
  obtain ⟨hpw, -⟩ := Size.rational?_eq_some.1 hp
  have hreference : 0 < c.width := by
    have hpos := Template.pos_of_canvasSize hcanvas
    rw [Bool.and_eq_true, decide_eq_true_iff] at hpos
    exact Exact.pos_of_rat? hcw (not_le_zero_of_pos hpos.1)
  have hpage : 0 < p.width :=
    Exact.pos_of_rat? hpw (PageSize.pos_of_ofSetting (page_of_renderDocumentBy hcanvas hsheet)).1
  have hwithin : ∀ e : Element Rat, e.box.Within c →
      ((s.apply e).box.Within p ↔ (e.box.y + e.box.height) * p.width ≤ c.width * p.height) :=
    fun e he => Scaler.box_within_iff (s := s) e.box hpage hreference he
  refine ⟨⟨_, Scaler.forPage_of_canvasSize hcanvas settings _, ?_⟩, fun e he => ?_, fun h => ?_, fun h e he => ?_⟩
  · simp [Scaler.rational?, hpw, hcw, s]
  · have hfactor : 0 ≤ s.factor := (div_pos hpage hreference).le
    have hright := (Scaler.box_right_iff (s := s) e.box hpage hreference).2 he.right
    exact ⟨mul_nonneg he.left hfactor, hright, mul_nonneg he.upper hfactor, hwithin e he⟩
  · -- the element that is as large as the canvas ends where the canvas ends
    let e : Element Rat := ⟨none, "", ⟨0, 0, c.width, c.height⟩, {}, {}, none, none⟩
    have he : e.box.Within c := ⟨le_rfl, (zero_add _).le, le_rfl, (zero_add _).le⟩
    have hlower := (hwithin e he).1 (h e he)
    rwa [show e.box.y + e.box.height = c.height from zero_add _] at hlower
  · have hlower := mul_le_mul_of_nonneg_right he.lower hpage.le
    exact (hwithin e he).2 (hlower.trans h)

end Document

/-- A template with a band at the foot of its canvas. -/
def bandedTemplate (width height : Int) : Value :=
  .mapping [("canvasSize", .mapping [("width", .int width), ("height", .int height)]),
    ("elements", .list [.mapping [("type", .text "shape"), ("y", .int (height - 33)), ("width", .int width),
      ("height", .int 33), ("style", .mapping [("backgroundColor", .text "#1e40af")])]])]

/-- The band of a canvas of 794 times 1123 units. -/
def footBand : Element Rat := ⟨some .shape, "shape", ⟨0, 1090, 794, 33⟩, {}, {}, none, none⟩

/-- The document of the template on a sheet that a setting names. -/
def bandedDocument (sheet : Value) : Rendering (Option Sheet) :=
  renderDocumentBy { pageSize := some sheet } (.ok fun _ => ([], .failed "")) (bandedTemplate 794 1123) {} .null

private theorem exists_of_size {α : Type} {o : Option α} {f : α → Option (Size Rat)} {w h : Rat}
    (hpair : (o.bind f).map (fun s => (s.width, s.height)) = some (w, h)) :
    ∃ a, o = some a ∧ f a = some ⟨w, h⟩ := by
  obtain ⟨⟨w', h'⟩, hsome, heq⟩ := Option.map_eq_some_iff.1 hpair
  obtain ⟨a, ha, hsize⟩ := Option.bind_eq_some_iff.1 hsome
  obtain ⟨rfl, rfl⟩ := Prod.mk.inj heq
  exact ⟨a, ha, hsize⟩

private theorem canvasSize_banded :
    ∃ canvas, Template.canvasSize (bandedTemplate 794 1123) = .ok (some canvas) ∧
      canvas.rational? = some ⟨794, 1123⟩ := by
  obtain ⟨canvas, hcanvas, hsize⟩ := exists_of_size (f := Size.rational?) (w := 794) (h := 1123)
    (o := (Template.canvasSize (bandedTemplate 794 1123)).toOption.join) (by decide +kernel)
  refine ⟨canvas, ?_, hsize⟩
  cases hread : Template.canvasSize (bandedTemplate 794 1123) with
  | error fault => simp [hread, Except.toOption] at hcanvas
  | ok o => simpa [hread, Except.toOption] using hcanvas

private theorem footBand_within : footBand.box.Within ⟨794, 1123⟩ := by
  constructor <;> norm_num [footBand]

/-- On a sheet that is high enough the band is there. -/
theorem renderDocumentBy_fits_iff_banded :
    ∃ sheet canvas, (bandedDocument (.list [.int 400, .int 600])).state = some sheet ∧
      Template.canvasSize (bandedTemplate 794 1123) = .ok (some canvas) ∧
      canvas.rational? = some ⟨794, 1123⟩ ∧ sheet.size.rational? = some ⟨400, 600⟩ ∧ footBand.box.Within ⟨794, 1123⟩ ∧
      ((⟨400, 794⟩ : Scaler Rat).apply footBand).box.Within ⟨400, 600⟩ := by
  obtain ⟨sheet, hsheet, hp⟩ := exists_of_size (o := (bandedDocument (.list [.int 400, .int 600])).state)
    (f := (·.size.rational?)) (w := 400) (h := 600) (by decide +kernel)
  obtain ⟨canvas, hcanvas, hc⟩ := canvasSize_banded
  obtain ⟨-, -, hall⟩ := renderDocumentBy_fits_iff hsheet hcanvas hc hp
  have hratio : (1123 : Rat) * 400 ≤ 794 * 600 := by norm_num
  exact ⟨sheet, canvas, hsheet, hcanvas, hc, hp, footBand_within, hall.2 hratio footBand footBand_within⟩

/-- On a sheet in the letter format the band at the foot of an upright canvas ends below the page. -/
theorem renderDocumentBy_cuts_off_band :
    let settings : Settings := { pageSize := some (.text "LETTER") }
    ∃ sheet canvas s, (bandedDocument (.text "LETTER")).state = some sheet ∧
      Template.canvasSize (bandedTemplate 794 1123) = .ok (some canvas) ∧
      canvas.rational? = some ⟨794, 1123⟩ ∧ sheet.size.rational? = some ⟨612, 792⟩ ∧
      Scaler.forPage settings (.float sheet.size.width) (some (.float canvas.width)) = .ok s ∧
      s.rational? = some ⟨612, 794⟩ ∧ footBand.box.Within ⟨794, 1123⟩ ∧
      ¬((⟨612, 794⟩ : Scaler Rat).apply footBand).box.Within ⟨612, 792⟩ := by
  intro settings
  obtain ⟨sheet, hsheet, hp⟩ := exists_of_size (o := (bandedDocument (.text "LETTER")).state)
    (f := (·.size.rational?)) (w := 612) (h := 792) (by decide +kernel)
  obtain ⟨canvas, hcanvas, hc⟩ := canvasSize_banded
  have hscaler : (⟨sheet.size.width, canvas.width⟩ : Scaler Float).rational? = some ⟨612, 794⟩ := by
    simp [Scaler.rational?, (Size.rational?_eq_some.1 hp).1, (Size.rational?_eq_some.1 hc).1]
  refine ⟨sheet, canvas, _, hsheet, hcanvas, hc, hp, Scaler.forPage_of_canvasSize hcanvas _ _, hscaler,
    footBand_within, fun hwithin => ?_⟩
  have hlower := (Scaler.box_lower_iff footBand.box (by norm_num) 792).1 hwithin.lower
  norm_num [footBand] at hlower

end ReportCard
