import ReportCard.Drawing.Canvas
import ReportCard.Proofs.Drawing.Transcript

/-!
# What can be drawn on a page

A drawing fails on a page for its color or for its image, and for nothing else if its text is a text in one of the four
faces: a color whose making out stops is at fault, and so is an image in a box with an extent that is no picture, or is
one without pixels.
-/

namespace ReportCard

/-- Something drawn in the box can be seen. -/
def Box.HasExtent (b : Box Float) : Prop := Scalar.isNonpos b.width = false ∧ Scalar.isNonpos b.height = false

/-- The image is a picture with something to see. -/
def ImageData.HasPixels : ImageData → Prop
  | .picture w h => w ≠ 0 ∧ h ≠ 0
  | .other _ => False

/-- A color can be made out of a value, or be taken for black instead. -/
def Color.IsResolvable (v : Value) : Prop := ∃ answer, Color.resolve v (.color .black) = .ok answer

namespace Drawing

variable {α : Type}

/-- The drawing shows texts only, in the four faces. -/
def IsLettered : Drawing α → Prop
  | textBox text _ _ _ l _ | textCell text _ l => (∃ s, text = .text s) ∧ ∃ face : Face, l.fontName = .text face.name
  | _ => True

/-- The drawing can be made on a page. -/
def IsDrawable : Drawing Float → Prop
  | saveState | restoreState => True
  | fillRect _ color | strokeRect _ color _ _ | line _ _ _ _ color _ => Color.IsResolvable color
  | textBox _ _ _ _ l _ => Color.IsResolvable l.color
  | textCell _ b l => b.HasExtent → Color.IsResolvable l.color
  | image data b => b.HasExtent → data.HasPixels

end Drawing

namespace Canvas

theorem fault?_withColor_eq_none {α : Type} [Scalar α] {v : Value} {call : Paint → Call α} :
    (withColor v call).fault? = none ↔ Color.IsResolvable v := by
  have hcalls (answer : List Note × Paint) :
      (Script.all (answer.1.map Script.note ++ [.act (call answer.2)])).fault? = none := by
    refine Script.fault?_all_eq_none.2 fun p hp => ?_
    rcases List.mem_append.1 hp with hp | hp
    · obtain ⟨n, -, rfl⟩ := List.mem_map.1 hp
      rfl
    · rw [List.mem_singleton.1 hp]
      rfl
  rw [withColor, Script.fault?_tryIt_eq_none, Color.IsResolvable]
  exact exists_congr fun answer => and_iff_left (hcalls answer)

theorem fault?_withExtent_eq_none {b : Box Float} {p : Script (Call Float)} :
    (withExtent b p).fault? = none ↔ (b.HasExtent → p.fault? = none) := by
  simp only [withExtent, Scalar.checked, Script.tryIt, Box.HasExtent]
  cases Scalar.isNonpos b.width <;> cases Scalar.isNonpos b.height <;> simp [Script.when, Script.fault?]

theorem faceOf_name {α : Type} [Scalar α] {l : Lettering α} {face : Face} (h : l.fontName = .text face.name) :
    faceOf l = .ok face := by
  have hface : Face.ofName? face.name = some face := by
    obtain ⟨_ | _, _ | _⟩ := face <;> decide
  simp [faceOf, h, Value.text?, hface, Value.isSearchable]

theorem exists_textLayout (s : String) (width : Float) {l : Lettering Float} {face : Face}
    (h : l.fontName = .text face.name) : ∃ lines ascent, textLayout (.text s) width l = .ok (face, lines, ascent) := by
  simp only [textLayout, faceOf_name h, textOf, Value.text?, Scalar.checked, bind, Except.bind]
  cases Scalar.isPos width <;> exact ⟨_, _, rfl⟩

theorem mem_textLines {α : Type} [Scalar α] {pageHeight step : α} {anchor : Anchor} {x baseline : α}
    {lines : List String} {p : Script (Call α)} (hp : p ∈ textLines pageHeight step anchor x baseline lines) :
    ∃ y text, p = .act (.drawString anchor x y (.text text)) := by
  induction lines generalizing baseline with
  | nil => simp [textLines] at hp
  | cons text rest ih =>
    rcases List.mem_cons.1 hp with rfl | hp
    · exact ⟨_, text, rfl⟩
    · exact ih hp

private theorem fault?_textBox (pageHeight : Float) (s : String) (x y width : Float) {l : Lettering Float}
    (align : Value) {face : Face} (h : l.fontName = .text face.name) :
    (textBox pageHeight (.text s) x y width l align).fault? = none ↔ Color.IsResolvable l.color := by
  obtain ⟨lines, _, hlayout⟩ := exists_textLayout s width h
  have hlines (step : Float) (anchor : Anchor) (start baseline : Float) : (Script.all
      (textLines pageHeight step anchor start baseline lines ++ [.done])).fault? = none := by
    refine Script.fault?_all_eq_none.2 fun p hp => ?_
    rcases List.mem_append.1 hp with hp | hp
    · obtain ⟨y, text, rfl⟩ := mem_textLines hp
      rfl
    · rw [List.mem_singleton.1 hp]
      rfl
  simp only [textBox, hlayout, Script.tryIt, Scalar.checked, Script.fault?, Option.or_eq_none_iff,
    fault?_withColor_eq_none, hlines, and_true]

private theorem fault?_textCell (pageHeight : Float) (s : String) (b : Box Float) {l : Lettering Float} {face : Face}
    (h : l.fontName = .text face.name) :
    (textCell pageHeight (.text s) b l).fault? = none ↔ (b.HasExtent → Color.IsResolvable l.color) := by
  rw [textCell, fault?_withExtent_eq_none]
  simp only [cellLayout, faceOf_name h, Scalar.checked, bind, Except.bind, pure, Except.pure, Script.tryIt, textOf,
    Value.text?, Option.map_some, Option.getD_some, Script.fault?_all_eq_none, List.forall_mem_cons,
    fault?_withColor_eq_none]
  simp [Script.fault?]

private theorem fault?_image (pageHeight : Float) (data : ImageData) (b : Box Float) :
    (image pageHeight data b).fault? = none ↔ (b.HasExtent → data.HasPixels) := by
  refine fault?_withExtent_eq_none.trans (imp_congr_right fun _ => ?_)
  cases data with
  | other content => simp [Script.fault?, ImageData.HasPixels]
  | picture w h =>
    by_cases hw : w = 0 <;> by_cases hh : h = 0 <;> simp [hw, hh, Script.fault?, ImageData.HasPixels]

/-- A drawing with texts in known faces fails on a page by itself exactly if it cannot be drawn. -/
theorem fault?_calls_eq_none {d : Drawing Float} (hd : d.IsLettered) (pageHeight : Float) :
    (calls pageHeight d).fault? = none ↔ d.IsDrawable := by
  cases d with
  | saveState => simp [calls, Script.fault?, Drawing.IsDrawable]
  | restoreState => simp [calls, Script.fault?, Drawing.IsDrawable]
  | fillRect b color => simp [calls, Script.fault?, fault?_withColor_eq_none, Drawing.IsDrawable]
  | strokeRect b color lineWidth dash =>
    simp [calls, Script.fault?, Script.all, fault?_withColor_eq_none, Drawing.IsDrawable]
  | line x1 y1 x2 y2 color lineWidth =>
    simp [calls, Script.fault?, Script.all, fault?_withColor_eq_none, Drawing.IsDrawable]
  | textBox text x y width l align =>
    obtain ⟨⟨s, rfl⟩, face, hface⟩ := hd
    exact fault?_textBox pageHeight s x y width align hface
  | textCell text b l =>
    obtain ⟨⟨s, rfl⟩, face, hface⟩ := hd
    exact fault?_textCell pageHeight s b hface
  | image data b => exact fault?_image pageHeight data b

end Canvas

end ReportCard
