import Mathlib.Algebra.Order.Field.Basic
import Mathlib.Data.Rat.Cast.Order
import Mathlib.Tactic.Linarith
import Mathlib.Tactic.Ring
import ReportCard.Drawing.Canvas

/-!
# Pictures in boxes

A picture is drawn as large as both sides of its box allow, in the proportions of its pixels.  The box on a page is
mirrored, because a page is measured from its lower left corner; the picture still begins at the upper left corner, so
that what it leaves free of the box is on the right or at the bottom (`Canvas.perform_image_fits`).
-/

namespace ReportCard

/-- The extent of the box is that of a picture of so many pixels, as large as fits into the extent of another box. -/
structure Box.IsFitted (w h : Nat) (b drawn : Box Rat) : Prop where
  proportion : drawn.width * h = drawn.height * w
  width_le : drawn.width ≤ b.width
  height_le : drawn.height ≤ b.height
  tight : drawn.width = b.width ∨ drawn.height = b.height

/-- The box lies inside another one; both are measured from the same corner. -/
structure Box.Inside (inner outer : Box Rat) : Prop where
  x_le : outer.x ≤ inner.x
  y_le : outer.y ≤ inner.y
  x_add_le : inner.x + inner.width ≤ outer.x + outer.width
  y_add_le : inner.y + inner.height ≤ outer.y + outer.height

theorem Scalar.least_eq_min (x y : Rat) : least x y = min x y := by
  rw [min_comm, min_def_lt]
  simp only [least, lt, decide_eq_true_eq]

namespace Canvas

variable {w h : Nat} {b : Box Rat}

/-- The lengths of a picture that is fitted into a box. -/
private def fitted (w h : Nat) (b : Box Rat) : Box Rat :=
  let fit := min (b.width / w) (b.height / h)
  ⟨b.x, b.y, w * fit, h * fit⟩

private theorem isFitted_fitted (hw : 0 < w) (hh : 0 < h) : b.IsFitted w h (fitted w h b) := by
  have hw' : (0 : Rat) < w := by exact_mod_cast hw
  have hh' : (0 : Rat) < h := by exact_mod_cast hh
  have hwidth : (w : Rat) * (b.width / w) = b.width := mul_div_cancel₀ _ hw'.ne'
  have hheight : (h : Rat) * (b.height / h) = b.height := mul_div_cancel₀ _ hh'.ne'
  constructor
  · simp only [fitted]
    ring
  · calc (w : Rat) * min (b.width / w) (b.height / h)
        _ ≤ w * (b.width / w) := mul_le_mul_of_nonneg_left (min_le_left ..) hw'.le
        _ = b.width := hwidth
  · calc (h : Rat) * min (b.width / w) (b.height / h)
        _ ≤ h * (b.height / h) := mul_le_mul_of_nonneg_left (min_le_right ..) hh'.le
        _ = b.height := hheight
  · rcases min_choice (b.width / w) (b.height / h) with hmin | hmin
    · left
      simp only [fitted, hmin, hwidth]
    · right
      simp only [fitted, hmin, hheight]

/-- Mirrored boxes with the same upper left corner, one of them within the extent of the other. -/
private theorem inside_flip {pageHeight : Rat} {drawn : Box Rat} (hfitted : b.IsFitted w h drawn) (hx : drawn.x = b.x)
    (hy : drawn.y = b.y) : (flip pageHeight drawn).Inside (flip pageHeight b) := by
  obtain ⟨-, hwidth, hheight, -⟩ := hfitted
  constructor <;> simp only [flip, hx, hy] <;> linarith

private theorem withExtent_of_pos (hwidth : 0 < b.width) (hheight : 0 < b.height) (p : Script (Call Rat)) :
    withExtent b p = p := by
  have hpos {x : Rat} (hx : 0 < x) : Scalar.isNonpos x = false := decide_eq_false hx.not_ge
  simp [withExtent, Scalar.checked, Script.tryIt, Script.when, hpos hwidth, hpos hheight]

private theorem image_picture (pageHeight : Rat) (hwidth : 0 < b.width) (hheight : 0 < b.height) (hw : 0 < w)
    (hh : 0 < h) :
    image pageHeight (.picture w h) b = .act (.drawImage w h (flip pageHeight (fitted w h b))) := by
  rw [image, withExtent_of_pos hwidth hheight]
  simp only [hw.ne', hh.ne', decide_false, Bool.or_self, Bool.false_eq_true, if_false, Scalar.least_eq_min]
  rfl

/-- A picture with pixels, in a box with an extent, is one call on the canvas of its page and nothing else: it is drawn
in its own proportions, no wider and no higher than the box, and as wide or as high as that; its upper left corner is
that of the box, and it lies inside the box. -/
theorem perform_image_fits (size : Size Rat) (hwidth : 0 < b.width) (hheight : 0 < b.height) (hw : 0 < w) (hh : 0 < h) :
    ∃ drawn : Box Rat,
      (∀ {σ : Type} (perform : Call Rat → σ → Outcome σ) (s : σ),
        (surface size perform).perform (.image (.picture w h) b) s = perform (.drawImage w h drawn) s) ∧
      b.IsFitted w h drawn ∧ drawn.x = b.x ∧ drawn.y + drawn.height = size.height - b.y ∧
      drawn.Inside (flip size.height b) := by
  have hfitted : b.IsFitted w h (fitted w h b) := isFitted_fitted hw hh
  refine ⟨flip size.height (fitted w h b), fun perform s => ?_, ?_, rfl, ?_, inside_flip hfitted rfl rfl⟩
  · show (image size.height (.picture w h) b).run perform s = _
    rw [image_picture size.height hwidth hheight hw hh]
    rfl
  · exact ⟨hfitted.proportion, hfitted.width_le, hfitted.height_le, hfitted.tight⟩
  · simp only [flip, fitted]
    ring

/-- A picture of three by two pixels in a box of 100 by 40 points. -/
theorem perform_image_fits_landscape :
    (0 : Rat) < 100 ∧ (0 : Rat) < 40 ∧ 0 < 3 ∧ 0 < 2 ∧
      ∃ drawn : Box Rat,
        (∀ {σ : Type} (perform : Call Rat → σ → Outcome σ) (s : σ),
          (surface ⟨600, 800⟩ perform).perform (.image (.picture 3 2) ⟨10, 20, 100, 40⟩) s =
            perform (.drawImage 3 2 drawn) s) ∧
        Box.IsFitted 3 2 ⟨10, 20, 100, 40⟩ drawn ∧ drawn.x = 10 ∧ drawn.y + drawn.height = 800 - 20 ∧
        drawn.Inside (flip 800 ⟨10, 20, 100, 40⟩) :=
  ⟨by decide, by decide, by decide, by decide,
    perform_image_fits ⟨600, 800⟩ (by decide) (by decide) (by decide) (by decide)⟩

end Canvas

end ReportCard
