import ReportCard.Page.Scaler
import ReportCard.Proofs.Element.Reading
import ReportCard.Proofs.Number.Double

/-!
# Extents of elements

A negative width or height is read as zero, and scaling to the page keeps what is zero or more.  But what is not a
number is below nothing, so it is kept as it is: an element that has been read has extents of zero or more unless one of
them is given as a number that is none (`Element.extents_of_read`).
-/

namespace ReportCard

namespace Value

/-- The value is read as a number that is none: the double itself, or a text that stands for it. -/
def IsNaN (v : Value) : Prop := ∃ x, v.number? = .ok (some x) ∧ x.isNaN = true

instance (v : Value) : Decidable v.IsNaN :=
  decidable_of_iff (v.number?.toOption.join.any Float.isNaN = true) (by
    unfold IsNaN
    cases v.number? with
    | error fault => simp [Except.toOption]
    | ok number => cases number <;> simp [Except.toOption])

/-- The extent is zero or more, unless the value that it is read from is no number; then it is none either. -/
structure Extends (v : Value) (extent : Float) : Prop where
  nonneg : ¬v.IsNaN → 0.0 ≤ extent
  isNaN : v.IsNaN → extent.isNaN = true

end Value

namespace Element

theorem extent_of_isNaN {x : Float} (h : x.isNaN = true) : extent x = x := by
  have hx : ¬0.0 > x := fun hlt => by
    have hnumber := (not_isNaN_of_le (float_le_of_lt hlt)).1
    rw [h] at hnumber
    cases hnumber
  exact if_neg hx

theorem zero_le_extent {x : Float} (h : x.isNaN = false) : 0.0 ≤ extent x := by
  unfold extent
  split
  · decide
  · rename_i hx
    exact float_le_of_not_lt h rfl hx

/-- Reading clamps an extent at zero. -/
private theorem extends_extent {v : Value} {x : Float} (h : v.numberD 0.0 = .ok x) : v.Extends (extent x) := by
  obtain ⟨number, hnumber, rfl⟩ := map_eq_ok_iff.1 h
  cases number with
  | none =>
    -- a missing extent is zero
    refine ⟨fun _ => zero_le_extent rfl, fun ⟨y, hy, _⟩ => ?_⟩
    rw [hnumber] at hy
    cases hy
  | some x =>
    have hvalue : v.IsNaN ↔ x.isNaN = true := by
      constructor
      · rintro ⟨y, hy, hnan⟩
        obtain rfl : x = y := Option.some.inj (Except.ok.inj (hnumber.symm.trans hy))
        exact hnan
      · exact fun hnan => ⟨x, hnumber, hnan⟩
    refine ⟨fun hnan => zero_le_extent ?_, fun hnan => ?_⟩
    · rw [hvalue, Bool.not_eq_true] at hnan
      exact hnan
    · have hx := hvalue.1 hnan
      rwa [Option.getD_some, extent_of_isNaN hx]

/-- Scaling to the page keeps what an extent is. -/
private theorem extends_scale {v : Value} {x : Float} {s : Scaler Float} (hpos : 0.0 < s.factor)
    (hfinite : s.factor.isFinite = true) (h : v.Extends x) : v.Extends (s.scale x) :=
  ⟨fun hnan => zero_le_mul (h.nonneg hnan) hpos hfinite, fun hnan => isNaN_mul (h.isNaN hnan) _⟩

private theorem extends_box {es : Entries} {b : Box Float} (h : boxOfEntries es = .ok b) :
    (es.get "width").Extends b.width ∧ (es.get "height").Extends b.height := by
  obtain ⟨width, height, hwidth, hheight, hw, hh⟩ := extents_of_boxOfEntries h
  rw [hw, hh]
  exact ⟨extends_extent hwidth, extends_extent hheight⟩

/-- An element that is read is as wide and as high as nothing or more, and so it is on any page that it is scaled to by
a finite factor, except for an extent that is given as a number that is none: this one stays none. -/
theorem extents_of_read {v : Value} {e : Element Float} {s : Scaler Float} (hread : ofValue? v = .ok (some e))
    (hpos : 0.0 < s.factor) (hfinite : s.factor.isFinite = true) :
    ∃ es : Entries, v = .mapping es ∧
      ((es.get "width").Extends e.box.width ∧ (es.get "width").Extends (s.apply e).box.width) ∧
      ((es.get "height").Extends e.box.height ∧ (es.get "height").Extends (s.apply e).box.height) := by
  obtain ⟨es, hentries, hes⟩ := exists_entries_of_ofValue? hread
  obtain ⟨hwidth, hheight⟩ := extends_box (ofEntries_eq_ok_iff.1 hes).box
  exact ⟨es, Value.entries?_eq_some_iff.1 hentries, ⟨hwidth, extends_scale hpos hfinite hwidth⟩, hheight,
    extends_scale hpos hfinite hheight⟩

/-- A shape with a width that is to be read off a value, and a height below zero. -/
def shapeOfWidth (width : Value) : Value :=
  .mapping [("type", .text "shape"), ("width", width), ("height", .int (-3))]

/-- On a page of half the size, a width in pixels is halved, and a height below zero is nothing. -/
theorem extents_of_read_halved :
    let s : Scaler Float := ⟨397, 794⟩
    ∃ e, ofValue? (shapeOfWidth (.text "12px")) = .ok (some e) ∧ 0.0 < s.factor ∧ s.factor.isFinite = true ∧
      ((s.apply e).box.width == 6.0 && (s.apply e).box.height == 0.0) = true ∧
      (0.0 ≤ e.box.width ∧ 0.0 ≤ (s.apply e).box.width) ∧ 0.0 ≤ e.box.height ∧ 0.0 ≤ (s.apply e).box.height := by
  intro s
  obtain ⟨e, hread, he⟩ := exists_of_any_ofValue? (v := shapeOfWidth (.text "12px"))
    (p := fun e => (s.apply e).box.width == 6.0 && (s.apply e).box.height == 0.0) (by decide +kernel)
  have hpos : 0.0 < s.factor := by decide +kernel
  have hfinite : s.factor.isFinite = true := by decide +kernel
  obtain ⟨es, hes, hw, hh⟩ := extents_of_read hread hpos hfinite
  obtain rfl := Value.mapping.inj hes
  have hwidth : ¬(Value.text "12px").IsNaN := by decide +kernel
  have hheight : ¬(Value.int (-3)).IsNaN := by decide +kernel
  exact ⟨e, hread, hpos, hfinite, he, ⟨hw.1.nonneg hwidth, hw.2.nonneg hwidth⟩, hh.1.nonneg hheight,
    hh.2.nonneg hheight⟩

/-- A width that is given as a number that is none is not clamped. -/
theorem extents_of_read_nan : ∃ e, ofValue? (shapeOfWidth (.text "nan")) = .ok (some e) ∧
    e.box.width.isNaN = true ∧ ¬0.0 ≤ e.box.width := by
  obtain ⟨e, hread, he⟩ := exists_of_any_ofValue? (v := shapeOfWidth (.text "nan"))
    (p := fun e => e.box.width.isNaN && !decide (0.0 ≤ e.box.width)) (by decide +kernel)
  obtain ⟨hnan, hle⟩ := (Bool.and_eq_true ..).mp he
  exact ⟨e, hread, hnan, by simpa using hle⟩

end Element

end ReportCard
