import ReportCard.Painting.Shape
import ReportCard.Painting.Text
import ReportCard.Proofs.Drawing.Transcript
import ReportCard.Proofs.Element.BottomRule
import ReportCard.Proofs.Element.Reading

/-!
# Styles that stop the painting

The texts of a style are read while an element is painted.  Two of them can be taken for numbers, the weight of a font
and the width of a rule, and digits without a place value, or too many digits, stop the painting of their element there.
Nothing else in a style does (`Element.paint_styled_iff`).
-/

namespace ReportCard

open Text Numeral
open BottomRule (leadingWord widthDigits)

variable {α : Type}

/-- The script comes to its end for what is readable, and otherwise stops at digits, where no drawing fails. -/
structure Script.Reads {A : Type} (readable : Prop) (p : Script A) : Prop where
  ends : readable → p.fault? = none
  stops : ¬readable → ∃ fault, p.fault? = some fault ∧ IsFaultOfDigits fault

namespace Script.Reads

variable {A B : Type} {P : Prop} {p : Script A}

theorem fault?_eq_none_iff (h : Reads P p) : p.fault? = none ↔ P := by
  refine ⟨fun hnone => ?_, h.ends⟩
  by_contra hP
  obtain ⟨fault, hfault, -⟩ := h.stops hP
  rw [hnone] at hfault
  cases hfault

theorem isFaultOfDigits (h : Reads P p) {fault : Fault} (hfault : p.fault? = some fault) : IsFaultOfDigits fault := by
  by_cases hP : P
  · rw [h.ends hP] at hfault
    cases hfault
  · obtain ⟨fault', hfault', hdigits⟩ := h.stops hP
    rw [hfault] at hfault'
    exact Option.some.inj hfault' ▸ hdigits

theorem of_fault?_eq_none (h : p.fault? = none) (hP : P) : Reads P p := ⟨fun _ => h, fun hnot => absurd hP hnot⟩

/-- What is made of a reading does not stop by itself. -/
theorem tryIt {result : Except Fault B} {f : B → Script A} (hresult : ReadsDigits P result)
    (hf : ∀ b, (f b).fault? = none) : Reads P (.tryIt result f) := by
  cases hresult with
  | ok hP => exact .of_fault?_eq_none (hf _) hP
  | error hnot hdigits => exact ⟨fun hP => absurd hP hnot, fun _ => ⟨_, rfl, hdigits⟩⟩

end Script.Reads

/-! ### Faces -/

namespace Style

/-- The weight of a font is a word, or digits that can be read as a number. -/
def HasReadableWeight (s : Style α) : Prop :=
  (∀ c ∈ s.fontWeight.toList, isDigit c = true) → IsReadable s.fontWeight.toList

/-- The face is made out if the weight can be read; a text without digits alone is a word. -/
theorem face_reads (s : Style α) : ReadsDigits s.HasReadableWeight s.face := by
  have hlooks : (!s.fontWeight.isEmpty && s.fontWeight.toList.all isDigit) = true ↔
      s.fontWeight ≠ "" ∧ ∀ c ∈ s.fontWeight.toList, isDigit c = true := by simp
  unfold face isBold
  split
  · rename_i h
    obtain ⟨hne, hdigits⟩ := hlooks.1 h
    have hread : s.HasReadableWeight ↔ IsReadable s.fontWeight.toList := ⟨fun h => h hdigits, fun h _ => h⟩
    rw [propext hread]
    exact ((wholeOfText_reads hne hdigits).map _).map _
  · rename_i h
    refine .ok fun hdigits => ?_
    have hempty : s.fontWeight = "" := by
      by_contra hne
      exact h (hlooks.2 ⟨hne, hdigits⟩)
    rw [hempty]
    exact ⟨by simp, by simp⟩

end Style

theorem Face.name_mem (face : Face) :
    face.name ∈ ["Helvetica", "Helvetica-Bold", "Helvetica-Oblique", "Helvetica-BoldOblique"] := by
  obtain ⟨_ | _, _ | _⟩ := face <;> decide

/-! ### Elements -/

namespace Element

variable [Scalar α]

/-- The edge of a shape is a border, or a rule whose width can be read if there is one. -/
def HasReadableEdge (e : Element α) : Prop :=
  (e.style.borderColor.isSome ∧ (nonzero? e.style.borderWidth).isSome) ∨
    ∀ rule, e.style.borderBottom = some rule → IsReadable (widthDigits rule)

private theorem reads_edge (e : Element α) : e.edge.Reads e.HasReadableEdge := by
  unfold edge HasReadableEdge
  dsimp only
  split
  · rename_i hcolor hwidth
    exact .of_fault?_eq_none rfl (.inl (by simp [hcolor, hwidth]))
  · rename_i hborder
    have hnot : ¬(e.style.borderColor.isSome ∧ (nonzero? e.style.borderWidth).isSome) := by
      rintro ⟨hcolor, hwidth⟩
      obtain ⟨color, hcolor⟩ := Option.isSome_iff_exists.1 hcolor
      obtain ⟨width, hwidth⟩ := Option.isSome_iff_exists.1 hwidth
      exact hborder color width hcolor hwidth
    cases hrule : e.style.borderBottom with
    | none => exact .of_fault?_eq_none rfl (.inr nofun)
    | some rule =>
      have hread : ((e.style.borderColor.isSome ∧ (nonzero? e.style.borderWidth).isSome) ∨
          ∀ r, some rule = some r → IsReadable (widthDigits r)) ↔ IsReadable (widthDigits rule) := by
        simp [hnot]
      rw [propext hread]
      exact .tryIt (BottomRule.ofText_reads rule) fun _ => rfl

private theorem reads_paintShape (e : Element α) : e.paintShape.Reads e.HasReadableEdge := by
  have hfault : e.paintShape.fault? = e.edge.fault? := by
    unfold paintShape
    rw [Drawing.fault?_isolated]
    cases e.style.backgroundColor <;> rfl
  exact ⟨fun h => hfault.trans ((reads_edge e).ends h), fun h => hfault ▸ (reads_edge e).stops h⟩

private theorem reads_paintContent (e : Element α) (content : String) :
    (e.paintContent content).Reads (content = "" ∨ e.style.HasReadableWeight) := by
  unfold paintContent
  by_cases hempty : content = ""
  · exact .of_fault?_eq_none (by simp [hempty, Script.fault?]) (.inl hempty)
  · have hread : (content = "" ∨ e.style.HasReadableWeight) ↔ e.style.HasReadableWeight := by simp [hempty]
    rw [propext hread, if_neg (by simpa using hempty)]
    refine .tryIt (Style.face_reads e.style) fun _ => ?_
    rw [Drawing.fault?_isolated]
    rfl

/-- Whatever style an element has, painting its shape or its text on a recording stops for nothing but digits: for those
of its rule, if that is painted, and for those of its weight, if there is a text.  Digits that can be read do not stop
it.  A rule is then as wide as they say, but at least one point, and the face is one of four. -/
theorem paint_styled_iff (e : Element α) (size : Size α) (start : Recording α) :
    let shape := (Recording.accepting size).paint e.paintShape start
    let text := (Recording.accepting size).paint e.paintText start
    (shape.fault = none ↔ e.HasReadableEdge) ∧
      (text.fault = none ↔ e.content.getD "" = "" ∨ e.style.HasReadableWeight) ∧
      (∀ fault, shape.fault = some fault ∨ text.fault = some fault → IsFaultOfDigits fault) ∧
      (∀ s, (∃ rule, BottomRule.ofText s = .ok rule) ↔ IsReadable (widthDigits s)) ∧
      (∀ s rule, BottomRule.ofText s = .ok rule →
        1 ≤ rule.width ∧ rule.width = max 1 (valueOfDecimals (decimals (leadingWord s).toList))) ∧
      ((∃ face, e.style.face = .ok face ∧
        face.name ∈ ["Helvetica", "Helvetica-Bold", "Helvetica-Oblique", "Helvetica-BoldOblique"]) ↔
          e.style.HasReadableWeight) := by
  intro shape text
  have hshape : shape.fault = e.paintShape.fault? := by simp only [shape, Recording.paint_accepting]
  have htext : text.fault = (e.paintContent (e.content.getD "")).fault? := by
    simp only [text, Recording.paint_accepting]
    rfl
  have hreadShape := reads_paintShape e
  have hreadText := reads_paintContent e (e.content.getD "")
  rw [hshape, htext]
  refine ⟨hreadShape.fault?_eq_none_iff, hreadText.fault?_eq_none_iff, ?_, fun s => BottomRule.exists_ofText_iff,
    fun s rule hrule => ?_, ?_⟩
  · rintro fault (hfault | hfault)
    · exact hreadShape.isFaultOfDigits hfault
    · exact hreadText.isFaultOfDigits hfault
  · have hwidth := BottomRule.width_of_ofText hrule
    exact ⟨hwidth ▸ Nat.le_max_left _ _, hwidth⟩
  · rw [← (Style.face_reads e.style).exists_ok_iff]
    exact exists_congr fun face => and_iff_left face.name_mem

/-- An element with a text and a style. -/
def styled (kind : String) (style : Entries) : Value :=
  .mapping [("type", .text kind), ("content", .text "Report"), ("style", .mapping style)]

/-- A width in digits of another script, and a weight that is a number. -/
theorem paint_styled_iff_foreign :
    let page := Recording.accepting (α := Float) ⟨794, 1123⟩
    ∃ e, ofValue? (styled "line" [("borderBottom", .text "٢px dashed"), ("fontWeight", .int 700)]) = .ok (some e) ∧
      (page.paint e.paintShape #[]).fault = none ∧ (page.paint e.paintText #[]).fault = none ∧
      ∃ rule, BottomRule.ofText "٢px dashed" = .ok rule ∧ rule.width = 2 := by
  intro page
  obtain ⟨e, he, hstyle⟩ := exists_of_any_ofValue?
    (v := styled "line" [("borderBottom", .text "٢px dashed"), ("fontWeight", .int 700)])
    (p := fun e => e.style.borderBottom == some "٢px dashed" && e.style.fontWeight == "700") (by decide +kernel)
  rw [Bool.and_eq_true, beq_iff_eq, beq_iff_eq] at hstyle
  obtain ⟨hshape, htext, -, hrule, hwidth, -⟩ := paint_styled_iff e ⟨794, 1123⟩ #[]
  have hdigits : IsReadable (widthDigits "٢px dashed") := by decide
  have hedge : e.HasReadableEdge := by
    refine .inr fun rule hread => ?_
    rw [hstyle.1] at hread
    exact Option.some.inj hread ▸ hdigits
  have hweight : e.style.HasReadableWeight := by
    intro _
    rw [hstyle.2]
    decide
  obtain ⟨rule, hread⟩ := (hrule "٢px dashed").2 hdigits
  exact ⟨e, he, hshape.2 hedge, htext.2 (.inr hweight), rule, hread, (hwidth _ _ hread).2.trans (by decide)⟩

/-- A superscript is a digit that stands for no number: neither the rule nor the text is painted. -/
theorem paint_stops_at_superscript :
    let page := Recording.accepting (α := Float) ⟨794, 1123⟩
    BottomRule.ofText "²px solid red" = .error (.notAWholeNumeral "²") ∧
      (∃ e, ofValue? (styled "shape" [("borderBottom", .text "²px solid red")]) = .ok (some e) ∧
        (page.paint e.paintShape #[]).fault = some (.notAWholeNumeral "²")) ∧
      ∃ e, ofValue? (styled "text" [("fontWeight", .text "²")]) = .ok (some e) ∧
        e.style.face = .error (.notAWholeNumeral "²") ∧
        (page.paint e.paintText #[]).fault = some (.notAWholeNumeral "²") := by
  intro page
  refine ⟨by decide, ?_, ?_⟩
  · obtain ⟨e, he, hfault⟩ := exists_of_any_ofValue? (v := styled "shape" [("borderBottom", .text "²px solid red")])
      (p := fun e => decide ((page.paint e.paintShape #[]).fault = some (.notAWholeNumeral "²"))) (by decide +kernel)
    exact ⟨e, he, of_decide_eq_true hfault⟩
  · obtain ⟨e, he, hfault⟩ := exists_of_any_ofValue? (v := styled "text" [("fontWeight", .text "²")])
      (p := fun e => decide (e.style.face = .error (.notAWholeNumeral "²")) &&
        decide ((page.paint e.paintText #[]).fault = some (.notAWholeNumeral "²"))) (by decide +kernel)
    rw [Bool.and_eq_true] at hfault
    exact ⟨e, he, of_decide_eq_true hfault.1, of_decide_eq_true hfault.2⟩

end Element

end ReportCard
