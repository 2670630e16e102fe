import ReportCard.Painting.Page
import ReportCard.Proofs.Drawing.Bracket
import ReportCard.Proofs.Drawing.Drawable

/-!
# What elements draw

Whatever its kind, an element paints inside brackets of saved states (`Element.bracketed_paint`).  Between them it makes
plain drawings: areas, rules, and texts in the four faces.  Only an image element draws an image besides.
-/

namespace ReportCard

variable {α : Type}

namespace Drawing

/-- The drawing shows an image. -/
def IsImage (d : Drawing α) : Prop := ∃ data b, d = image data b

/-- The drawing shows an area or a rule. -/
def IsFigure : Drawing α → Prop
  | fillRect .. | strokeRect .. | line .. => True
  | _ => False

/-- The drawing shows an area, a rule, or a text in one of the four faces. -/
def IsPlain (d : Drawing α) : Prop := d.paints = true ∧ d.IsLettered ∧ ¬d.IsImage

theorem IsFigure.isPlain {d : Drawing α} (h : d.IsFigure) : d.IsPlain := by
  cases d <;> first | exact h.elim | exact ⟨rfl, trivial, nofun⟩

/-- The drawing shows a text in a lettering. -/
inductive Letters (l : Lettering α) : Drawing α → Prop
  | textBox (s : String) (x y width : α) (align : Value) : Letters l (.textBox (.text s) x y width l align)
  | textCell (s : String) (b : Box α) : Letters l (.textCell (.text s) b l)

theorem Letters.isPlain {l : Lettering α} {d : Drawing α} (h : Letters l d) (face : Face)
    (hl : l.fontName = .text face.name) : d.IsPlain := by
  cases h with
  | textBox s => exact ⟨rfl, ⟨⟨s, rfl⟩, face, hl⟩, nofun⟩
  | textCell s => exact ⟨rfl, ⟨⟨s, rfl⟩, face, hl⟩, nofun⟩

end Drawing

open Drawing (Bracketed IsFigure IsPlain Letters)

variable [Scalar α] {P : Drawing α → Prop}

namespace Table

/-! ### Tables -/

/-- The letterings of a table: of its headers, and of its cells. -/
def IsLettering (e : Element α) (scale : α) (l : Lettering α) : Prop :=
  l = headerLettering e scale ∨ ∃ bold, l = cellLettering e scale bold

section Painting

variable (hfigure : ∀ d : Drawing α, d.IsFigure → P d)
include hfigure

private theorem straight_divider (e : Element α) (c : Column α) (top height : α) :
    (divider e c top height).Straight P :=
  .when (.act (hfigure _ trivial))

omit hfigure in
private theorem straight_cellText (c : Column α) (top height : α) (s : String) {l : Lettering α}
    (hl : ∀ d, Letters l d → P d) : (cellText c top height s l).Straight P :=
  .when (.act (hl _ (.textCell s _)))

variable {e : Element α} {scale : α} (hletters : ∀ l, IsLettering e scale l → ∀ d, Letters l d → P d)
include hletters

private theorem straight_paintHeaders : (paintHeaders e scale).Straight P := by
  refine .when (.seq (.act (hfigure _ trivial)) (.all fun p hp => ?_))
  obtain ⟨c, -, rfl⟩ := List.mem_map.1 hp
  exact .seq (straight_cellText _ _ _ _ (hletters _ (.inl rfl))) (straight_divider hfigure ..)

private theorem straight_paintRow (source : Source) (row : Nat) (top : α) :
    (paintRow e scale source row top).Straight P := by
  refine .seq ?_ (.seq (.act (hfigure _ trivial)) (.all fun p hp => ?_))
  · split
    · exact .when (.act (hfigure _ trivial))
    · exact .done
  · obtain ⟨c, -, rfl⟩ := List.mem_map.1 hp
    refine .tryIt fun cell => .seq (straight_cellText _ _ _ _ (hletters _ (.inr ⟨cell.bold, rfl⟩))) ?_
    exact straight_divider hfigure ..

private theorem straight_paintRows (source : Source) (row : Nat) (top : α) (n : Nat) :
    ∀ p ∈ paintRows e scale source row top n, p.Straight P := by
  induction n generalizing row top with
  | zero => simp [paintRows]
  | succ n ih =>
    intro p hp
    rcases List.mem_cons.1 hp with rfl | hp
    · exact straight_paintRow hfigure hletters source row top
    · exact ih _ _ p hp

/-- A table paints figures and texts in its letterings, inside brackets. -/
theorem bracketed_paint_of (r : Record) : Bracketed P (paint e r scale) := by
  refine .seq (.isolated (.seq (straight_paintHeaders hfigure hletters) (.seq ?_ (.when (.acts ?_))))) ?_
  · exact .all (straight_paintRows hfigure hletters _ _ _ _)
  · intro d hd
    simp only [List.mem_cons, List.not_mem_nil, or_false] at hd
    rcases hd with rfl | rfl <;> exact hfigure _ trivial
  · unfold overflowNote
    split
    · exact .done
    · exact .when (.note _)

end Painting

theorem IsLettering.fontName {e : Element α} {scale : α} {l : Lettering α} (h : IsLettering e scale l) :
    ∃ face : Face, l.fontName = .text face.name := by
  obtain rfl | ⟨bold, rfl⟩ := h
  · exact ⟨⟨true, false⟩, rfl⟩
  · refine ⟨⟨bold, false⟩, ?_⟩
    cases bold <;> rfl

/-- A table paints inside brackets. -/
theorem bracketed_paint (e : Element α) (r : Record) (scale : α) : Bracketed IsPlain (paint e r scale) :=
  bracketed_paint_of (fun _ h => h.isPlain) (fun _ hl _ hd => let ⟨face, hface⟩ := hl.fontName; hd.isPlain face hface) r

end Table

/-! ### Elements of all kinds -/

/-- The drawing may be made by an element of a kind, between its brackets. -/
def ElementKind.Paints (kind : Option ElementKind) (d : Drawing α) : Prop :=
  d.IsPlain ∨ kind = some .image ∧ d.IsImage

/-- The drawing may be made by an element of a kind. -/
def ElementKind.Draws (kind : Option ElementKind) (d : Drawing α) : Prop :=
  d.paints = false ∨ d.IsPlain ∨ kind = some .image ∧ d.IsImage

namespace ElementKind

variable {kind : Option ElementKind} {d : Drawing α}

omit [Scalar α] in
theorem Paints.paints (h : Paints kind d) : d.paints = true := by
  rcases h with h | ⟨-, data, b, rfl⟩
  · exact h.1
  · rfl

omit [Scalar α] in
theorem Paints.isLettered (h : Paints kind d) : d.IsLettered := by
  rcases h with h | ⟨-, data, b, rfl⟩
  · exact h.2.1
  · trivial

omit [Scalar α] in
theorem Draws.isLettered (h : Draws kind d) : d.IsLettered := by
  rcases h with h | h
  · cases d <;> trivial
  · exact Paints.isLettered h

end ElementKind

namespace Element

/-- The lettering of the text of an element in a face. -/
def textLettering (e : Element α) (face : Face) : Lettering α :=
  { fontName := .text face.name, fontSize := e.textSize, color := .text (e.style.color.getD "#000000") }

/-- The letterings in which an element shows texts. -/
def IsLettering (e : Element α) (scale : α) (l : Lettering α) : Prop :=
  match e.kind with
  | some .text | some .dynamic => ∃ face, l = e.textLettering face
  | some .image => l = captionLettering scale
  | some .table => Table.IsLettering e scale l
  | _ => False

section Painting

variable (hfigure : ∀ d : Drawing α, d.IsFigure → P d)

section Figure

include hfigure

private theorem straight_edge (e : Element α) : e.edge.Straight P := by
  unfold edge
  dsimp only
  split
  · exact .act (hfigure _ trivial)
  · split
    · exact .done
    · exact .tryIt fun _ => .act (hfigure _ trivial)

private theorem bracketed_paintShape (e : Element α) : Bracketed P e.paintShape := by
  refine .isolated (.seq ?_ (straight_edge hfigure e))
  split
  · exact .act (hfigure _ trivial)
  · exact .done

end Figure

private theorem bracketed_paintContent {e : Element α} (hletters : ∀ face, ∀ d, Letters (e.textLettering face) d → P d)
    (content : String) : Bracketed P (e.paintContent content) := by
  unfold paintContent
  split
  · exact .done
  · exact .tryIt fun face => .isolated (.act (hletters face _ (.textBox ..)))

private theorem bracketed_paintDynamic {e : Element α} (hletters : ∀ face, ∀ d, Letters (e.textLettering face) d → P d)
    (r : Record) : Bracketed P (e.paintDynamic r) :=
  .tryIt fun content => .seq (.when (.note _)) (bracketed_paintContent hletters content)

section Image

variable (e : Element α) {scale : α} (hletters : ∀ d, Letters (captionLettering scale) d → P d)
include hfigure hletters

private theorem bracketed_paintImageError : Bracketed P (e.paintImageError scale) := by
  refine .isolated (.acts fun d hd => ?_)
  simp only [List.mem_cons, List.not_mem_nil, or_false] at hd
  rcases hd with rfl | rfl
  · exact hfigure _ trivial
  · exact hletters _ (.textCell ..)

private theorem bracketed_paintPlaceholder : Bracketed P (e.paintPlaceholder scale) := by
  refine .isolated (.acts fun d hd => ?_)
  simp only [List.mem_cons, List.not_mem_nil, or_false] at hd
  rcases hd with rfl | rfl
  · exact hfigure _ trivial
  · exact hletters _ (.textCell ..)

private theorem bracketed_paintSource (himage : ∀ d : Drawing α, d.IsImage → P d) (images : Images) (source : String) :
    Bracketed P (e.paintSource images scale source) := by
  have herror := bracketed_paintImageError hfigure e hletters
  unfold paintSource
  split
  · exact .recover (.isolated (.act (himage _ ⟨_, _, rfl⟩))) fun _ => .seq (.note _) herror
  · exact .seq (.note _) herror
  · exact .seq (.note _) herror

private theorem bracketed_paintImage (himage : ∀ d : Drawing α, d.IsImage → P d) (r : Record) (images : Images) :
    Bracketed P (e.paintImage r images scale) := by
  refine .tryIt fun source => ?_
  split
  · exact .when (bracketed_paintPlaceholder hfigure e hletters)
  · exact bracketed_paintSource hfigure e hletters himage images _

end Image

include hfigure in
/-- Whatever its kind, an element paints figures and texts in its letterings, inside brackets, and draws images only if
it is an image element. -/
theorem bracketed_paint_of (e : Element α) {scale : α}
    (hletters : ∀ l, e.IsLettering scale l → ∀ d, Letters l d → P d)
    (himage : e.kind = some .image → ∀ d : Drawing α, d.IsImage → P d) (r : Record) (images : Images) :
    Bracketed P (e.paint r images scale) := by
  unfold IsLettering at hletters
  unfold paint
  rcases hkind : e.kind with _ | _ | _ | _ | _ | _ | _ <;> rw [hkind] at hletters
  · exact .done
  · exact bracketed_paintShape hfigure e
  · exact bracketed_paintShape hfigure e
  · exact bracketed_paintContent (fun face => hletters _ ⟨face, rfl⟩) _
  · exact bracketed_paintDynamic (fun face => hletters _ ⟨face, rfl⟩) r
  · exact bracketed_paintImage hfigure e (hletters _ rfl) (himage hkind) r images
  · exact Table.bracketed_paint_of hfigure hletters r

end Painting

theorem IsLettering.fontName {e : Element α} {scale : α} {l : Lettering α} (h : e.IsLettering scale l) :
    ∃ face : Face, l.fontName = .text face.name := by
  unfold IsLettering at h
  split at h
  · obtain ⟨face, rfl⟩ := h
    exact ⟨face, rfl⟩
  · obtain ⟨face, rfl⟩ := h
    exact ⟨face, rfl⟩
  · exact h ▸ ⟨{}, rfl⟩
  · exact Table.IsLettering.fontName h
  · exact h.elim

/-- Whatever its kind, an element paints inside brackets, and draws images only if it is an image element. -/
theorem bracketed_paint (e : Element α) (r : Record) (images : Images) (scale : α) :
    Bracketed (ElementKind.Paints e.kind) (e.paint r images scale) := by
  refine bracketed_paint_of (fun _ h => .inl h.isPlain) e (fun l hl d hd => .inl ?_) (fun h d hd => .inr ⟨h, hd⟩) r
    images
  obtain ⟨face, hface⟩ := hl.fontName
  exact hd.isPlain face hface

/-- An element saves and restores the state, makes plain drawings, and draws images only if it is an image element. -/
theorem every_paint (e : Element α) (r : Record) (images : Images) (scale : α) :
    (e.paint r images scale).Every (ElementKind.Draws e.kind) :=
  (e.bracketed_paint r images scale).every

end Element

end ReportCard
