import Mathlib.Data.List.GetD
import ReportCard.Proofs.Number.Double
import ReportCard.Proofs.Table.Drawings
import ReportCard.Proofs.Text.Case

/-!
# When a table has a header band

Whether a table has a header band is decided by all of its headers, while only those of its columns are written in the
band.  So the band is there without anything in it if all headers that are not blank stand beyond the last column
(`Table.paint_band_iff`).
-/

namespace ReportCard.Table

theorem IsHeaded.of_take {headers : List String} {cols : Nat} (h : IsHeaded (headers.take cols)) : IsHeaded headers :=
  let ⟨header, hmem, hblank⟩ := h
  ⟨header, List.mem_of_mem_take hmem, hblank⟩

/-- A drawing shows a text that is not blank. -/
def Inscribed {α : Type} (d : Drawing α) : Prop := ∃ t, d.text? = some (.text t) ∧ Text.allBlank t = false

section Inscribed

variable {α : Type} [Scalar α] {e : Element α}

/-- Of the drawings of a field only its text shows a text. -/
theorem exists_inscribed_fieldDrawings {column : Nat} {top height : α} {text : String} {l : Lettering α} :
    (∃ d ∈ fieldDrawings e column top height text l, Inscribed d) ↔ Text.allBlank text = false := by
  constructor
  · rintro ⟨d, hd, t, ht, hblank⟩
    obtain ⟨-, rfl⟩ | ⟨-, rfl⟩ := mem_fieldDrawings.1 hd
    · obtain rfl := Value.text.inj (Option.some.inj ht)
      exact hblank
    · cases ht
  · intro hblank
    have hne : text.isEmpty = false := by
      rw [← Bool.not_eq_true, String.isEmpty_iff]
      rintro rfl
      cases hblank
    exact ⟨_, mem_fieldDrawings.2 (.inl ⟨hne, rfl⟩), text, rfl, hblank⟩

/-- What is written in the header band are the headers of the columns. -/
theorem exists_inscribed_headerDrawings (e : Element α) (scale : α) :
    (∃ d ∈ headerDrawings e scale, Inscribed d) ↔ IsHeaded (e.metadata.headers.take (colCount e.metadata)) := by
  constructor
  · rintro ⟨d, hd, hinscribed⟩
    obtain ⟨-, rfl | ⟨column, hcolumn, hfield⟩⟩ := mem_headerDrawings.1 hd
    · obtain ⟨t, ht, -⟩ := hinscribed
      cases ht
    · have hblank := exists_inscribed_fieldDrawings.1 ⟨d, hfield, hinscribed⟩
      rw [Text.allBlank_upper] at hblank
      have hlength : column < e.metadata.headers.length := by
        by_contra hge
        rw [List.getD_eq_default _ _ (Nat.le_of_not_lt hge)] at hblank
        cases hblank
      rw [List.getD_eq_getElem _ _ hlength] at hblank
      exact ⟨_, List.mem_take_iff_getElem.2 ⟨column, by omega, rfl⟩, hblank⟩
  · intro hheaded
    have hshows : showsHeader e = true := hasHeaders_iff.2 hheaded.of_take
    obtain ⟨h, hmem, hblank⟩ := hheaded
    obtain ⟨column, hcolumn, rfl⟩ := List.mem_take_iff_getElem.1 hmem
    have hfield : Text.allBlank (Text.upper (e.metadata.headers.getD column "")) = false := by
      rw [Text.allBlank_upper, List.getD_eq_getElem _ _ (by omega)]
      exact hblank
    have hdrawn : ∃ d ∈ fieldDrawings e column e.box.y (headerHeight e scale)
        (Text.upper (e.metadata.headers.getD column "")) (headerLettering e scale), Inscribed d :=
      exists_inscribed_fieldDrawings.2 hfield
    obtain ⟨d, hd, hinscribed⟩ := hdrawn
    exact ⟨d, mem_headerDrawings.2 ⟨hshows, .inr ⟨column, by omega, hd⟩⟩, hinscribed⟩

theorem headerDrawings_ne_nil_iff (e : Element α) (scale : α) :
    headerDrawings e scale ≠ [] ↔ IsHeaded e.metadata.headers := by
  rw [← hasHeaders_iff]
  unfold headerDrawings showsHeader
  cases hasHeaders e.metadata.headers <;> simp

end Inscribed

/-- The band of a table that is painted on a scale above zero has a height exactly if some header is not blank. -/
theorem headerHeight_pos_iff (e : Element Float) {scale : Float} (hscale : 0.0 < scale) :
    0.0 < (layout e scale).headerHeight ↔ IsHeaded e.metadata.headers := by
  rw [← hasHeaders_iff]
  show 0.0 < (if hasHeaders e.metadata.headers then Float.ofNat 22 * scale else Float.ofNat 0) ↔ _
  cases hasHeaders e.metadata.headers with
  | true =>
    have hunpack : (Float.ofNat 22).toModel.unpack = .finite .positive (22 * 2 ^ 48) (-48) (by decide) := rfl
    simpa using mul_pos_of_one_le hunpack (by norm_num) hscale
  | false =>
    simpa using (by decide : ¬0.0 < Float.ofNat 0)

/-- A table that can be painted, on a scale above zero, has a header band exactly if some header is not blank, also one
beyond the last column; the band is there if it has a height.  What is written in it are the headers of the columns, so
that it has something to show exactly if the header of some column is not blank. -/
theorem paint_band_iff {e : Element Float} {r : Record} {scale : Float} {size : Size Float} {start : Recording Float}
    (hscale : 0.0 < scale)
    (hreturns : ((Recording.accepting size).paint (paint e r scale) start).fault = none) :
    let headers := e.metadata.headers
    let band := headerDrawings e scale
    ∃ grid, HasCells e.metadata r grid ∧
      ((Recording.accepting size).paint (paint e r scale) start).state = start ++ (drawings e scale grid).toArray ∧
      (0.0 < (layout e scale).headerHeight ↔ IsHeaded headers) ∧
      (band ≠ [] ↔ IsHeaded headers) ∧
      ((∃ d ∈ band, Inscribed d) ↔ IsHeaded (headers.take (colCount e.metadata))) := by
  intro headers band
  rw [Recording.paint_accepting] at hreturns ⊢
  obtain ⟨grid, hgrid⟩ := (fault?_paint_eq_none scale).1 hreturns
  refine ⟨grid, hgrid, ?_, headerHeight_pos_iff e hscale, headerDrawings_ne_nil_iff e scale,
    exists_inscribed_headerDrawings e scale⟩
  rw [(comesTo_paint scale hgrid).actions]

/-- A table of one column with two headers, of which only the second one is not blank. -/
def surplusTable : Element Float :=
  ⟨some .table, "table", ⟨0, 0, 90, 62⟩, {},
    { rows := some 1, cols := some 1, headers := ["", "Grade"] }, none, none⟩

/-- The band of the table has a height, but nothing is written in it. -/
theorem paint_band_iff_surplus :
    let size : Size Float := ⟨600, 800⟩
    let band := headerDrawings surplusTable 1.0
    0.0 < (1.0 : Float) ∧ ((Recording.accepting size).paint (paint surplusTable {} 1.0) #[]).fault = none ∧
      ∃ grid, HasCells surplusTable.metadata {} grid ∧
        ((Recording.accepting size).paint (paint surplusTable {} 1.0) #[]).state =
          #[] ++ (drawings surplusTable 1.0 grid).toArray ∧
        0.0 < (layout surplusTable 1.0).headerHeight ∧ band ≠ [] ∧ ¬∃ d ∈ band, Inscribed d := by
  intro size band
  have hscale : 0.0 < (1.0 : Float) := by decide +kernel
  have hreturns : ((Recording.accepting size).paint (paint surplusTable {} 1.0) #[]).fault = none := by decide +kernel
  obtain ⟨grid, hgrid, hstate, hheight, hband, htexts⟩ := paint_band_iff hscale hreturns
  have hheaded : IsHeaded surplusTable.metadata.headers := by decide +kernel
  have hcolumns : ¬IsHeaded (surplusTable.metadata.headers.take (colCount surplusTable.metadata)) := by decide +kernel
  exact ⟨hscale, hreturns, grid, hgrid, hstate, hheight.2 hheaded, hband.2 hheaded, mt htexts.1 hcolumns⟩

/-- The table has a header band, but no header to show in it. -/
theorem paint_band_without_text :
    let o := (Recording.accepting (⟨600, 800⟩ : Size Float)).paint (paint surplusTable {} 1.0) #[]
    o.fault = none ∧ 0.0 < (layout surplusTable 1.0).headerHeight ∧
      ¬IsHeaded (surplusTable.metadata.headers.take (colCount surplusTable.metadata)) ∧
      o.state.toList.filterMap Drawing.text? = [] := by
  decide +kernel

end ReportCard.Table
