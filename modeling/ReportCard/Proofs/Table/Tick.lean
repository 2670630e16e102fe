import ReportCard.Proofs.Drawing.Transcript
import ReportCard.Proofs.Table.Content
import ReportCard.Proofs.Table.Failure

/-!
# Boxes to tick

A table of ratings with more than two columns has boxes: a rating ticks those of its row whose header is what is printed
for it.  The headers are compared as they stand, so that a rating for which nothing but blanks is printed ticks the
columns with just that header, and an empty one every column that has none.  No other box is ticked by mistake
(`Table.paint_ticks_iff`).
-/

namespace ReportCard.Table

variable {α : Type}

/-- All columns but the first, which has the names, are boxes. -/
def IsBox (m : Metadata α) (column : Nat) : Prop := 1 ≤ column ∧ column < colCount m

/-- A rating ticks a box: there is one, and the header is what is printed for it. -/
def Ticks (m : Metadata α) (rating : Value) (column : Nat) : Prop :=
  rating.isNull = false ∧ formatNumber rating = .ok (m.headers.getD column "")

instance (m : Metadata α) (rating : Value) : DecidablePred (Ticks m rating) :=
  fun _ => inferInstanceAs (Decidable (_ ∧ _))

/-- What a row of boxes is meant to show of a rating: a mark below each header with a text that is what is printed for
the rating, and nothing elsewhere. -/
structure ShowsRating (m : Metadata α) (rating : Value) (text : Nat → String) : Prop where
  shown : ∀ column, IsBox m column → (text column ≠ "" ↔
    Text.allBlank (m.headers.getD column "") = false ∧ formatNumber rating = .ok (m.headers.getD column ""))
  marked : ∀ column, IsBox m column → text column ≠ "" → text column = checkmark
  unrated : (rating = .null ∨ ∃ s, rating = .text s ∧ Text.allBlank s = true) →
    ∀ column, IsBox m column → text column ≠ checkmark
  once : (∀ column other, IsBox m column → IsBox m other → Text.allBlank (m.headers.getD column "") = false →
      m.headers.getD column "" = m.headers.getD other "" → column = other) →
    ∀ column other, IsBox m column → IsBox m other → text column = checkmark → text other = checkmark → column = other

/-! ### Rows -/

theorem traitCell_box {m : Metadata α} {column : Nat} {name : String} {ratings : Value} (hcols : 2 < colCount m)
    (hcolumn : 1 ≤ column) (hwritable : (ratings.member name).isWritable = true) :
    traitCell name (m.headers.getD column "") column ratings (colCount m) =
      .ok (if Ticks m (ratings.member name) column then checkmark else "") := by
  rw [traitCell, if_neg (Nat.ne_of_gt hcolumn), ratingText, decide_eq_true hcols]
  cases hrating : (ratings.member name).isNull with
  | true =>
    have hticks : ¬Ticks m (ratings.member name) column := fun h => by simp [h.1] at hrating
    simp [hticks]
  | false =>
    have hprinted : formatNumber (ratings.member name) = .ok (ratings.member name).printed :=
      Value.written_of_isWritable hwritable _
    have hticks : Ticks m (ratings.member name) column ↔
        (Value.text (m.headers.getD column "")).isText (ratings.member name).printed = true := by
      rw [Ticks, and_iff_right hrating, hprinted, Except.ok.injEq]
      exact eq_comm.trans beq_iff_eq.symm
    rw [hprinted]
    simp only [Bool.false_eq_true, if_false, Except.map, if_true, hticks]

section Row

variable {m : Metadata α} {rating : Value} {text : Nat → String} {column : Nat}

theorem eq_checkmark_iff (htext : text column = if Ticks m rating column then checkmark else "") :
    text column = checkmark ↔ Ticks m rating column := by
  have hmark : "" ≠ checkmark := by decide
  rw [htext, ite_eq_left_iff]
  exact ⟨fun h => by_contra fun hnot => hmark (h hnot), fun h hnot => absurd h hnot⟩

theorem ne_empty_iff (htext : text column = if Ticks m rating column then checkmark else "") :
    text column ≠ "" ↔ Ticks m rating column := by
  have hmark : checkmark ≠ "" := by decide
  rw [htext, ne_eq, ite_eq_right_iff]
  exact ⟨fun h => by_contra fun hnot => h fun htick => absurd htick hnot, fun h hempty => hmark (hempty h)⟩

/-- A header with a text that is what is printed for a rating belongs to a box that the rating ticks. -/
theorem ticks_of_text (htext : Text.allBlank (m.headers.getD column "") = false)
    (hequal : formatNumber rating = .ok (m.headers.getD column "")) : Ticks m rating column := by
  refine ⟨?_, hequal⟩
  cases rating with
  | null =>
    rw [← Except.ok.inj hequal] at htext
    cases htext
  | _ => rfl

/-- A row of boxes shows a rating as it is meant to exactly if the rating ticks no box with a blank header. -/
theorem showsRating_iff
    (htext : ∀ column, IsBox m column → text column = if Ticks m rating column then checkmark else "") :
    ShowsRating m rating text ↔ ∀ column, IsBox m column → Ticks m rating column →
      Text.allBlank (m.headers.getD column "") = false := by
  constructor
  · intro h column hbox htick
    exact ((h.shown column hbox).1 ((ne_empty_iff (htext column hbox)).2 htick)).1
  intro hblank
  refine ⟨fun column hbox => ?_, fun column hbox hshown => ?_, fun hunrated column hbox hmark => ?_, ?_⟩
  · rw [ne_empty_iff (htext column hbox)]
    exact ⟨fun htick => ⟨hblank column hbox htick, htick.2⟩, fun h => ticks_of_text h.1 h.2⟩
  · exact (eq_checkmark_iff (htext column hbox)).2 ((ne_empty_iff (htext column hbox)).1 hshown)
  · have htick := (eq_checkmark_iff (htext column hbox)).1 hmark
    have hheader := hblank column hbox htick
    rcases hunrated with rfl | ⟨s, rfl, hs⟩
    · rw [← Except.ok.inj htick.2] at hheader
      cases hheader
    · rw [← Except.ok.inj htick.2] at hheader
      exact absurd hs (Bool.eq_false_iff.1 hheader)
  · intro hdistinct column other hbox hbox' hmark hmark'
    have htick := (eq_checkmark_iff (htext column hbox)).1 hmark
    have htick' := (eq_checkmark_iff (htext other hbox')).1 hmark'
    exact hdistinct column other hbox hbox' (hblank column hbox htick)
      (Except.ok.inj (htick.2.symm.trans htick'.2))

end Row

/-! ### Tables -/

section Ratings

variable {m : Metadata α} {kind : TableKind}

/-- All ratings that a table shows can be written. -/
def HasShortRatings (m : Metadata α) (kind : TableKind) (r : Record) : Prop :=
  ∀ row < rowCount m, ∀ name, (traitNames m kind)[row]? = some name →
    ((traitRatings r kind).member name).isWritable = true

/-- A table with boxes is painted to its end if its ratings can be written. -/
theorem hasShortRatings_iff (hkind : m.tableKind = some kind) (hratings : kind ≠ .subjects) (hcols : 2 < colCount m)
    (r : Record) : HasShortRatings m kind r ↔ ¬Stumbles m r ∧ ¬IsOverlong m r := by
  have hstumbles : ¬Stumbles m r := fun h => hratings (Option.some.inj (hkind.symm.trans h.1))
  rw [and_iff_right hstumbles]
  constructor
  · rintro hshort ⟨row, hrow, column, -, hlong⟩
    cases hlong with
    | result hsubjects => exact hratings (Option.some.inj (hkind.symm.trans hsubjects))
    | @rating kind' name hkind' _ hname _ hlong =>
      obtain rfl : kind = kind' := Option.some.inj (hkind.symm.trans hkind')
      simp [hshort row hrow name hname] at hlong
  · intro hlong row hrow name hname
    by_contra hwritable
    refine hlong ⟨row, hrow, 1, by omega, .rating hkind hratings hname Nat.one_ne_zero ?_⟩
    rwa [Bool.not_eq_true] at hwritable

end Ratings

variable [Scalar α]

/-- A table of ratings with boxes is painted to its end unless one of the ratings that it shows cannot be written.  In
the row of a trait just the boxes that its rating ticks then have a mark, and the others are empty; the row shows the
rating as it is meant to exactly if the rating ticks no box with a blank header. -/
theorem paint_ticks_iff {e : Element α} {kind : TableKind} (hkind : e.metadata.tableKind = some kind)
    (hratings : kind ≠ .subjects) (hcols : 2 < colCount e.metadata) (size : Size α) (r : Record) (scale : α)
    (start : Recording α) :
    let m := e.metadata
    let o := (Recording.accepting size).paint (paint e r scale) start
    (o.fault = none ↔ HasShortRatings m kind r) ∧
      (o.fault = none → ∃ grid : Nat → Nat → Cell, HasCells m r grid ∧
        o.state = start ++ (drawings e scale grid).toArray ∧
        ∀ row < rowCount m, ∀ name, (traitNames m kind)[row]? = some name →
          let rating := (traitRatings r kind).member name
          (∀ column, IsBox m column → (grid row column).text = if Ticks m rating column then checkmark else "") ∧
          (ShowsRating m rating (fun column => (grid row column).text) ↔
            ∀ column, IsBox m column → Ticks m rating column → Text.allBlank (m.headers.getD column "") = false)) := by
  intro m o
  have ho : o = ⟨start ++ (paint e r scale).actions.toArray, (paint e r scale).log, (paint e r scale).fault?⟩ :=
    Recording.paint_accepting ..
  have hshort : o.fault = none ↔ HasShortRatings m kind r := by
    rw [ho, hasShortRatings_iff hkind hratings hcols]
    exact fault?_paint_eq_none_iff
  refine ⟨hshort, fun hreturns => ?_⟩
  obtain ⟨grid, hgrid⟩ := (fault?_paint_eq_none scale).1 ((congrArg Outcome.fault ho).symm.trans hreturns)
  refine ⟨grid, hgrid, by rw [ho, (comesTo_paint scale hgrid).actions], ?_⟩
  intro row hrow name hname rating
  have htext : ∀ column, IsBox m column →
      (grid row column).text = if Ticks m rating column then checkmark else "" := by
    intro column hbox
    have hcell := hgrid row hrow column hbox.2
    rw [sourceOf_of_ratings hkind hratings, Source.cell, hname, Option.map_some, Option.getD_some,
      traitCell_box hcols hbox.1 (hshort.1 hreturns row hrow name hname)] at hcell
    rw [← Except.ok.inj hcell]
  exact ⟨htext, showsRating_iff htext⟩

/-- A table with a row for each of two traits, and a box more than headers. -/
def boxTable : Element Rat :=
  ⟨some .table, "table", ⟨0, 0, 90, 62⟩, {},
    { rows := some 2, cols := some 4, headers := ["Trait", "4", "5"], tableKind := some .affective
      traits := some ["Neat", "Calm"] }, none, none⟩

/-- A record with a rating of the first trait and an empty one of the second. -/
def boxRecord : Record where
  results := [[("affectiveTraits", .mapping [("Neat", .float 5.0), ("Calm", .text "")])]]

/-- The first trait is ticked as it should be, the second is not. -/
theorem paint_ticks_iff_traits :
    let m := boxTable.metadata
    let o := (Recording.accepting (⟨600, 800⟩ : Size Rat)).paint (paint boxTable boxRecord 1) #[]
    m.tableKind = some .affective ∧ TableKind.affective ≠ .subjects ∧ 2 < colCount m ∧ o.fault = none ∧
      ∃ grid : Nat → Nat → Cell, HasCells m boxRecord grid ∧ o.state = #[] ++ (drawings boxTable 1 grid).toArray ∧
        (grid 0 2).text = checkmark ∧ ShowsRating m (.float 5.0) (fun column => (grid 0 column).text) ∧
        (grid 1 3).text = checkmark ∧ ¬ShowsRating m (.text "") (fun column => (grid 1 column).text) := by
  have hcols : 2 < colCount boxTable.metadata := by decide
  have hfault :
      ((Recording.accepting (⟨600, 800⟩ : Size Rat)).paint (paint boxTable boxRecord 1) #[]).fault = none := by
    decide +kernel
  obtain ⟨-, hpaint⟩ := paint_ticks_iff (e := boxTable) rfl (by decide) hcols ⟨600, 800⟩ boxRecord 1 #[]
  obtain ⟨grid, hgrid, hstate, hrows⟩ := hpaint hfault
  obtain ⟨hneat, hneatRating⟩ := hrows 0 (by decide) "Neat" rfl
  obtain ⟨hcalm, hcalmRating⟩ := hrows 1 (by decide) "Calm" rfl
  have hfive : Ticks boxTable.metadata (.float 5.0) 2 := by decide +kernel
  have hempty : Ticks boxTable.metadata (.text "") 3 := by decide +kernel
  have hblank : ∀ column < 4, Ticks boxTable.metadata (.float 5.0) column →
      Text.allBlank (boxTable.metadata.headers.getD column "") = false := by decide +kernel
  refine ⟨rfl, by decide, hcols, hfault, grid, hgrid, hstate, ?_, ?_, ?_, fun h => ?_⟩
  · exact (hneat 2 ⟨by decide, by decide⟩).trans (if_pos hfive)
  · exact hneatRating.2 fun column hbox => hblank column hbox.2
  · exact (hcalm 3 ⟨by decide, by decide⟩).trans (if_pos hempty)
  · exact absurd (hcalmRating.1 h 3 ⟨by decide, by decide⟩ hempty) (by decide)

/-- A column without a header has a mark in the row of an empty rating. -/
theorem paint_ticks_unlabelled :
    let o := (Recording.accepting (⟨600, 800⟩ : Size Rat)).paint (paint boxTable boxRecord 1) #[]
    o.fault = none ∧ Text.allBlank (boxTable.metadata.headers.getD 3 "") = true ∧
      ((traitRatings boxRecord .affective).member "Calm").isText "" = true ∧
      traitCell "Calm" (boxTable.metadata.headers.getD 3 "") 3 (traitRatings boxRecord .affective)
        (colCount boxTable.metadata) = .ok checkmark ∧
      o.state.toList.filterMap (fun d => d.text?.bind Value.text?) =
        ["TRAIT", "4", "5", "Neat", checkmark, "Calm", checkmark] := by
  decide +kernel

end ReportCard.Table
