import ReportCard.Painting.Page
import ReportCard.Proofs.Drawing.Bracket
import ReportCard.Proofs.Element.Drawings

/-!
# Faults stay with their element

Every element paints inside brackets of saved states, whatever its kind, and a page catches the fault of each element.
So painting a page never fails, and on a surface that can save its state an element that
fails, at whichever drawing, leaves the brackets closed for the next one.
-/

namespace ReportCard

variable {α σ : Type}

variable [Scalar α]

namespace Page

/-- An element of a page is painted inside brackets, with texts in the four faces. -/
theorem bracketed_paintElement (r : Record) (images : Images) (s : Scaler α) (i : Nat) (e : Element α) :
    Drawing.Bracketed (fun d => d.paints = true ∧ d.IsLettered) (paintElement r images s i e) := by
  unfold paintElement
  split
  · exact .note _
  · refine .recover (((s.apply e).bracketed_paint r images s.factor).imp fun _ h => ?_) fun _ => .note _
    exact ⟨h.paints, h.isLettered⟩

private theorem bracketed_paintFrom (r : Record) (images : Images) (s : Scaler α) (i : Nat) (es : List (Element α)) :
    Drawing.Bracketed (fun d => d.paints = true ∧ d.IsLettered) (paintFrom r images s i es) := by
  induction es generalizing i with
  | nil => exact .done
  | cons e es ih => exact .seq (bracketed_paintElement r images s i e) (ih _)

/-- A page is painted inside brackets, with texts in the four faces. -/
theorem bracketed_paint (r : Record) (images : Images) (s : Scaler α) (es : List (Element α)) :
    Drawing.Bracketed (fun d => d.paints = true ∧ d.IsLettered) (paint r images s es) :=
  bracketed_paintFrom r images s 0 es

/-- How elements fare one after the other: each is painted once, from where the one before it left the surface. -/
def attempts (surface : Surface α σ) (r : Record) (images : Images) (s : Scaler α) :
    List (Element α) → σ → List (Outcome σ)
  | [], _ => []
  | e :: es, state =>
    let o := surface.paint ((s.apply e).paint r images s.factor) state
    o :: attempts surface r images s es o.state

/-- The elements whose kind is known. -/
def known (es : List (Element α)) : List (Element α) := es.filter (·.kind.isSome)

/-- Where attempts that began at a state leave the surface. -/
def finalState (state : σ) : List (Outcome σ) → σ
  | [] => state
  | o :: os => finalState o.state os

theorem length_attempts (surface : Surface α σ) (r : Record) (images : Images) (s : Scaler α)
    (es : List (Element α)) (state : σ) : (attempts surface r images s es state).length = es.length := by
  induction es generalizing state with
  | nil => rfl
  | cons e es ih => exact congrArg (· + 1) (ih _)

private theorem finalState_eq (state : σ) (os : List (Outcome σ)) :
    finalState state os = state ∨ ∃ o ∈ os, finalState state os = o.state := by
  induction os generalizing state with
  | nil => exact .inl rfl
  | cons o os ih =>
    rcases ih o.state with h | ⟨o', ho', h⟩
    · exact .inr ⟨o, by simp, h⟩
    · exact .inr ⟨o', by simp [ho'], h⟩

/-- Painting an element of known kind never fails, and leaves the surface where painting it alone does. -/
private theorem run_paintElement (surface : Surface α σ) (r : Record) (images : Images) (s : Scaler α) (i : Nat)
    {e : Element α} (he : e.kind.isSome) (state : σ) :
    (surface.paint (paintElement r images s i e) state).fault = none ∧
      (surface.paint (paintElement r images s i e) state).state =
        (surface.paint ((s.apply e).paint r images s.factor) state).state := by
  obtain ⟨kind, hkind⟩ := Option.isSome_iff_exists.1 he
  simp only [paintElement, hkind, Surface.paint, Script.run]
  split
  · exact ⟨rfl, rfl⟩
  · rename_i h
    exact ⟨h, rfl⟩

/-- Painting an element of a page never fails. -/
theorem fault_paintElement (surface : Surface α σ) (r : Record) (images : Images) (s : Scaler α) (i : Nat)
    (e : Element α) (state : σ) : (surface.paint (paintElement r images s i e) state).fault = none := by
  cases hkind : e.kind with
  | none =>
    rw [paintElement, hkind]
    rfl
  | some kind => exact (run_paintElement surface r images s i (by simp [hkind]) state).1

/-- Painting a page comes to attempting each element of known kind once, in order, whatever becomes of it. -/
theorem run_paintFrom (surface : Surface α σ) (r : Record) (images : Images) (s : Scaler α) (i : Nat)
    (es : List (Element α)) (state : σ) :
    (surface.paint (paintFrom r images s i es) state).fault = none ∧
      (surface.paint (paintFrom r images s i es) state).state =
        finalState state (attempts surface r images s (known es) state) := by
  induction es generalizing i state with
  | nil => exact ⟨rfl, rfl⟩
  | cons e es ih =>
    have hrest := ih (i + 1) (surface.paint (paintElement r images s i e) state).state
    simp only [Surface.paint] at hrest ⊢
    -- an element of unknown kind is passed over with a note and leaves the surface as it is
    cases he : e.kind.isSome with
    | true =>
      obtain ⟨hfault, hstate⟩ := run_paintElement surface r images s i he state
      simp only [Surface.paint] at hfault hstate
      have hknown : known (e :: es) = e :: known es := by simp [known, he]
      simp only [paintFrom, Script.run, hfault, hknown, attempts, finalState, Outcome.after, Surface.paint]
      rw [← hstate]
      exact hrest
    | false =>
      have hnone : e.kind = none := by simpa using he
      have hknown : known (e :: es) = known es := by simp [known, he]
      simp only [paintElement, hnone, Script.run] at hrest
      simp only [paintFrom, paintElement, hnone, Script.run, hknown, Outcome.after]
      exact hrest

/-- Each attempt leaves the journal well bracketed if it was so before. -/
private theorem depth?_attempts {surface : Surface α σ}
    (hsave : ∀ s, (surface.perform .saveState s).fault = none) (r : Record) (images : Images) (s : Scaler α)
    (es : List (Element α)) (state : σ × List (Drawing α)) (hstate : Drawing.depth? 0 state.2 = some 0) :
    ∀ o ∈ attempts surface.journaled r images s es state, Drawing.depth? 0 o.state.2 = some 0 := by
  induction es generalizing state with
  | nil => simp [attempts]
  | cons e es ih =>
    have hhere : Drawing.depth? 0 (surface.journaled.paint ((s.apply e).paint r images s.factor) state).state.2 =
        some 0 := by
      obtain ⟨ds, hds, hdepth⟩ := ((s.apply e).bracketed_paint r images s.factor).continues
        (fun _ => ElementKind.Paints.paints) hsave state
      rw [hds, Drawing.depth?_append, hstate]
      exact hdepth
    intro o ho
    rcases List.mem_cons.1 ho with rfl | ho
    · exact hhere
    · exact ih _ hhere o ho

/-- On a surface that can save its state, and whose other operations may fail at any time, painting a page does not
fail: each element of known kind is attempted once, in order, from where the one before it left the surface, and after
each attempt the journal of all operations is well bracketed and back at depth zero. -/
theorem paint_isolates_faults {surface : Surface α σ} (hsave : ∀ s, (surface.perform .saveState s).fault = none)
    (r : Record) (images : Images) (s : Scaler α) (es : List (Element α)) (state : σ) :
    let o := surface.journaled.paint (paint r images s es) (state, [])
    let tries := attempts surface.journaled r images s (known es) (state, [])
    o.fault = none ∧ o.state = finalState (state, []) tries ∧ tries.length = (known es).length ∧
      Drawing.depth? 0 o.state.2 = some 0 ∧ ∀ t ∈ tries, Drawing.depth? 0 t.state.2 = some 0 := by
  intro o tries
  obtain ⟨hfault, hfinal⟩ := run_paintFrom surface.journaled r images s 0 es (state, [])
  have hdepth := depth?_attempts hsave r images s (known es) (state, []) rfl
  refine ⟨hfault, hfinal, length_attempts .., ?_, hdepth⟩
  rw [show o.state = finalState (state, []) tries from hfinal]
  rcases finalState_eq (state, []) tries with h | ⟨t, ht, h⟩
  · rw [h]; rfl
  · rw [h]; exact hdepth t ht

/-- A surface that can save and restore its state, and fails at everything else. -/
def frail : Surface Rat Unit where
  size := ⟨600, 800⟩
  perform d s := if d.paints then .stop s .unsupported else .ok s

/-- A shape, an element of unknown kind, and an image, all of which want to paint. -/
def frailElements : List (Element Rat) :=
  [⟨some .shape, "shape", ⟨0, 0, 10, 10⟩, { backgroundColor := some "red", borderBottom := some "1px" }, {}, none,
      none⟩,
    ⟨none, "star", ⟨0, 0, 10, 10⟩, { backgroundColor := some "red" }, {}, none, none⟩,
    ⟨some .image, "image", ⟨0, 0, 10, 10⟩, {}, { field := some "school_logo" }, none, none⟩]

theorem paint_isolates_faults_frail :
    (∀ s, (frail.perform .saveState s).fault = none) ∧
      let r : Record := { school := [("logo", .text "logo.png")] }
      let images : Images := [("logo.png", .loaded (.picture 4 3))]
      let o := frail.journaled.paint (paint r images ⟨600, 800⟩ frailElements) ((), [])
      let tries := attempts frail.journaled r images ⟨600, 800⟩ (known frailElements) ((), [])
      o.state.2.map Drawing.operation =
          ["save_state", "fill_rect", "restore_state", "save_state", "image", "restore_state", "save_state",
            "stroke_rect", "restore_state"] ∧
        o.fault = none ∧ o.state = finalState ((), []) tries ∧ tries.length = (known frailElements).length ∧
        Drawing.depth? 0 o.state.2 = some 0 ∧ ∀ t ∈ tries, Drawing.depth? 0 t.state.2 = some 0 :=
  ⟨fun _ => rfl, by decide +kernel, paint_isolates_faults (fun _ => rfl) _ _ _ _ ()⟩

end Page

end ReportCard
