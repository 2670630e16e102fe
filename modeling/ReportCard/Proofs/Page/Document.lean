import Mathlib.Data.List.Forall2
import ReportCard.Proofs.Drawing.Replay
import ReportCard.Proofs.Drawing.Stroke
import ReportCard.Proofs.Page.Isolation
import ReportCard.Proofs.Page.Preparation

/-!
# The canvas of a document

Drawings share the canvas of their page, and yet none of them sees what another one has set: each begins in a bare
state, because those before it have restored what they saved (`Drawing.Bracketed.leads`).  Where a text in a box leaves
a saved state behind, the brackets of its element restore that one in the place of their own, which is bare as well; so
the drawings behind it come out right, but one state stays on the stack.
-/

namespace ReportCard

open Canvas (strokes)
open CanvasState (Leads)

variable (pageHeight : Float) {P : Drawing Float → Prop} {p : Script (Drawing Float)} {s : CanvasState}

/-- Drawings one after the other go through, or fail and leave bare states behind. -/
theorem Script.Straight.leads (hp : p.Straight P) (hP : ∀ d, P d → d.paints = true ∧ d.IsLettered)
    (hs : s.now.IsBare) :
    let q := p.subst (strokes pageHeight)
    Leads pageHeight s q.actions (q.fault? = none) := by
  induction hp generalizing s with
  | done => exact .nil hs
  | act h => exact Canvas.leads_strokes (hP _ h).1 (hP _ h).2 hs
  | note n => exact .nil hs
  | fail fault => exact .nil hs
  | @seq p q _ _ ih₁ ih₂ =>
    -- the second script is begun only if the first one goes through, and that leaves a bare state
    have hfirst := ih₁ hs
    simp only [Script.subst, Script.actions, Script.fault?] at hfirst ⊢
    cases hfault : (p.subst (strokes pageHeight)).fault? with
    | some fault => simpa using hfirst.imp (by simp)
    | none => simpa using hfirst.append (ih₂ (hfirst.now hfault))

namespace Drawing

/-- Between brackets a failure leaves no more behind than a saved state: the canvas is bare again. -/
private theorem leads_isolated {body : Script (Drawing Float)} (hbody : body.Straight P)
    (hP : ∀ d, P d → d.paints = true ∧ d.IsLettered) (hs : s.now.IsBare) :
    Leads pageHeight s ((isolated body).subst (strokes pageHeight)).actions True := by
  have hactions : ((isolated body).subst (strokes pageHeight)).actions =
      (saveState, .saveState) :: ((body.subst (strokes pageHeight)).actions ++ [(restoreState, .restoreState)]) := rfl
  rw [hactions]
  obtain ⟨hserves, ⟨left, hsaved, hbare, hleaks⟩, -⟩ :=
    hbody.leads pageHeight (s := s.after .saveState) hP hs
  generalize (body.subst (strokes pageHeight)).actions = l at hserves hsaved hleaks ⊢
  have hthrough : s.through ((saveState, .saveState) :: (l ++ [(restoreState, .restoreState)])) =
      ((s.after .saveState).through l).after .restoreState := by
    simp [CanvasState.through, CanvasState.run, List.foldl_append]
  have hnone : (∀ x ∈ (saveState, Call.saveState) :: (l ++ [(restoreState, .restoreState)]), ¬x.1.Leaks) ↔
      left = [] := by
    rw [hleaks]
    simp [Leaks, or_imp, forall_and]
  have hserves : s.Serves pageHeight ((saveState, .saveState) :: (l ++ [(restoreState, .restoreState)])) :=
    ⟨.of_not_paints rfl, CanvasState.serves_append.2 ⟨hserves, .of_not_paints rfl, trivial⟩⟩
  cases left with
  | nil =>
    have hback := CanvasState.after_restoreState hsaved
    refine ⟨hserves, ⟨[], ?_, by simp, hnone.symm⟩, fun _ => ?_⟩ <;> rw [hthrough, hback]
    · rfl
    · exact hs
  | cons g left =>
    -- what is restored is the state that was left behind, and that of the brackets stays on the stack
    have hback := CanvasState.after_restoreState hsaved
    have hrest : ∀ g' ∈ left ++ [s.now], g'.IsBare := by
      simp only [List.forall_mem_append, List.forall_mem_singleton]
      exact ⟨fun g' hg' => hbare g' (by simp [hg']), hs⟩
    refine ⟨hserves, ⟨left ++ [s.now], ?_, hrest, by simpa using hnone⟩, fun _ => ?_⟩ <;> rw [hthrough, hback]
    · simp [CanvasState.after]
    · exact hbare g (by simp)

/-- Bracketed drawings begin in bare states, and leave one in the end. -/
theorem Bracketed.leads (hp : Bracketed P p) (hP : ∀ d, P d → d.paints = true ∧ d.IsLettered) (hs : s.now.IsBare) :
    Leads pageHeight s (p.subst (strokes pageHeight)).actions True := by
  induction hp generalizing s with
  | done => exact .nil hs
  | note n => exact .nil hs
  | fail fault => exact .nil hs
  | isolated hbody => exact leads_isolated pageHeight hbody hP hs
  | @seq p q _ _ ih₁ ih₂ =>
    refine (ih₁ hs).append ?_
    split
    · exact .nil ((ih₁ hs).now trivial)
    · exact ih₂ ((ih₁ hs).now trivial)
  | @recover p handler _ _ ih₁ ih₂ =>
    refine (ih₁ hs).append ?_
    cases (p.subst (strokes pageHeight)).fault? with
    | none => exact .nil ((ih₁ hs).now trivial)
    | some fault => exact ih₂ fault ((ih₁ hs).now trivial)

end Drawing

/-- The calls that painting a page makes on its canvas, each with the drawing that it is made for. -/
def Page.strokes (pageHeight : Float) (r : Record) (images : Images) (s : Scaler Float) (es : List (Element Float)) :
    List Stroke :=
  ((Page.paint r images s es).subst (Canvas.strokes pageHeight)).actions

/-! ### Documents -/

namespace Canvas

private theorem run_acts_record {calls calls' : List (Call Float)}
    (h : List.Forall₂ (fun call call' => call.mapM .ok = .ok call') calls calls') (journal : Array (Call Float)) :
    (Script.acts calls).run (record .ok) journal = .ok (journal ++ calls'.toArray) := by
  induction h generalizing journal with
  | nil => simp [Script.acts, Script.all, Script.run]
  | @cons call call' _ _ hcall _ ih =>
    have hrecord : record .ok call journal = .ok (journal.push call') := by simp only [record, hcall]
    rw [Script.run_acts_cons, Script.run, Script.run, hrecord]
    simp [Outcome.ok, Outcome.after, ih]

/-- Calls that are all kept can be settled one by one. -/
private theorem exists_settled_of_run {calls : List (Call Float)} {journal : Array (Call Float)}
    (h : ((Script.acts calls).run (record .ok) journal).fault = none) (call : Call Float) (hmem : call ∈ calls) :
    ∃ call', call.mapM .ok = .ok call' := by
  induction calls generalizing journal with
  | nil => cases hmem
  | cons first calls ih =>
    rw [Script.run_acts_cons, Script.run, Script.run, record] at h
    cases hfirst : first.mapM .ok with
    | error fault => simp [hfirst, Outcome.stop] at h
    | ok first' =>
      rcases List.mem_cons.1 hmem with rfl | hmem
      · exact ⟨first', hfirst⟩
      · have hrest : ((Script.acts calls).run (record .ok) (journal.push first')).fault = none := by
          simpa [hfirst, Outcome.ok, Outcome.after] using h
        exact ih hrest hmem

private theorem exists_inked_of_mapM {anchor : Anchor} {x y : Float} {text : Value} {call : Call Float}
    (h : (Call.drawString anchor x y text : Call Float).mapM .ok = .ok call) :
    ∃ ink, call = .drawString anchor x y ink := by
  cases hink : text.inked with
  | error fault => simp [Call.mapM, hink, bind, Except.bind] at h
  | ok ink =>
    refine ⟨ink, ?_⟩
    simpa [Call.mapM, hink, bind, Except.bind, pure, Except.pure, eq_comm] using h

/-- A watermark that is painted to its end leaves the canvas as it was. -/
private theorem run_watermark {text : Value} {size : Size Float}
    (hfault : ((Script.when text.isTruthy (watermark size text)).run (record .ok) #[]).fault = none) :
    ∃ marks : List (Call Float),
      ((Script.when text.isTruthy (watermark size text)).run (record .ok) #[]).state = marks.toArray ∧
      (CanvasState.fresh.run marks).now.IsBare ∧ (CanvasState.fresh.run marks).saved = [] := by
  obtain ⟨pale, hpale⟩ : ∃ paint, (Paint.color (.ofInt 0xD3D3D3)).inked = .ok paint := by
    have hok : (Paint.color (.ofInt 0xD3D3D3)).inked.isOk = true := by decide +kernel
    cases h : (Paint.color (.ofInt 0xD3D3D3)).inked with
    | error fault => rw [h] at hok; cases hok
    | ok paint => exact ⟨paint, rfl⟩
  have hfill : (Call.setFillColor (.color (.ofInt 0xD3D3D3)) : Call Float).mapM .ok = .ok (.setFillColor pale) := by
    simp [Call.mapM, hpale, bind, Except.bind, pure, Except.pure]
  cases htruthy : text.isTruthy with
  | false => exact ⟨[], rfl, ⟨rfl, rfl, rfl⟩, rfl⟩
  | true =>
    rw [htruthy] at hfault
    obtain ⟨drawn, hdraw⟩ :=
      exists_settled_of_run hfault (.drawString .center Scalar.zero Scalar.zero text) (by simp)
    obtain ⟨ink, rfl⟩ := exists_inked_of_mapM hdraw
    let marks : List (Call Float) := [.saveState, .setFont "Helvetica-Bold" (Scalar.ofNat 40), .setFillColor pale,
      .setFillAlpha (Scalar.ratio 15 100), .translate (half size.width) (half size.height), .rotate (Scalar.ofNat 45),
      .drawString .center Scalar.zero Scalar.zero ink, .restoreState]
    have hrun : (watermark size text).run (record .ok) #[] = .ok (#[] ++ marks.toArray) :=
      run_acts_record (.cons rfl <| .cons rfl <| .cons hfill <| .cons rfl <| .cons rfl <| .cons rfl <|
        .cons hdraw <| .cons rfl .nil) #[]
    exact ⟨marks, congrArg Outcome.state hrun, ⟨rfl, rfl, rfl⟩, rfl⟩

end Canvas

section Render

variable {settings : Settings} {retrieval : Except Fault Retrieval} {template watermark : Value} {r : Record}

/-- A document that is returned holds the calls of the watermark, if there is one, and those for the drawings of the
elements.  Whatever was drawn before, each of these paints as its drawing asks: in its own colors, line style and font,
neither moved nor faded, and clipped to its box if it is a text in a box, otherwise not at all.  When the page is shown
no saved state is left on the stack, unless some text in a box has a color that cannot be made out. -/
theorem renderDocumentBy_isolates_graphics
    (hreturns : (renderDocumentBy settings retrieval template r watermark).fault = none) :
    ∃ (sheet : Sheet) (marks : List (Call Float)) (es : List (Element Float)) (s : Scaler Float)
      (haul : Fetcher.Haul),
      (renderDocumentBy settings retrieval template r watermark).state = some sheet ∧
      (prepareBy settings retrieval sheet.size.width template r).2 = .ok (es, s, haul) ∧
      let strokes := Page.strokes sheet.size.height r haul.images s es
      sheet.calls.toList = marks ++ strokes.map Prod.snd ++ [.showPage, .save] ∧
      (∀ before d call after, strokes = before ++ (d, call) :: after →
        d.Asks sheet.size.height (CanvasState.fresh.run (marks ++ before.map Prod.snd)).now call) ∧
      ((CanvasState.fresh.run (marks ++ strokes.map Prod.snd)).saved = [] ↔ ∀ x ∈ strokes, ¬x.1.Leaks) := by
  unfold renderDocumentBy at hreturns ⊢
  generalize (Template.canvasSize template).bind _ = size at hreturns ⊢
  cases size with
  | error fault => cases hreturns
  | ok size =>
    dsimp only at hreturns ⊢
    cases hmarked : ((Script.when (watermark.orDefault settings.watermarkText).isTruthy
      (Canvas.watermark size (watermark.orDefault settings.watermarkText))).run (Canvas.record .ok) #[]).fault with
    | some fault => simp [hmarked] at hreturns
    | none =>
      obtain ⟨marks, hmarks, hbare, hsaved⟩ := Canvas.run_watermark hmarked
      simp only [hmarked, hmarks] at hreturns ⊢
      cases hprepared : (prepareBy settings retrieval size.width template r).2 with
      | error fault =>
        rw [(renderBy_of_error (Canvas.surface size (Canvas.record .ok)) hprepared marks.toArray).1] at hreturns
        cases hreturns
      | ok prepared =>
        obtain ⟨es, s, haul⟩ := prepared
        obtain ⟨hstate, -⟩ := renderBy_paints (Canvas.surface size (Canvas.record .ok)) hprepared marks.toArray
        rw [Canvas.paint_record] at hstate
        -- all of the drawings are made from the state that the watermark leaves
        have hleads := (Page.bracketed_paint r haul.images s es).leads size.height (fun _ h => h) hbare
        refine ⟨_, marks, es, s, haul, rfl, hprepared, ?_, fun before d call after hl => ?_, ?_⟩
        · simp [hreturns, hstate, Page.strokes]
        · have hasks := CanvasState.serves_iff.1 hleads.serves before d call after hl
          rwa [CanvasState.through, ← CanvasState.run_append] at hasks
        · obtain ⟨left, hleft, -, hleaks⟩ := hleads.saved
          rw [CanvasState.through, ← CanvasState.run_append, hsaved, List.append_nil] at hleft
          rw [← hleft] at hleaks
          exact hleaks

end Render

/-- A table of which only the header band is shown, with headers in a color. -/
def bandTemplate (headerColor : String) : Value :=
  .mapping [("elements", .list [
    .mapping [("type", .text "table"), ("width", .int 100), ("height", .int 50),
      ("style", .mapping [("headerTextColor", .text headerColor)]),
      ("metadata", .mapping [("headers", .list [.text "Subject"]), ("rows", .int 0), ("cols", .int 1)])]])]

/-- A white header under a watermark: thirty calls, and nothing is left of their states. -/
theorem renderDocumentBy_isolates_graphics_band :
    let o := renderDocumentBy {} (.ok fun _ => ([], .failed "")) (bandTemplate "white") {} (.text "Draft")
    o.fault = none ∧ (o.state.map fun sheet => sheet.calls.size) = some 30 ∧
      ∃ (sheet : Sheet) (marks : List (Call Float)) (es : List (Element Float)) (s : Scaler Float)
        (haul : Fetcher.Haul),
        o.state = some sheet ∧
        (prepareBy {} (.ok fun _ => ([], .failed "")) sheet.size.width (bandTemplate "white") {}).2 =
          .ok (es, s, haul) ∧
        let strokes := Page.strokes sheet.size.height {} haul.images s es
        sheet.calls.toList = marks ++ strokes.map Prod.snd ++ [.showPage, .save] ∧
        (∀ before d call after, strokes = before ++ (d, call) :: after →
          d.Asks sheet.size.height (CanvasState.fresh.run (marks ++ before.map Prod.snd)).now call) ∧
        ((CanvasState.fresh.run (marks ++ strokes.map Prod.snd)).saved = [] ↔ ∀ x ∈ strokes, ¬x.1.Leaks) := by
  intro o
  have hreturns : o.fault = none := by decide +kernel
  exact ⟨hreturns, by decide +kernel, renderDocumentBy_isolates_graphics hreturns⟩

/-- A header whose color is taken for a list of numbers fails after its state has been saved.  The document is returned,
and when its page is shown there is still a state on the stack. -/
theorem renderDocumentBy_leaves_state :
    let o := renderDocumentBy {} (.ok fun _ => ([], .failed "")) (bandTemplate "255,0,0") {} .null
    let shown (sheet : Sheet) := CanvasState.fresh.run sheet.calls.toList.dropLast.dropLast
    o.fault = none ∧ (o.state.map fun sheet => (shown sheet).saved.length) = some 1 := by
  decide +kernel

end ReportCard
