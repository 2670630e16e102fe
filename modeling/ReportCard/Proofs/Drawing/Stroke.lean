import ReportCard.Proofs.Drawing.Bracket
import ReportCard.Proofs.Drawing.Graphics

/-!
# The calls for a drawing

On a canvas that keeps a journal, painting appends the calls of one drawing after the other (`Canvas.paint_record`).
Each drawing is responsible for its own: begun in a bare state, it paints as it asks, and ends in a bare state unless it
fails.  What it saves it restores, with one exception: a text in a box whose color cannot be made out fails between the
two (`Drawing.Leaks`).
-/

namespace ReportCard

/-- A call, and the drawing that it is made for. -/
abbrev Stroke := Drawing Float × Call Float

namespace Canvas

/-- A call for a drawing, as a canvas takes it. -/
def settled (d : Drawing Float) (call : Call Float) : Script Stroke := .tryIt (call.mapM .ok) fun call => .act (d, call)

/-- The calls for a drawing, as a canvas takes them. -/
def strokes (pageHeight : Float) (d : Drawing Float) : Script Stroke := (calls pageHeight d).subst (settled d)

private theorem run_settled (d : Drawing Float) :
    (fun call => (settled d call).run fun stroke journal => .ok (journal.push stroke.2)) = record .ok := by
  funext call journal
  unfold settled record
  cases call.mapM .ok <;> rfl

/-- Painting a script on a canvas with a journal appends the calls for its drawings. -/
theorem paint_record (size : Size Float) (p : Script (Drawing Float)) (journal : Array (Call Float)) :
    (surface size (record .ok)).paint p journal =
      let q := p.subst (strokes size.height)
      ⟨journal ++ (q.actions.map Prod.snd).toArray, q.log, q.fault?⟩ := by
  have hperform : (surface size (record .ok)).perform =
      fun d => (strokes size.height d).run fun stroke journal => .ok (journal.push stroke.2) := by
    funext d
    rw [strokes, Script.run_subst, run_settled]
    rfl
  rw [Surface.paint, hperform, ← Script.run_subst, Script.run_push]

end Canvas

namespace Drawing

/-- The drawing is a text in a box whose color cannot be made out. -/
def Leaks : Drawing Float → Prop
  | textCell _ _ l => ∀ paint, Color.ink l.color ≠ .ok paint
  | _ => False

variable {pageHeight : Float} {d : Drawing Float} {g : Graphics} {call : Call Float}

theorem Asks.of_not_paints (h : call.paints = false) : d.Asks pageHeight g call := by
  have hnot : call.paints ≠ true := by simp [h]
  refine ⟨?_, fun h => absurd h hnot, fun h => absurd h hnot, fun h => absurd h hnot⟩
  cases call <;> trivial

theorem Asks.of_isBare (h : d.Styles g call) (hg : g.IsBare) (hclip : d.clip pageHeight = []) :
    d.Asks pageHeight g call :=
  ⟨h, fun _ => hg.moves, fun _ => hg.alpha, fun _ => hg.clip.trans hclip.symm⟩

end Drawing

namespace CanvasState

/-- From a state on, each call paints as its drawing asks. -/
def Serves (pageHeight : Float) : CanvasState → List Stroke → Prop
  | _, [] => True
  | s, (d, call) :: rest => d.Asks pageHeight s.now call ∧ Serves pageHeight (s.after call) rest

/-- The state after strokes. -/
def through (s : CanvasState) (strokes : List Stroke) : CanvasState := s.run (strokes.map Prod.snd)

theorem through_append (s : CanvasState) (l l' : List Stroke) : s.through (l ++ l') = (s.through l).through l' := by
  rw [through, List.map_append, run_append, through, through]

theorem serves_append {pageHeight : Float} {s : CanvasState} {l l' : List Stroke} :
    s.Serves pageHeight (l ++ l') ↔ s.Serves pageHeight l ∧ (s.through l).Serves pageHeight l' := by
  induction l generalizing s with
  | nil => simp [Serves, through, run]
  | cons x l ih =>
    simp only [List.cons_append, Serves, ih, and_assoc]
    rfl

theorem serves_iff {pageHeight : Float} {s : CanvasState} {l : List Stroke} :
    s.Serves pageHeight l ↔
      ∀ before d call after, l = before ++ (d, call) :: after → d.Asks pageHeight (s.through before).now call := by
  refine ⟨fun h before d call after hl => ?_, fun h => ?_⟩
  · rw [hl, serves_append] at h
    exact h.2.1
  · induction l generalizing s with
    | nil => trivial
    | cons x l ih =>
      refine ⟨h [] x.1 x.2 l rfl, ih fun before d call after hl => ?_⟩
      exact h (x :: before) d call after (by rw [hl]; rfl)

/-- From a state on, the calls of strokes paint as their drawings ask.  They leave bare states on the stack, and at
least one if and only if one of their drawings leaks; where they go through, they end in a bare state. -/
structure Leads (pageHeight : Float) (s : CanvasState) (l : List Stroke) (done : Prop) : Prop where
  serves : s.Serves pageHeight l
  saved : ∃ left, (s.through l).saved = left ++ s.saved ∧ (∀ g ∈ left, g.IsBare) ∧ (left = [] ↔ ∀ x ∈ l, ¬x.1.Leaks)
  now : done → (s.through l).now.IsBare

namespace Leads

variable {pageHeight : Float} {s : CanvasState} {l l' : List Stroke} {P Q : Prop}

theorem imp (h : Leads pageHeight s l P) (hQ : Q → P) : Leads pageHeight s l Q :=
  ⟨h.serves, h.saved, fun q => h.now (hQ q)⟩

theorem nil (h : s.now.IsBare) : Leads pageHeight s [] P := ⟨trivial, ⟨[], rfl, by simp, by simp⟩, fun _ => h⟩

theorem append (h : Leads pageHeight s l P) (h' : Leads pageHeight (s.through l) l' Q) :
    Leads pageHeight s (l ++ l') Q := by
  obtain ⟨left, hsaved, hbare, hleaks⟩ := h.saved
  obtain ⟨left', hsaved', hbare', hleaks'⟩ := h'.saved
  refine ⟨serves_append.2 ⟨h.serves, h'.serves⟩, ⟨left' ++ left, ?_, ?_, ?_⟩, ?_⟩
  · rw [through_append, hsaved', hsaved, List.append_assoc]
  · exact fun g hg => (List.mem_append.1 hg).elim (hbare' g) (hbare g)
  · rw [List.append_eq_nil_iff, hleaks, hleaks', List.forall_mem_append, and_comm]
  · rw [through_append]
    exact h'.now

end Leads

end CanvasState

/-! ### Single drawings -/

/-- Whether a call sets a color, the line style or the font, or paints. -/
def Call.isSteady {α : Type} : Call α → Bool
  | setFillColor _ | setStrokeColor _ | setLineWidth _ | setDash _ | setFont .. => true
  | call => call.paints

namespace CanvasState

variable {pageHeight : Float} {s : CanvasState} {d : Drawing Float}

private theorem after_of_isSteady {call : Call Float} (h : call.isSteady = true) :
    (s.after call).saved = s.saved ∧ (s.now.IsBare → (s.after call).now.IsBare) := by
  cases call <;> first | exact ⟨rfl, fun h => ⟨h.moves, h.alpha, h.clip⟩⟩ | cases h

/-- Strokes that leave the stack alone have only to paint as their drawings ask. -/
private theorem Leads.of_isSteady {l : List Stroke} {P : Prop} (hs : s.now.IsBare) (hserves : s.Serves pageHeight l)
    (h : ∀ x ∈ l, x.2.isSteady = true ∧ ¬x.1.Leaks) : Leads pageHeight s l P := by
  have hkept : (s.through l).saved = s.saved ∧ (s.through l).now.IsBare := by
    clear hserves
    induction l generalizing s with
    | nil => exact ⟨rfl, hs⟩
    | cons x l ih =>
      obtain ⟨hsaved, hbare⟩ := after_of_isSteady (s := s) (h x (by simp)).1
      obtain ⟨hsaved', hbare'⟩ := ih (hbare hs) fun y hy => h y (by simp [hy])
      exact ⟨hsaved'.trans hsaved, hbare'⟩
  exact ⟨hserves, ⟨[], hkept.1, by simp, by simpa using fun x y hxy => (h (x, y) hxy).2⟩, fun _ => hkept.2⟩

end CanvasState

namespace Canvas

open CanvasState (Leads)

variable {pageHeight : Float} {d : Drawing Float}

private theorem transcript_notes {A : Type} (notes : List Note) (p : Script A) :
    (Script.all (notes.map .note ++ [p])).fault? = p.fault? ∧
      (Script.all (notes.map .note ++ [p])).actions = p.actions := by
  induction notes with
  | nil => exact ⟨rfl, rfl⟩
  | cons n notes ih =>
    simp only [List.map_cons, List.cons_append, Script.all_cons]
    simpa [Script.fault?, Script.actions] using ih

/-- The call sets a paint, once that is made out, and does nothing else. -/
private structure SetsPaint (call : Paint → Call Float) : Prop where
  mapM : ∀ paint, (call paint).mapM .ok = paint.inked.map call
  isSteady : ∀ paint, (call paint).isSteady = true
  not_paints : ∀ paint, (call paint).paints = false

private theorem setsPaint_fill : SetsPaint .setFillColor := by
  refine ⟨fun paint => ?_, fun _ => rfl, fun _ => rfl⟩
  simp only [Call.mapM]
  cases paint.inked <;> rfl

private theorem setsPaint_stroke : SetsPaint .setStrokeColor := by
  refine ⟨fun paint => ?_, fun _ => rfl, fun _ => rfl⟩
  simp only [Call.mapM]
  cases paint.inked <;> rfl

/-- A call that sets a paint is made, unless no paint can be made out, which is a fault. -/
private theorem transcript_withColor (d : Drawing Float) (v : Value) {call : Paint → Call Float}
    (hset : SetsPaint call) :
    let p := (withColor v call).subst (settled d)
    (∃ paint, Color.ink v = .ok paint ∧ p.fault? = none ∧ p.actions = [(d, call paint)]) ∨
      (∀ paint, Color.ink v ≠ .ok paint) ∧ p.fault?.isSome ∧ p.actions = [] := by
  intro p
  cases hresolve : Color.resolve v (.color .black) with
  | error fault =>
    have hp : p = .fail fault := by simp [p, withColor, hresolve, Script.tryIt, Script.subst]
    rw [hp]
    exact .inr ⟨by simp [Color.ink, hresolve, bind, Except.bind], rfl, rfl⟩
  | ok answer =>
    obtain ⟨notes, written⟩ := answer
    have hp : p = .all (notes.map .note ++ [settled d (call written)]) := by
      simp [p, withColor, hresolve, Script.tryIt, Script.subst_all, Script.subst, Function.comp_def]
    have hink : Color.ink v = written.inked := by simp [Color.ink, hresolve, bind, Except.bind]
    obtain ⟨hfault, hactions⟩ := transcript_notes notes (settled d (call written))
    rw [hp, hfault, hactions, hink, settled, hset.mapM]
    cases written.inked with
    | error fault => exact .inr ⟨by simp, rfl, rfl⟩
    | ok paint => exact .inl ⟨paint, rfl, rfl, rfl⟩

private theorem settled_setDash (d : Drawing Float) (pattern : List Float) :
    settled d (.setDash pattern) = .act (d, .setDash pattern) := by
  have h : pattern.mapM (m := Except Fault) .ok = .ok pattern := by
    simpa [pure, Except.pure] using List.mapM_pure (m := Except Fault) (l := pattern) (f := id)
  simp [settled, Call.mapM, h, bind, Except.bind, pure, Except.pure, Script.tryIt]

/-- Strokes behind a call that sets a paint. -/
private theorem leads_withColor {v : Value} {call : Paint → Call Float} {q : Script Stroke} {l : List Stroke} {P : Prop}
    {s : CanvasState} (hset : SetsPaint call) (hleaks : ¬d.Leaks)
    (hq : q.actions = l) (hl : ∀ x ∈ l, x.2.isSteady = true ∧ x.1 = d)
    (hserves : ∀ paint, Color.ink v = .ok paint → (s.after (call paint)).Serves pageHeight l) (hs : s.now.IsBare) :
    Leads pageHeight s (Script.seq ((withColor v call).subst (settled d)) q).actions P := by
  rcases transcript_withColor d v hset with ⟨paint, hink, hfault, hactions⟩ | ⟨-, hfault, hactions⟩
  · rw [Script.actions, hactions, hfault, hq]
    refine .of_isSteady hs ⟨.of_not_paints (hset.not_paints paint), hserves paint hink⟩ fun x hx => ?_
    rcases List.mem_cons.1 hx with rfl | hx
    · exact ⟨hset.isSteady paint, hleaks⟩
    · obtain ⟨hsteady, rfl⟩ := hl x hx
      exact ⟨hsteady, hleaks⟩
  · rw [Script.actions, hactions, hfault]
    exact .nil hs

section Single

variable {s : CanvasState} {P : Prop}

private theorem leads_fillRect (b : Box Float) (color : Value) (hs : s.now.IsBare) :
    Leads pageHeight s (strokes pageHeight (.fillRect b color)).actions P := by
  refine leads_withColor (l := [(_, .rect (flip pageHeight b) false true)]) setsPaint_fill id rfl
    (by simp [Call.isSteady, Call.paints]) (fun paint hink => ?_) hs
  exact ⟨.of_isBare hink ⟨hs.moves, hs.alpha, hs.clip⟩ rfl, trivial⟩

/-- An outline: a color and a line style, and the call that paints with both. -/
private theorem leads_outline {color : Value} {lineWidth : Float} {pattern : List Float} {call : Call Float}
    (hleaks : ¬d.Leaks) (hclip : d.clip pageHeight = []) (hpaints : call.paints = true)
    (hsettled : settled d call = .act (d, call))
    (hstyles : ∀ g, Color.ink color = .ok g.stroke → g.lineWidth = lineWidth → g.dash = pattern → d.Styles g call)
    (hs : s.now.IsBare) :
    Leads pageHeight s (Script.subst (settled d) <| .seq (withColor color .setStrokeColor) <|
      .all [.act (.setLineWidth lineWidth), .act (.setDash pattern), .act call]).actions P := by
  simp only [Script.subst, Script.subst_all, List.map_cons, List.map_nil, settled_setDash, hsettled]
  have hsteady : call.isSteady = true := by cases call <;> first | rfl | cases hpaints
  refine leads_withColor (l := [(d, .setLineWidth lineWidth), (d, .setDash pattern), (d, call)]) setsPaint_stroke hleaks
    rfl ?_ (fun paint hink => ?_) hs
  · rw [List.forall_mem_cons, List.forall_mem_cons, List.forall_mem_singleton]
    exact ⟨⟨rfl, rfl⟩, ⟨rfl, rfl⟩, hsteady, rfl⟩
  · refine ⟨.of_not_paints rfl, .of_not_paints rfl, ?_, trivial⟩
    exact .of_isBare (hstyles _ hink rfl rfl) ⟨hs.moves, hs.alpha, hs.clip⟩ hclip

/-- In a box without extent nothing is drawn. -/
private theorem subst_withExtent (f : Call Float → Script Stroke) (b : Box Float) (p : Script (Call Float)) :
    (withExtent b p).subst f = .when (!Scalar.isNonpos b.width && !Scalar.isNonpos b.height) (p.subst f) := by
  simp only [withExtent, Scalar.checked, Script.tryIt, Script.subst_when]
  cases Scalar.isNonpos b.width <;> cases Scalar.isNonpos b.height <;> rfl

private theorem leads_image (data : ImageData) (b : Box Float) (hs : s.now.IsBare) :
    Leads pageHeight s (strokes pageHeight (.image data b)).actions P := by
  simp only [strokes, calls, image, subst_withExtent]
  cases !Scalar.isNonpos b.width && !Scalar.isNonpos b.height with
  | false => exact .nil hs
  | true =>
    cases data with
    | other content => exact .nil hs
    | picture w h =>
      simp only [Script.when, if_true]
      split
      · exact .nil hs
      · refine .of_isSteady (l := [(_, .drawImage w h _)]) hs ⟨.of_isBare trivial hs rfl, trivial⟩ ?_
        simp [Call.isSteady, Call.paints, Drawing.Leaks]

private theorem settled_drawString (d : Drawing Float) (anchor : Anchor) (x y : Float) (text : String) :
    settled d (.drawString anchor x y (.text text)) = .act (d, .drawString anchor x y (.text text)) := by
  simp [settled, Call.mapM, Value.inked, bind, Except.bind, pure, Except.pure, Script.tryIt]

private theorem mem_actions_textLines {step : Float} {anchor : Anchor} {x baseline : Float} {lines : List String}
    {y : Stroke}
    (hy : y ∈ ((Script.all (textLines pageHeight step anchor x baseline lines ++ [.done])).subst
      (settled d)).actions) :
    ∃ anchor a b text, y = (d, .drawString anchor a b text) := by
  have hstraight : ((Script.all (textLines pageHeight step anchor x baseline lines ++ [.done])).subst
      (settled d)).Straight fun y => ∃ anchor a b text, y = (d, .drawString anchor a b text) := by
    rw [Script.subst_all]
    refine .all fun p hp => ?_
    obtain ⟨q, hq, rfl⟩ := List.mem_map.1 hp
    rcases List.mem_append.1 hq with hq | hq
    · obtain ⟨b, text, rfl⟩ := mem_textLines hq
      rw [Script.subst, settled_drawString]
      exact .act ⟨_, _, _, _, rfl⟩
    · rw [List.mem_singleton.1 hq]
      exact .done
  exact hstraight.every.of_mem_actions hy

private theorem serves_texts {l : List Stroke} (hl : ∀ y ∈ l, ∃ anchor a b text, y = (d, .drawString anchor a b text))
    (h : ∀ anchor a b text, d.Asks pageHeight s.now (.drawString anchor a b text)) : s.Serves pageHeight l := by
  induction l with
  | nil => trivial
  | cons y l ih =>
    obtain ⟨anchor, a, b, text, rfl⟩ := hl y (by simp)
    exact ⟨h anchor a b text, ih fun z hz => hl z (by simp [hz])⟩

private theorem leads_textBox (text : String) (x y width : Float) {l : Lettering Float} (align : Value) {face : Face}
    (hface : l.fontName = .text face.name) (hs : s.now.IsBare) :
    Leads pageHeight s (strokes pageHeight (.textBox (.text text) x y width l align)).actions P := by
  obtain ⟨lines, ascent, hlayout⟩ := exists_textLayout text width hface
  simp only [strokes, calls, textBox, hlayout, Script.tryIt, Script.subst, Scalar.checked]
  refine leads_withColor setsPaint_fill id rfl (fun z hz => ?_) (fun paint hink => ?_) hs
  · rcases List.mem_cons.1 hz with rfl | hz
    · exact ⟨rfl, rfl⟩
    · obtain ⟨_, _, _, _, rfl⟩ := mem_actions_textLines hz
      exact ⟨rfl, rfl⟩
  · refine ⟨.of_not_paints rfl, serves_texts (fun z hz => mem_actions_textLines hz) fun _ _ _ _ => ?_⟩
    exact .of_isBare ⟨hink, hface, rfl⟩ ⟨hs.moves, hs.alpha, hs.clip⟩ rfl

/-- The strokes for a text in a box with an extent; the color is made out only after the state has been saved. -/
private theorem transcript_textCell (pageHeight : Float) (text : String) {b : Box Float} {l : Lettering Float}
    {face : Face} (hface : l.fontName = .text face.name)
    (hb : (!Scalar.isNonpos b.width && !Scalar.isNonpos b.height) = true) :
    let d := Drawing.textCell (.text text) b l
    let opening : List Stroke :=
      [(d, .saveState), (d, .beginPath), (d, .pathRect (flip pageHeight b)), (d, .clipPath)]
    (∃ paint x y line, Color.ink l.color = .ok paint ∧ (strokes pageHeight d).actions = opening ++
        [(d, .setFillColor paint), (d, .setFont face.name l.fontSize), (d, .drawString .center x y line),
          (d, .restoreState)]) ∨
      (∀ paint, Color.ink l.color ≠ .ok paint) ∧ (strokes pageHeight d).fault?.isSome ∧
        (strokes pageHeight d).actions = opening := by
  intro d opening
  have hstrokes : ∃ x y line, strokes pageHeight d = .all [.act (d, .saveState), .act (d, .beginPath),
      .act (d, .pathRect (flip pageHeight b)), .act (d, .clipPath),
      (withColor l.color .setFillColor).subst (settled d), .act (d, .setFont face.name l.fontSize),
      .act (d, .drawString .center x y line), .act (d, .restoreState)] := by
    simp only [d, strokes, calls, textCell, subst_withExtent, hb, Script.when, if_true, cellLayout, faceOf_name hface,
      Scalar.checked, bind, Except.bind, pure, Except.pure, Script.tryIt, textOf, Value.text?, Option.map_some,
      Option.getD_some, Script.subst_all, List.map_cons, List.map_nil, Script.subst, settled_drawString]
    exact ⟨_, _, _, rfl⟩
  obtain ⟨x, y, line, hstrokes⟩ := hstrokes
  rw [hstrokes]
  rcases transcript_withColor d l.color setsPaint_fill with
    ⟨paint, hink, hfault, hactions⟩ | ⟨hink, hfault, hactions⟩
  · refine .inl ⟨paint, x, y, line, hink, ?_⟩
    simp [opening, Script.all, Script.actions, Script.fault?, hfault, hactions]
  · refine .inr ⟨hink, ?_, ?_⟩
    · simp [Script.all, Script.fault?, hfault]
    · simp [opening, Script.all, Script.actions, Script.fault?, hfault, hactions]

private theorem leads_textCell (text : String) (b : Box Float) {l : Lettering Float} {face : Face}
    (hface : l.fontName = .text face.name) (hs : s.now.IsBare) :
    let d := Drawing.textCell (.text text) b l
    Leads pageHeight s (strokes pageHeight d).actions ((strokes pageHeight d).fault? = none) := by
  intro d
  cases hb : !Scalar.isNonpos b.width && !Scalar.isNonpos b.height with
  | false =>
    simp only [d, strokes, calls, textCell, subst_withExtent, hb]
    exact .nil hs
  | true =>
    rcases transcript_textCell pageHeight text hface hb with
      ⟨paint, x, y, line, hink, hactions⟩ | ⟨hink, hfault, hactions⟩
    · -- the string is painted in the clip of the box, and what was saved is restored behind it
      rw [hactions]
      refine ⟨?_, ⟨[], rfl, by simp, by simp [Drawing.Leaks, hink]⟩, fun _ => hs⟩
      refine ⟨.of_not_paints rfl, .of_not_paints rfl, .of_not_paints rfl, .of_not_paints rfl,
        .of_not_paints rfl, .of_not_paints rfl, ?_, .of_not_paints rfl, trivial⟩
      refine ⟨⟨hink, hface, rfl⟩, fun _ => hs.moves, fun _ => hs.alpha, fun _ => ?_⟩
      exact congrArg ([flip pageHeight b] :: ·) hs.clip
    · -- the box is clipped when the color fails, and the state from before stays on the stack
      rw [hactions]
      refine ⟨?_, ⟨[s.now], rfl, by simpa using hs, ?_⟩, fun h => ?_⟩
      · exact ⟨.of_not_paints rfl, .of_not_paints rfl, .of_not_paints rfl, .of_not_paints rfl, trivial⟩
      · simp [Drawing.Leaks, hink]
      · simp [d, h] at hfault

end Single

/-- What a drawing comes to from a bare state on. -/
theorem leads_strokes (hpaints : d.paints = true) (hlettered : d.IsLettered) {s : CanvasState} (hs : s.now.IsBare) :
    Leads pageHeight s (strokes pageHeight d).actions ((strokes pageHeight d).fault? = none) := by
  cases d with
  | saveState => cases hpaints
  | restoreState => cases hpaints
  | fillRect b color => exact leads_fillRect b color hs
  | strokeRect b color lineWidth dash =>
    exact leads_outline id rfl rfl rfl (fun _ hink hwidth hdash => ⟨hink, hwidth, hdash⟩) hs
  | line x1 y1 x2 y2 color lineWidth =>
    exact leads_outline id rfl rfl rfl (fun _ hink hwidth hdash => ⟨hink, hwidth, hdash⟩) hs
  | textBox text x y width l align =>
    obtain ⟨⟨text, rfl⟩, face, hface⟩ := hlettered
    exact leads_textBox text x y width align hface hs
  | textCell text b l =>
    obtain ⟨⟨text, rfl⟩, face, hface⟩ := hlettered
    exact leads_textCell text b hface hs
  | image data b => exact leads_image data b hs

end Canvas

end ReportCard
