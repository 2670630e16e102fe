import ReportCard.Proofs.Drawing.Drawable
import ReportCard.Proofs.Drawing.Replay
import ReportCard.Proofs.Page.Isolation

/-!
# Saved states that are left behind

A canvas may fail at any call but those that save and restore its state.  A drawing that fails there leaves no more
saved states behind than it found, unless it is a text in a box: that saves the state before it clips, and a failure
behind that point passes its restoring by.  So a page has as many saved states after an element as before it, and one
more for each text in a box that failed there (`Canvas.saves_eq_restores_iff`).
-/

namespace ReportCard

variable {α σ : Type}

namespace Call

/-- Whether the call saves the state. -/
def isSave : Call α → Bool
  | saveState => true
  | _ => false

/-- Whether the call restores the state. -/
def isRestore : Call α → Bool
  | restoreState => true
  | _ => false

/-- How many saved states the call adds to those that there are. -/
def depthChange : Call α → Int
  | saveState => 1
  | restoreState => -1
  | _ => 0

end Call

namespace Canvas

/-- How often calls save the state. -/
def saves (calls : List (Call α)) : Nat := calls.countP Call.isSave

/-- How often calls restore the state. -/
def restores (calls : List (Call α)) : Nat := calls.countP Call.isRestore

/-- The journal goes on by calls that save the state more often than they restore it, by the given number. -/
def Leaves (left : Int) (s t : σ × List (Call α)) : Prop :=
  ∃ calls, t.2 = s.2 ++ calls ∧ (saves calls : Int) = restores calls + left

namespace Leaves

variable {m n k : Int} {s t u : σ × List (Call α)}

theorem refl (s : σ × List (Call α)) : Leaves 0 s s := ⟨[], by simp, rfl⟩

theorem trans (h : Leaves m s t) (h' : Leaves n t u) (hk : m + n = k) : Leaves k s u := by
  obtain ⟨calls, ht, hcalls⟩ := h
  obtain ⟨calls', hu, hcalls'⟩ := h'
  refine ⟨calls ++ calls', by rw [hu, ht, List.append_assoc], ?_⟩
  simp only [saves, restores, List.countP_append] at hcalls hcalls' ⊢
  omega

/-- Each call leaves as much behind as it changes the depth of saved states. -/
theorem call (perform : Call α → σ → Outcome σ) (call : Call α) (s : σ × List (Call α)) :
    Leaves call.depthChange s (journaled perform call s).state := by
  refine ⟨[call], rfl, ?_⟩
  cases call <;> rfl

end Leaves

/-! ### Single drawings -/

section Drawing

variable {perform : Call α → σ → Outcome σ}

/-- A script that neither saves the state nor restores it leaves nothing behind. -/
private theorem leaves_of_straight {p : Script (Call α)} (hp : p.Straight (·.depthChange = 0))
    (s : σ × List (Call α)) : Leaves 0 s (p.run (journaled perform) s).state := by
  refine hp.every.run_rel Leaves.refl (fun _ _ _ h h' => h.trans h' rfl) (fun call s hcall => ?_) s
  have hleaves := Leaves.call perform call s
  rwa [hcall] at hleaves

/-- A script between saving the state and restoring it leaves a state behind if it fails. -/
private theorem leaves_saved (hsave : ∀ s, (perform .saveState s).fault = none)
    (hrestore : ∀ s, (perform .restoreState s).fault = none) {ps : List (Script (Call α))}
    (hps : (Script.all ps).Straight (·.depthChange = 0)) (s : σ × List (Call α)) :
    let o := (Script.all (.act .saveState :: (ps ++ [.act .restoreState]))).run (journaled perform) s
    Leaves o.fault.isSome.toInt s o.state := by
  intro o
  have hrun : o = (Script.seq (.act .saveState) (.seq (.all ps) (.act .restoreState))).run (journaled perform) s := by
    simp only [o, Script.run_all_cons, Script.run, Script.run_all_append, Script.all]
  have hsaved : (journaled perform .saveState s).fault = none := hsave s.1
  have hfirst : Leaves 1 s (journaled perform .saveState s).state := Leaves.call perform .saveState s
  have hbody : Leaves 0 (journaled perform .saveState s).state
      ((Script.all ps).run (journaled perform) (journaled perform .saveState s).state).state := leaves_of_straight hps _
  rw [hrun]
  simp only [Script.run, hsaved, Outcome.after]
  generalize (Script.all ps).run (journaled perform) (journaled perform .saveState s).state = body at hbody ⊢
  -- the state is restored only if the body has gone through
  cases hfault : body.fault with
  | some fault =>
    rw [hfault]
    exact hfirst.trans hbody rfl
  | none =>
    have hrestored : (journaled perform .restoreState body.state).fault = none := hrestore body.state.1
    have hlast : Leaves (-1) body.state (journaled perform .restoreState body.state).state :=
      Leaves.call perform .restoreState body.state
    rw [hrestored]
    exact (hfirst.trans hbody rfl).trans hlast rfl

private theorem straight_withColor {P : Call α → Prop} (v : Value) {call : Paint → Call α}
    (h : ∀ paint, P (call paint)) : (withColor v call).Straight P := by
  refine .tryIt fun (notes, paint) => .all fun p hp => ?_
  rcases List.mem_append.1 hp with hp | hp
  · obtain ⟨n, -, rfl⟩ := List.mem_map.1 hp
    exact .note n
  · rw [List.mem_singleton.1 hp]
    exact .act (h paint)

variable [Scalar α]

private theorem straight_withExtent {P : Call α → Prop} (b : Box α) {p : Script (Call α)} (h : p.Straight P) :
    (withExtent b p).Straight P :=
  .tryIt fun _ => .when (.tryIt fun _ => .when h)

private theorem straight_textBox (pageHeight : α) (text : Value) (x y width : α) (l : Lettering α) (align : Value) :
    (textBox pageHeight text x y width l align).Straight (·.depthChange = 0) := by
  refine .tryIt fun (face, lines, ascent) => .seq (straight_withColor _ fun _ => rfl) <|
    .seq (.act rfl) <| .tryIt fun baseline => .all fun p hp => ?_
  rcases List.mem_append.1 hp with hp | hp
  · obtain ⟨y, text, rfl⟩ := mem_textLines hp
    exact .act rfl
  · rw [List.mem_singleton.1 hp]
    exact .tryIt fun _ => .done

private theorem straight_image (pageHeight : α) (data : ImageData) (b : Box α) :
    (image pageHeight data b).Straight (·.depthChange = 0) := by
  refine straight_withExtent b ?_
  cases data with
  | other content => exact .fail _
  | picture w h =>
    dsimp only
    split
    · exact .fail _
    · exact .act rfl

/-- Of the drawings that paint something, only texts in boxes save the state. -/
private theorem straight_calls (pageHeight : α) {d : Drawing α} (hd : d.paints = true)
    (htext : ∀ text b l, d ≠ .textCell text b l) : (calls pageHeight d).Straight (·.depthChange = 0) := by
  cases d with
  | saveState => cases hd
  | restoreState => cases hd
  | fillRect b color => exact .seq (straight_withColor _ fun _ => rfl) (.act rfl)
  | strokeRect b color lineWidth dash =>
    exact .seq (straight_withColor _ fun _ => rfl) (.seq (.act rfl) (.seq (.act rfl) (.act rfl)))
  | line x1 y1 x2 y2 color lineWidth =>
    exact .seq (straight_withColor _ fun _ => rfl) (.seq (.act rfl) (.seq (.act rfl) (.act rfl)))
  | textBox text x y width l align => exact straight_textBox ..
  | textCell text b l => exact absurd rfl (htext text b l)
  | image data b => exact straight_image ..

/-- What a text in a box does between saving the state and restoring it, in a face and on a baseline. -/
private def cellBody (pageHeight : α) (text : Value) (b : Box α) (l : Lettering α) (face : Face) (baseline : α) :
    List (Script (Call α)) :=
  [.act .beginPath, .act (.pathRect (flip pageHeight b)), .act .clipPath, withColor l.color .setFillColor,
    .act (.setFont face.name l.fontSize),
    .tryIt (textOf text) fun text => .act <|
      .drawString .center (b.x + half b.width) (pageHeight - baseline) (.text (Text.joinWith " " (Text.lines text)))]

private theorem straight_cellBody (pageHeight : α) (text : Value) (b : Box α) (l : Lettering α) (face : Face)
    (baseline : α) : (Script.all (cellBody pageHeight text b l face baseline)).Straight (·.depthChange = 0) :=
  .seq (.act rfl) <| .seq (.act rfl) <| .seq (.act rfl) <| .seq (straight_withColor _ fun _ => rfl) <|
    .seq (.act rfl) <| .tryIt fun _ => .act rfl

end Drawing

end Canvas

/-- Whether a length can be read and is above zero. -/
def Scalar.isExtent [Scalar α] (x : α) : Bool := (checked x).toOption.any fun x => !isNonpos x

namespace Drawing

variable [Scalar α]

/-- Whether a drawing saves the state: a text in a box that has an extent, in a face that there is. -/
def savesState : Drawing α → Bool
  | textCell _ b l => Scalar.isExtent b.width && (Scalar.isExtent b.height && (Canvas.cellLayout b l).isOk)
  | _ => false

/-- Whether a drawing that stopped at a fault, or did not, leaves a saved state behind. -/
def strands (d : Drawing α) (fault : Option Fault) : Bool := d.savesState && fault.isSome

end Drawing

namespace Canvas

variable [Scalar α] {perform : Call α → σ → Outcome σ}

/-- A script for a length leaves something behind if the script does and there is such a length. -/
private theorem leaves_tryIt_checked {x : α} {p : Script (Call α)} {s : σ × List (Call α)} {saves : Bool}
    (h : Leaves (saves && (p.run (journaled perform) s).fault.isSome).toInt s (p.run (journaled perform) s).state) :
    let o := (Script.tryIt (Scalar.checked x) fun x => .when (!Scalar.isNonpos x) p).run (journaled perform) s
    Leaves ((Scalar.isExtent x && saves) && o.fault.isSome).toInt s o.state := by
  unfold Scalar.isExtent
  cases Scalar.checked x with
  | error fault => exact Leaves.refl s
  | ok x =>
    simp only [Script.tryIt, Except.toOption, Option.any_some]
    cases Scalar.isNonpos x with
    | true => exact Leaves.refl s
    | false => exact h

/-- A drawing leaves nothing behind, or, if it saves the state and fails, that state. -/
theorem perform_leaves (hsave : ∀ s, (perform .saveState s).fault = none)
    (hrestore : ∀ s, (perform .restoreState s).fault = none) (size : Size α) {d : Drawing α} (hd : d.paints = true)
    (s : σ × List (Call α)) :
    let o := (surface size (journaled perform)).perform d s
    Leaves (d.strands o.fault).toInt s o.state := by
  by_cases htext : ∃ text b l, d = .textCell text b l
  · obtain ⟨text, b, l, rfl⟩ := htext
    refine leaves_tryIt_checked (leaves_tryIt_checked ?_)
    cases cellLayout b l with
    | error fault => exact Leaves.refl s
    | ok layout => exact leaves_saved hsave hrestore (straight_cellBody size.height text b l layout.1 layout.2) s
  · have hstraight : (calls size.height d).Straight (·.depthChange = 0) :=
      straight_calls size.height hd fun text b l h => htext ⟨text, b, l, h⟩
    have hnot : d.savesState = false := by
      cases d <;> first | rfl | exact absurd ⟨_, _, _, rfl⟩ htext
    intro o
    rw [Drawing.strands, hnot]
    exact leaves_of_straight hstraight s

end Canvas

/-! ### Elements of a page -/

/-- The surface with a log of all that it is asked to do, and of the fault that each of it came to, if any. -/
def Surface.logged (surface : Surface α σ) : Surface α (σ × List (Drawing α × Option Fault)) where
  size := surface.size
  perform d s :=
    let o := surface.perform d s.1
    ⟨(o.state, s.2 ++ [(d, o.fault)]), o.notes, o.fault⟩

namespace Canvas

section Logged

variable [Scalar α]

/-- How many drawings of a log leave a saved state behind. -/
def stranded (log : List (Drawing α × Option Fault)) : Nat := log.countP fun (d, fault) => d.strands fault

private theorem stranded_singleton (d : Drawing α) (fault : Option Fault) :
    (stranded [(d, fault)] : Int) = (d.strands fault).toInt := by
  unfold stranded
  cases h : d.strands fault <;> simp [h]

/-- The drawings of a log leave behind what they strand, and so many states more. -/
private def Strands (left : Int) (s t : (σ × List (Call α)) × List (Drawing α × Option Fault)) : Prop :=
  ∃ log, t.2 = s.2 ++ log ∧ Leaves (stranded log + left) s.1 t.1

namespace Strands

variable {m n k : Int} {s t u : (σ × List (Call α)) × List (Drawing α × Option Fault)}

private theorem refl (s : (σ × List (Call α)) × List (Drawing α × Option Fault)) : Strands 0 s s :=
  ⟨[], by simp, Leaves.refl s.1⟩

private theorem trans (h : Strands m s t) (h' : Strands n t u) (hk : m + n = k) : Strands k s u := by
  obtain ⟨log, ht, hleaves⟩ := h
  obtain ⟨log', hu, hleaves'⟩ := h'
  refine ⟨log ++ log', by rw [hu, ht, List.append_assoc], hleaves.trans hleaves' ?_⟩
  simp only [stranded, List.countP_append]
  omega

end Strands

variable {perform : Call α → σ → Outcome σ} (hsave : ∀ s, (perform .saveState s).fault = none)
  (hrestore : ∀ s, (perform .restoreState s).fault = none)
include hsave hrestore

private theorem strands_body {body : Script (Drawing α)} (hbody : body.Every (·.paints = true)) (size : Size α)
    (s : (σ × List (Call α)) × List (Drawing α × Option Fault)) :
    Strands 0 s (body.run (surface size (journaled perform)).logged.perform s).state := by
  refine hbody.run_rel Strands.refl (fun _ _ _ h h' => h.trans h' rfl) (fun d s hd => ?_) s
  refine ⟨[(d, ((surface size (journaled perform)).perform d s.1).fault)], rfl, ?_⟩
  rw [stranded_singleton, Int.add_zero]
  exact perform_leaves hsave hrestore size hd s.1

/-- Between brackets the state is saved and restored, whatever fails there. -/
private theorem strands_isolated {body : Script (Drawing α)} (hbody : body.Every (·.paints = true)) (size : Size α)
    (s : (σ × List (Call α)) × List (Drawing α × Option Fault)) :
    Strands 0 s ((Drawing.isolated body).run (surface size (journaled perform)).logged.perform s).state := by
  have hsaved : ((surface size (journaled perform)).logged.perform .saveState s).fault = none := hsave s.1.1
  have hfirst : Strands 1 s ((surface size (journaled perform)).logged.perform .saveState s).state :=
    ⟨[(.saveState, _)], rfl, Leaves.call perform .saveState s.1⟩
  have hlast (t : (σ × List (Call α)) × List (Drawing α × Option Fault)) :
      Strands (-1) t ((surface size (journaled perform)).logged.perform .restoreState t).state :=
    ⟨[(.restoreState, _)], rfl, Leaves.call perform .restoreState t.1⟩
  rw [Drawing.state_run_isolated hsaved]
  exact (hfirst.trans (strands_body hsave hrestore hbody size _) rfl).trans (hlast _) rfl

/-- Where saving and restoring the state never fail, whatever else does, a drawing saves the state as often as it
restores it unless it is one that saves the state and then fails: that leaves one state behind.  So does each such
drawing of an element whose faults the page catches, and nothing else that the element does. -/
theorem saves_eq_restores_iff (size : Size α) (s : σ) :
    let page := surface size (journaled perform)
    (∀ d : Drawing α, d.paints = true →
      let o := page.perform d (s, [])
      (saves o.state.2 = restores o.state.2 ↔ (d.savesState = true → o.fault = none)) ∧
        (d.savesState = true → o.fault ≠ none → saves o.state.2 = restores o.state.2 + 1)) ∧
      ∀ (r : Record) (images : Images) (scaler : Scaler α) (index : Nat) (e : Element α),
        let o := page.logged.paint (Page.paintElement r images scaler index e) ((s, []), [])
        o.fault = none ∧ saves o.state.1.2 = restores o.state.1.2 + stranded o.state.2 := by
  intro page
  refine ⟨fun d hd => ?_, fun r images scaler index e => ?_⟩
  · intro o
    obtain ⟨calls, hcalls, hleaves⟩ : Leaves (d.strands o.fault).toInt (s, []) o.state :=
      perform_leaves hsave hrestore size hd (s, [])
    obtain rfl : o.state.2 = calls := hcalls
    cases hsaves : d.savesState <;> cases hfault : o.fault <;>
      simp [Drawing.strands, hsaves, hfault] at hleaves ⊢ <;> omega
  · intro o
    obtain ⟨log, hlog, calls, hcalls, hleaves⟩ : Strands 0 ((s, []), []) o.state :=
      (Page.bracketed_paintElement r images scaler index e).run_rel Strands.refl
        (fun _ _ _ h h' => h.trans h' rfl)
        (fun body t hbody => strands_isolated hsave hrestore (hbody.every.imp fun _ h => h.1) size t) _
    obtain rfl : o.state.2 = log := hlog
    obtain rfl : o.state.1.2 = calls := hcalls
    exact ⟨Page.fault_paintElement .., by omega⟩

end Logged

/-- A canvas that cannot draw texts, and does nothing else wrong. -/
def speechless (call : Call Rat) (s : Unit) : Outcome Unit :=
  match call with
  | .drawString .. => .stop s .unsupported
  | _ => .ok s

theorem saves_eq_restores_iff_speechless :
    (∀ s, (speechless .saveState s).fault = none) ∧ (∀ s, (speechless .restoreState s).fault = none) ∧
      let page := surface ⟨600, 800⟩ (journaled speechless)
      let cell := page.perform (.textCell (.text "Subject") ⟨10, 20, 100, 40⟩ { fontSize := 9 }) ((), [])
      let lines := page.perform (.textBox (.text "Subject") 10 20 100 { fontSize := 9 } (.text "left")) ((), [])
      (cell.fault = some .unsupported ∧ saves cell.state.2 = 1 ∧ restores cell.state.2 = 0) ∧
      (lines.fault = some .unsupported ∧ saves lines.state.2 = 0 ∧ restores lines.state.2 = 0) ∧
      (∀ d : Drawing Rat, d.paints = true →
        let o := page.perform d ((), [])
        (saves o.state.2 = restores o.state.2 ↔ (d.savesState = true → o.fault = none)) ∧
          (d.savesState = true → o.fault ≠ none → saves o.state.2 = restores o.state.2 + 1)) ∧
      ∀ (r : Record) (images : Images) (scaler : Scaler Rat) (index : Nat) (e : Element Rat),
        let o := page.logged.paint (Page.paintElement r images scaler index e) (((), []), [])
        o.fault = none ∧ saves o.state.1.2 = restores o.state.1.2 + stranded o.state.2 :=
  ⟨fun _ => rfl, fun _ => rfl, by decide +kernel, by decide +kernel,
    saves_eq_restores_iff (fun _ => rfl) (fun _ => rfl) ⟨600, 800⟩ ()⟩

/-- A color that is taken for a list of numbers cannot be made out, on a canvas on which nothing fails: the text in its
box has saved the state by then, and does not restore it. -/
theorem saves_textCell_ne_restores :
    let page : Surface Float (Unit × List (Call Float)) := surface ⟨600, 800⟩ (journaled fun _ s => .ok s)
    let o := page.perform (.textCell (.text "Subject") ⟨10, 20, 100, 40⟩ { fontSize := 9, color := .text "255,0,0" })
      ((), [])
    o.fault = some .invalidColor ∧ saves o.state.2 = 1 ∧ restores o.state.2 = 0 := by
  decide +kernel

end Canvas

end ReportCard
