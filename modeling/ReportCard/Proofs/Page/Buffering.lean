import ReportCard.Proofs.Drawing.Replay
import ReportCard.Proofs.Element.Drawings
import ReportCard.Proofs.Page.Isolation
import ReportCard.Proofs.Page.Preparation

/-!
# Rendering by way of a recording

A page can be rendered onto a recording that is replayed on it afterwards.  While the elements are painted the recording
takes every drawing, so what the page itself would turn down comes up only in the replay, where no element can answer
it any more.  The two ways agree as long as that does not happen.
-/

namespace ReportCard

namespace Page

variable {α : Type} [Scalar α]

/-- What a page shows are texts in the four faces. -/
theorem isLettered_of_mem_actions {r : Record} {images : Images} {s : Scaler α} {es : List (Element α)} {d : Drawing α}
    (h : d ∈ (paint r images s es).actions) : d.IsLettered := by
  rcases (bracketed_paint r images s es).every.of_mem_actions h with h | h
  · cases d <;> trivial
  · exact h.2

end Page

section Render

variable {σ : Type} {settings : Settings} {retrieval : Except Fault Retrieval} {size : Size Float} {template : Value}
  {r : Record}

/-- Painting a page never fails, whatever does so on the surface. -/
private theorem fault_paint (surface : Surface Float σ) (r : Record) (images : Images) (s : Scaler Float)
    (es : List (Element Float)) (start : σ) : (surface.paint (Page.paint r images s es) start).fault = none :=
  (Page.run_paintFrom surface r images s 0 es start).1

/-- Rendering onto a page and rendering onto a recording that is replayed on the page agree, in the calls on the canvas
and in how they end, if and only if the replay goes through.  If it does not, the calls of the replay are the first of
those that are made by rendering onto the page, which itself ends as recording does.  On a canvas where no call fails,
the replay goes through exactly if every recorded drawing can be drawn on a page. -/
theorem replay_agrees_iff (perform : Call Float → σ → Outcome σ) (canvas : σ) :
    let page := Canvas.surface size (Canvas.journaled perform)
    let direct := renderBy settings retrieval page template r (canvas, [])
    let recorded := renderBy settings retrieval (Recording.accepting size) template r #[]
    let replayed := page.paint (Recording.replay recorded.state) (canvas, [])
    (replayed.state = direct.state ∧ recorded.fault.or replayed.fault = direct.fault ↔ replayed.fault = none) ∧
      direct.fault = recorded.fault ∧ replayed.state.2 <+: direct.state.2 ∧
      ((∀ call s, (perform call s).fault = none) →
        (replayed.fault = none ↔ ∀ d ∈ recorded.state.toList, d.IsDrawable)) := by
  intro page direct recorded replayed
  cases hprepared : (prepareBy settings retrieval size.width template r).2 with
  | error fault =>
    -- nothing is painted, so there is nothing to replay
    obtain ⟨hdirect, hstate⟩ := renderBy_of_error page hprepared (canvas, [])
    obtain ⟨hrecorded, hempty⟩ := renderBy_of_error (Recording.accepting size) hprepared #[]
    have hreplayed : replayed = Outcome.ok (canvas, []) := by
      simp only [replayed, recorded, hempty]
      rfl
    rw [hreplayed]
    simp [direct, recorded, hdirect, hstate, hrecorded, hempty, Outcome.ok]
  | ok prepared =>
    obtain ⟨es, s, haul⟩ := prepared
    obtain ⟨hdirect, hdirectFault⟩ := renderBy_paints page hprepared (canvas, [])
    obtain ⟨hrecorded, hrecordedFault⟩ := renderBy_paints (Recording.accepting size) hprepared #[]
    rw [fault_paint] at hdirectFault hrecordedFault
    rw [Recording.paint_accepting, Array.empty_append] at hrecorded
    have hreplayed : replayed = page.paint (Recording.replay (Page.paint r haul.images s es).actions.toArray)
        (canvas, []) := by
      simp only [replayed, recorded, hrecorded]
    obtain ⟨hsame, hprefix, hdrawable⟩ :=
      Canvas.paint_replay size perform (Page.paint r haul.images s es) (canvas, [])
    refine ⟨⟨fun h => ?_, fun h => ⟨?_, ?_⟩⟩, hdirectFault.trans hrecordedFault.symm, ?_, fun hperform => ?_⟩
    · rw [show recorded.fault = none from hrecordedFault, show direct.fault = none from hdirectFault] at h
      exact h.2
    · rw [show direct.state = _ from hdirect, hreplayed]
      exact (hsame (hreplayed ▸ h)).1.symm
    · rw [show recorded.fault = none from hrecordedFault, show direct.fault = none from hdirectFault, h]
      rfl
    · rw [show direct.state = _ from hdirect, hreplayed]
      exact hprefix
    · rw [hreplayed, show recorded.state = _ from hrecorded]
      refine (hdrawable hperform).trans (forall₂_congr fun d hd => ?_)
      exact Canvas.fault?_calls_eq_none (Page.isLettered_of_mem_actions hd) size.height

end Render

/-- A template with a logo and a text behind it. -/
def logoTemplate : Value :=
  .mapping [("elements", .list [
    .mapping [("type", .text "image"), ("width", .int 40), ("height", .int 40),
      ("metadata", .mapping [("field", .text "school_logo")])],
    .mapping [("type", .text "text"), ("content", .text "Report")]])]

/-- Where the bytes of the logo are no picture, the page shows a box in its place and then the text.  The recording
keeps the bytes, and the replay stops at them: of the calls on the canvas only the first one is made. -/
theorem replay_stops_at_undecodable :
    let retrieval : Except Fault Retrieval := .ok fun _ => ([], .loaded (.other "no picture"))
    let r : Record := { school := [("logo", .text "logo.png")] }
    let page := Canvas.surface ⟨600, 800⟩ (Canvas.journaled fun _ (s : Unit) => .ok s)
    let direct := renderBy {} retrieval page logoTemplate r ((), [])
    let recorded := renderBy {} retrieval (Recording.accepting ⟨600, 800⟩) logoTemplate r #[]
    let replayed := page.paint (Recording.replay recorded.state) ((), [])
    direct.fault = none ∧ recorded.fault = none ∧ replayed.fault = some .undecodableImage ∧
      direct.state.2.length = 21 ∧ replayed.state.2.length = 1 := by
  decide +kernel

end ReportCard
