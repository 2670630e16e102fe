import ReportCard.Proofs.Page.Preparation

/-!
# Data leaves the layout alone

The areas and rules of a page come from its template: a record decides which texts are shown, and nothing else.  Two
scripts for the same element and different records may differ in their texts, but as long as both come to their end
they make the same areas and rules, in the same order (`Script.FramesAlike`).
-/

namespace ReportCard

variable {α : Type}

namespace Drawing

/-- Whether the drawing is an area or a rule. -/
def isFrame : Drawing α → Bool
  | fillRect .. | strokeRect .. | line .. => true
  | _ => false

/-- The areas and rules among drawings. -/
def frames (ds : List (Drawing α)) : List (Drawing α) := ds.filter isFrame

@[simp]
theorem frames_append (ds ds' : List (Drawing α)) : frames (ds ++ ds') = frames ds ++ frames ds' :=
  List.filter_append ..

end Drawing

open Drawing (frames)

/-- If two scripts both come to their end, they make the same areas and rules. -/
def Script.FramesAlike (p q : Script (Drawing α)) : Prop :=
  p.fault? = none → q.fault? = none → frames p.actions = frames q.actions

namespace Script.FramesAlike

variable {p p' q q' : Script (Drawing α)}

theorem refl (p : Script (Drawing α)) : FramesAlike p p := fun _ _ => rfl

/-- Scripts without areas and rules. -/
theorem of_nil (hp : frames p.actions = []) (hq : frames q.actions = []) : FramesAlike p q :=
  fun _ _ => hp.trans hq.symm

theorem seq (hp : FramesAlike p p') (hq : FramesAlike q q') : FramesAlike (.seq p q) (.seq p' q') := by
  intro h h'
  simp only [fault?, Option.or_eq_none_iff] at h h'
  simp [actions, h.1, h'.1, hp h.1 h'.1, hq h.2 h'.2]

theorem isolated (h : FramesAlike p q) : FramesAlike (Drawing.isolated p) (Drawing.isolated q) := by
  intro hp hq
  rw [Drawing.fault?_isolated] at hp hq
  simp only [Drawing.actions_isolated, frames, List.filter_cons, List.filter_append]
  exact congrArg (· ++ _) (h hp hq)

theorem tryIt {β : Type} {x y : Except Fault β} {f g : β → Script (Drawing α)}
    (h : ∀ b b', FramesAlike (f b) (g b')) : FramesAlike (.tryIt x f) (.tryIt y g) := by
  intro hx hy
  obtain ⟨b, rfl, hb⟩ := fault?_tryIt_eq_none.1 hx
  obtain ⟨b', rfl, hb'⟩ := fault?_tryIt_eq_none.1 hy
  exact h b b' hb hb'

theorem all_cons {ps qs : List (Script (Drawing α))} (h : FramesAlike p q) (hs : FramesAlike (.all ps) (.all qs)) :
    FramesAlike (.all (p :: ps)) (.all (q :: qs)) := by
  intro hp hq
  rw [(Script.all_cons _ _).1, Option.or_eq_none_iff] at hp hq
  rw [(Script.all_cons _ _).2, (Script.all_cons _ _).2, hp.1, hq.1]
  simp [h hp.1 hq.1, hs hp.2 hq.2]

theorem all_map {B : Type} {f g : B → Script (Drawing α)} {l : List B} (h : ∀ b ∈ l, FramesAlike (f b) (g b)) :
    FramesAlike (.all (l.map f)) (.all (l.map g)) := by
  induction l with
  | nil => exact refl _
  | cons b l ih => exact all_cons (h b (by simp)) (ih fun b' hb' => h b' (by simp [hb']))

end Script.FramesAlike

open Script (FramesAlike)

variable [Scalar α]

/-! ### Tables -/

namespace Table

private theorem frames_cellText (c : Column α) (top height : α) (s : String) (l : Lettering α) :
    frames (cellText c top height s l).actions = [] := by
  unfold cellText
  cases s.isEmpty <;> rfl

private theorem framesAlike_paintCell (e : Element α) (scale : α) (source source' : Source) (row : Nat) (top : α)
    (c : Column α) : FramesAlike (paintCell e scale source row top c) (paintCell e scale source' row top c) :=
  .tryIt fun _ _ => .seq (.of_nil (frames_cellText ..) (frames_cellText ..)) (.refl _)

private theorem framesAlike_paintRow (e : Element α) (scale : α) (source source' : Source) (row : Nat) (top : α) :
    FramesAlike (paintRow e scale source row top) (paintRow e scale source' row top) :=
  .seq (.refl _) <| .seq (.refl _) <| .all_map fun c _ => framesAlike_paintCell e scale source source' row top c

private theorem framesAlike_paintRows (e : Element α) (scale : α) (source source' : Source) (row : Nat) (top : α)
    (n : Nat) :
    FramesAlike (.all (paintRows e scale source row top n)) (.all (paintRows e scale source' row top n)) := by
  induction n generalizing row top with
  | zero => exact .refl _
  | succ n ih => exact .all_cons (framesAlike_paintRow e scale source source' row top) (ih _ _)

omit [Scalar α] in
private theorem frames_overflowNote (m : Metadata α) (source : Source) :
    frames (overflowNote m source : Script (Drawing α)).actions = [] := by
  unfold overflowNote
  split
  · rfl
  · cases decide (rowCount m < source.size) <;> rfl

/-- Whatever a table shows, its areas and rules are the same. -/
theorem framesAlike_paint (e : Element α) (r r' : Record) (scale : α) :
    FramesAlike (paint e r scale) (paint e r' scale) := by
  refine .seq (.isolated (.seq (.refl _) (.seq ?_ (.refl _)))) ?_
  · exact framesAlike_paintRows e scale _ _ 0 _ _
  · exact .of_nil (frames_overflowNote ..) (frames_overflowNote ..)

end Table

/-! ### Elements -/

namespace Element

private theorem frames_paintContent (e : Element α) (content : String) :
    frames (e.paintContent content).actions = [] := by
  unfold paintContent
  split
  · rfl
  · cases e.style.face <;> rfl

private theorem framesAlike_paintDynamic (e : Element α) (r r' : Record) :
    FramesAlike (e.paintDynamic r) (e.paintDynamic r') := by
  refine .tryIt fun content content' => .seq (.of_nil ?_ ?_) (.of_nil (frames_paintContent ..) (frames_paintContent ..))
  · cases content.isEmpty <;> rfl
  · cases content'.isEmpty <;> rfl

/-- For any two records, an element that is no image makes the same areas and rules. -/
theorem framesAlike_paint {e : Element α} (h : e.kind ≠ some .image) (r r' : Record) (images images' : Images)
    (scale : α) : FramesAlike (e.paint r images scale) (e.paint r' images' scale) := by
  unfold paint
  split
  · exact .refl _
  · exact .refl _
  · exact .refl _
  · exact framesAlike_paintDynamic e r r'
  · contradiction
  · exact Table.framesAlike_paint e r r' scale
  · exact .refl _

end Element

/-! ### Pages -/

namespace Page

private theorem fault?_of_paintFrom_log {r : Record} {images : Images} {s : Scaler α} {i : Nat} {es : List (Element α)}
    (h : ∀ kind index (e : Element α) fault, failureNote kind index e fault ∉ (paintFrom r images s i es).log) :
    ∀ e ∈ es, ((s.apply e).paint r images s.factor).fault? = none := by
  induction es generalizing i with
  | nil => simp
  | cons e es ih =>
    have hlog : (paintFrom r images s i (e :: es)).log =
        (paintElement r images s i e).log ++ (paintFrom r images s (i + 1) es).log := by
      simp [paintFrom, Script.log, (paintElement_transcript r images s i e).1]
    simp only [hlog, List.mem_append, not_or] at h
    refine List.forall_mem_cons.2 ⟨?_, ih fun kind index e fault => (h kind index e fault).2⟩
    cases hkind : e.kind with
    | none => simp [Element.paint, Scaler.apply, hkind, Script.fault?]
    | some kind =>
      cases hfault : ((s.apply e).paint r images s.factor).fault? with
      | none => rfl
      | some fault =>
        refine absurd ?_ (h kind i e fault).1
        simp [paintElement, hkind, Script.log, hfault]

/-- On a page without a note on a failure no element fails. -/
theorem fault?_of_paint_log {r : Record} {images : Images} {s : Scaler α} {es : List (Element α)}
    (h : ∀ kind index (e : Element α) fault, failureNote kind index e fault ∉ (paint r images s es).log) :
    ∀ e ∈ es, ((s.apply e).paint r images s.factor).fault? = none :=
  fault?_of_paintFrom_log h

/-- On pages without images and without failures, records make no difference to areas and rules. -/
theorem frames_actions_paint {r r' : Record} {images images' : Images} {s : Scaler α} {es : List (Element α)}
    (hkind : ∀ e ∈ es, e.kind ≠ some .image)
    (hr : ∀ e ∈ es, ((s.apply e).paint r images s.factor).fault? = none)
    (hr' : ∀ e ∈ es, ((s.apply e).paint r' images' s.factor).fault? = none) :
    frames (paint r images s es).actions = frames (paint r' images' s es).actions := by
  simp only [actions_paint]
  induction es with
  | nil => rfl
  | cons e es ih =>
    simp only [List.forall_mem_cons] at hkind hr hr'
    simp only [List.flatMap_cons, Drawing.frames_append, ih hkind.2 hr.2 hr'.2]
    exact congrArg (· ++ _) (Element.framesAlike_paint (e := s.apply e) hkind.1 r r' images images' _ hr.1 hr'.1)

end Page

/-! ### Rendering -/

/-- The rendering has no note on an element that failed. -/
def Rendering.NotesNoFailure {σ : Type} (o : Rendering σ) : Prop :=
  ∀ kind index (e : Element Float) fault, Page.failureNote kind index e fault ∉ o.notes

private theorem Rendering.notesNoFailure_of_level {σ : Type} {o : Rendering σ}
    (h : o.notes.all (·.level != .error) = true) : o.NotesNoFailure := by
  intro kind index e fault hn
  have hlevel := List.all_eq_true.1 h _ hn
  simp [Page.failureNote] at hlevel

section Render

variable {settings : Settings} {retrieval : Except Fault Retrieval} {size : Size Float} {template : Value}
  {es : List (Element Float)} {r r' : Record} {start : Recording Float}

/-- Where there are no images, whether a page can be prepared does not depend on the record. -/
private theorem prepareBy_congr_record (himages : ∀ e ∈ es, e.kind ≠ some .image) {width : Float} {s : Scaler Float}
    {haul : Fetcher.Haul} (h : (prepareBy settings retrieval width template r).2 = .ok (es, s, haul)) (r' : Record) :
    ∃ haul', (prepareBy settings retrieval width template r').2 = .ok (es, s, haul') := by
  obtain ⟨helements, hscaler, -, retrieve, hretrieve, -⟩ := prepareBy_snd_eq_ok.1 h
  have hsources : Page.HasSources r' es := fun e he hkind => absurd hkind (himages e he)
  exact ⟨_, prepareBy_snd_eq_ok.2 ⟨helements, hscaler, hsources, retrieve, hretrieve, rfl⟩⟩

private theorem log_of_renderBy {s : Scaler Float} {haul : Fetcher.Haul}
    (h : (prepareBy settings retrieval size.width template r).2 = .ok (es, s, haul)) {n : Note}
    (hn : n ∈ (Page.paint r haul.images s es).log) :
    n ∈ (renderBy settings retrieval (Recording.accepting size) template r start).notes := by
  unfold renderBy
  rcases hprepared : prepareBy settings retrieval (Recording.accepting size).size.width template r with ⟨notes, result⟩
  obtain rfl : result = .ok (es, s, haul) := (congrArg Prod.snd hprepared).symm.trans h
  dsimp only
  rw [Recording.paint_accepting]
  exact List.mem_append_right notes hn

/-- Two records for which every element of a template without images can be painted have pages with the same areas and
rules, in the same order and with the same extents, colors and widths. -/
theorem renderBy_frames_eq (helements : (Template.elements template).2 = .ok es)
    (himages : ∀ e ∈ es, e.kind ≠ some .image)
    (hr : (renderBy settings retrieval (Recording.accepting size) template r start).NotesNoFailure)
    (hr' : (renderBy settings retrieval (Recording.accepting size) template r' start).NotesNoFailure) :
    let o := renderBy settings retrieval (Recording.accepting size) template r start
    let o' := renderBy settings retrieval (Recording.accepting size) template r' start
    (o.fault = none ↔ o'.fault = none) ∧ frames o.state.toList = frames o'.state.toList := by
  intro o o'
  cases hprepared : (prepareBy settings retrieval size.width template r).2 with
  | error fault =>
    -- what stops one rendering before it paints stops the other one too
    cases hprepared' : (prepareBy settings retrieval size.width template r').2 with
    | error fault' =>
      obtain ⟨hfault, hstate⟩ := renderBy_of_error (Recording.accepting size) hprepared start
      obtain ⟨hfault', hstate'⟩ := renderBy_of_error (Recording.accepting size) hprepared' start
      simp only [o, o', hfault, hfault', hstate, hstate']
      simp
    | ok prepared =>
      obtain ⟨elements, s, haul⟩ := prepared
      obtain rfl : es = elements := Except.ok.inj (helements.symm.trans (prepareBy_snd_eq_ok.1 hprepared').1)
      obtain ⟨haul, hok⟩ := prepareBy_congr_record himages hprepared' r
      rw [hprepared] at hok
      cases hok
  | ok prepared =>
    obtain ⟨elements, s, haul⟩ := prepared
    obtain rfl : es = elements := Except.ok.inj (helements.symm.trans (prepareBy_snd_eq_ok.1 hprepared).1)
    obtain ⟨haul', hprepared'⟩ := prepareBy_congr_record himages hprepared r'
    obtain ⟨hfault, hstate⟩ := renderBy_of_ok hprepared start
    obtain ⟨hfault', hstate'⟩ := renderBy_of_ok hprepared' start
    have hframes := Page.frames_actions_paint himages
      (Page.fault?_of_paint_log fun kind i e fault hn => hr kind i e fault (log_of_renderBy hprepared hn))
      (Page.fault?_of_paint_log fun kind i e fault hn => hr' kind i e fault (log_of_renderBy hprepared' hn))
    rw [Page.actions_paint, Page.actions_paint] at hframes
    simp only [o, o', hfault, hfault', hstate, hstate']
    simp [hframes]

end Render

/-- A template with a frame, the name of the school, and a table of results. -/
def resultTemplate : Value :=
  .mapping [("elements", .list [
    .mapping [("type", .text "shape"), ("width", .int 700), ("height", .int 900),
      ("style", .mapping [("borderColor", .text "#000000"), ("borderWidth", .int 1)])],
    .mapping [("type", .text "dynamic"), ("metadata", .mapping [("field", .text "school_name")])],
    .mapping [("type", .text "table"), ("width", .int 600), ("height", .int 200),
      ("metadata", .mapping [("tableType", .text "subjects"), ("rows", .int 2), ("cols", .int 2),
        ("headers", .list [.text "Subject", .text "Total"])])]])]

/-- A school with one result, and no school without results: the texts differ, the areas and rules do not. -/
theorem renderBy_frames_eq_results :
    let r : Record :=
      { school := [("name", .text "Hill")]
        results := [[("subject", .mapping [("name", .text "Art")]), ("total", .int 70)]] }
    let o := renderBy {} (.ok fun _ => ([], .failed "")) (Recording.accepting ⟨600, 800⟩) resultTemplate r #[]
    let o' := renderBy {} (.ok fun _ => ([], .failed "")) (Recording.accepting ⟨600, 800⟩) resultTemplate {} #[]
    ((o.fault = none ↔ o'.fault = none) ∧ frames o.state.toList = frames o'.state.toList) ∧
      (frames o.state.toList).length = 9 ∧
      (o.state.toList.filterMap Drawing.text?).length = 5 ∧
      (o'.state.toList.filterMap Drawing.text?).length = 2 := by
  intro r o o'
  cases helements : (Template.elements resultTemplate).2 with
  | error fault =>
    have hok : (Template.elements resultTemplate).2.isOk = true := by decide +kernel
    rw [helements] at hok
    cases hok
  | ok es =>
    have himages : ((Template.elements resultTemplate).2.toOption.map fun es => es.all (·.kind != some .image)) =
        some true := by
      decide +kernel
    rw [helements] at himages
    refine ⟨renderBy_frames_eq helements (fun e he => ?_) ?_ ?_, ?_, ?_, ?_⟩
    · exact bne_iff_ne.1 (List.all_eq_true.1 (Option.some.inj himages) e he)
    · exact Rendering.notesNoFailure_of_level (by decide +kernel)
    · exact Rendering.notesNoFailure_of_level (by decide +kernel)
    all_goals decide +kernel

end ReportCard
