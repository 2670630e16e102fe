import Mathlib.Data.List.Nodup
import ReportCard.Proofs.Page.Isolation
import ReportCard.Proofs.Page.Preparation

/-!
# The numbers of elements in the log

An item of a template that is no mapping is noted by its position.  An element that is painted is noted by its place
among the elements, which is its position only if no item before it has been dropped.  So the log names the right
element exactly if nothing is noted, while painting, of an element behind a dropped item, and otherwise two notes may go
by one number.
-/

namespace ReportCard

/-- Whether the value is a mapping. -/
def Value.isMapping (v : Value) : Bool := v.entries?.isSome

/-- Numbers that are written alike are equal. -/
private theorem toString_inj {m n : Nat} : toString m = toString n ↔ m = n := by
  refine ⟨fun h => ?_, congrArg toString⟩
  rw [Nat.toString_eq_ofList_toDigits, Nat.toString_eq_ofList_toDigits] at h
  rw [← Nat.ofDigitChars_ten_toDigits (n := m), String.ofList_injective h, Nat.ofDigitChars_ten_toDigits]

/-! ### Items that are dropped -/

namespace Template

/-- The note on the item at a position, if it is no mapping. -/
def droppedNote (place : Nat) : Note :=
  ⟨.debug, "Skipping template element " ++ toString place ++ ": not a mapping.", none⟩

/-- The positions of the items that are no mappings. -/
def dropped (items : List Value) : List Nat := items.findIdxs (!·.isMapping)

/-- The positions of the items that are mappings, and so those of the elements. -/
def places (items : List Value) : List Nat := items.findIdxs Value.isMapping

/-- How many mappings there are before a position. -/
def rank (items : List Value) (place : Nat) : Nat := (items.take place).countP Value.isMapping

/-- What is noted while the elements of a template are read: that there is no list of them, or which items of it are
dropped. -/
def readingNotes (es : Entries) : List Note :=
  match ((body es).get "elements").items? with
  | some items => (dropped items).map droppedNote
  | none => [⟨.warning, "Template has no elements list; nothing will be rendered.", none⟩]

private theorem isMapping_of_ofValue? {v : Value} {e? : Option (Element Float)} (h : Element.ofValue? v = .ok e?) :
    v.isMapping = e?.isSome := by
  unfold Element.ofValue? at h
  unfold Value.isMapping
  split at h
  · rename_i es hes
    obtain ⟨e, -, rfl⟩ := map_eq_ok_iff.1 h
    simp [hes]
  · rename_i hes
    obtain rfl := Except.ok.inj h
    simp [hes]

/-- Reading items from a position on notes those that are no mappings, if all of them can be read. -/
private theorem readFrom_fst {items : List Value} (h : ∀ v ∈ items, ∃ e?, Element.ofValue? v = .ok e?) (i : Nat) :
    (readFrom i items).1 = (items.findIdxs (!·.isMapping) i).map droppedNote := by
  induction items generalizing i with
  | nil => rfl
  | cons v items ih =>
    obtain ⟨⟨e?, hv⟩, hitems⟩ := List.forall_mem_cons.1 h
    have hmapping := isMapping_of_ofValue? hv
    cases e? with
    | none => simp [readFrom, hv, hmapping, ih hitems, droppedNote]
    | some e => simp [readFrom, hv, hmapping, ih hitems]

variable {es : Entries} {elements : List (Element Float)}

theorem elements_fst (h : (Template.elements (.mapping es)).2 = .ok elements) :
    (Template.elements (.mapping es)).1 = readingNotes es := by
  have hread := (eq_of_elements h).2
  have hentries : entries (.mapping es) = .ok es := rfl
  have hitems : items (.mapping es) = ((body es).get "elements").items?.getD [] := rfl
  rw [hitems] at hread
  simp only [Template.elements, hentries, readingNotes]
  cases hlist : ((body es).get "elements").items? with
  | none => rfl
  | some items =>
    rw [hlist] at hread
    exact readFrom_fst hread 0

/-- Each element has its place among the items. -/
theorem length_places (h : (Template.elements (.mapping es)).2 = .ok elements) :
    (places (items (.mapping es))).length = elements.length := by
  obtain ⟨rfl, hread⟩ := eq_of_elements h
  rw [places, List.length_findIdxs, List.length_filterMap_eq_countP]
  refine List.countP_congr fun v hv => ?_
  obtain ⟨e?, he⟩ := hread v hv
  simp [isMapping_of_ofValue? he, element?, he, Except.toOption]

private theorem places_cons (v : Value) (items : List Value) :
    places (v :: items) = if v.isMapping then 0 :: (places items).map (· + 1) else (places items).map (· + 1) := by
  rw [places, List.findIdxs_cons, List.findIdxs_start]
  rfl

private theorem rank_cons_succ (v : Value) (items : List Value) (place : Nat) :
    rank (v :: items) (place + 1) = if v.isMapping then rank items place + 1 else rank items place := by
  simp only [rank, List.take_succ_cons, List.countP_cons]
  split <;> rfl

/-- The mappings before them number the elements in order. -/
theorem map_rank_places (items : List Value) : (places items).map (rank items) = List.range (places items).length := by
  induction items with
  | nil => rfl
  | cons v items ih =>
    -- behind a mapping all ranks are larger by one, as all positions are behind any item
    cases hv : v.isMapping with
    | false => simpa [places_cons, hv, rank_cons_succ, Function.comp_def] using ih
    | true =>
      have hshift : (places items).map (fun place => rank items place + 1) =
          (List.range (places items).length).map Nat.succ := by
        rw [← ih, List.map_map]
        rfl
      have hzero : rank (v :: items) 0 = 0 := rfl
      simp [places_cons, hv, rank_cons_succ, Function.comp_def, hshift, List.range_succ_eq_map, hzero]

theorem le_length_of_mem_places {items : List Value} {place : Nat} (h : place ∈ places items) :
    place ≤ items.length := by
  obtain ⟨hlt, -⟩ := List.mem_findIdxs_iff_exists_getElem_pos.1 h
  exact Nat.le_of_lt hlt

theorem rank_eq_self_iff {items : List Value} {place : Nat} (h : place ≤ items.length) :
    rank items place = place ↔ ∀ v ∈ items.take place, v.isMapping := by
  have hlength : (items.take place).length = place := List.length_take_of_le h
  rw [← List.countP_eq_length, hlength, rank]

end Template

/-! ### Elements that are noted -/

namespace Page

variable {α σ : Type} [Scalar α]

/-- What a page notes of an element under a number, given what came of painting it: that its kind is unknown, or that it
failed. -/
def remark (number : Nat) (e : Element α) (o : Outcome σ) : List Note :=
  match e.kind, o.fault with
  | none, _ => [unknownNote number e]
  | some kind, some fault => [failureNote kind number e fault]
  | some _, none => []

/-- Whether a page notes anything of an element, given what came of painting it. -/
def isNoted (t : Element α × Outcome σ) : Bool := t.1.kind.isNone || t.2.fault.isSome

/-- The log of a page whose elements go by the given numbers: what is noted while each element is painted, and then what
is noted of it. -/
def log (numbers : List Nat) (tries : List (Element α × Outcome σ)) : List Note :=
  (numbers.zip tries).flatMap fun (number, e, o) => o.notes ++ remark number e o

/-- The numbers that occur in the log of a page. -/
def logged (numbers : List Nat) (tries : List (Element α × Outcome σ)) : List Nat :=
  ((numbers.zip tries).filter (isNoted ·.2)).map (·.1)

omit [Scalar α] in
theorem remark_eq_remark_iff {m n : Nat} {e : Element α} {o : Outcome σ} :
    remark m e o = remark n e o ↔ (isNoted (e, o) = true → m = n) := by
  have hunknown : unknownNote m e = unknownNote n e ↔ m = n := by
    simp only [unknownNote, Note.mk.injEq, String.append_left_inj, String.append_right_inj, toString_inj, and_true,
      true_and]
  have hfailure (kind : ElementKind) (fault : Fault) :
      failureNote kind m e fault = failureNote kind n e fault ↔ m = n := by
    simp only [failureNote, Note.mk.injEq, String.append_left_inj, String.append_right_inj, toString_inj, and_true,
      true_and]
  unfold remark isNoted
  cases e.kind <;> cases o.fault <;> simp [hunknown, hfailure]

/-- On a page an element is painted as it is alone, with a note in the place of a fault. -/
theorem paint_paintElement (surface : Surface α σ) (r : Record) (images : Images) (s : Scaler α) (i : Nat)
    (e : Element α) (state : σ) :
    surface.paint (paintElement r images s i e) state =
      let o := surface.paint ((s.apply e).paint r images s.factor) state
      ⟨o.state, o.notes ++ remark i e o, none⟩ := by
  unfold paintElement remark
  cases hkind : e.kind with
  | none =>
    have hdone : (s.apply e).paint r images s.factor = .done := by simp [Element.paint, Scaler.apply, hkind]
    simp [hdone, Surface.paint, Script.run, Outcome.ok]
  | some kind =>
    simp only [Surface.paint, Script.run]
    generalize ((s.apply e).paint r images s.factor).run surface.perform state = o
    obtain ⟨state, notes, fault⟩ := o
    cases fault <;> simp [Outcome.after]

private theorem notes_paintFrom (surface : Surface α σ) (r : Record) (images : Images) (s : Scaler α) (i : Nat)
    (es : List (Element α)) (state : σ) :
    (surface.paint (paintFrom r images s i es) state).notes =
      log (List.range' i es.length) (es.zip (attempts surface r images s es state)) := by
  induction es generalizing i state with
  | nil => rfl
  | cons e es ih =>
    have hfirst := paint_paintElement surface r images s i e state
    have hrest := ih (i + 1) (surface.paint ((s.apply e).paint r images s.factor) state).state
    simp only [Surface.paint] at hfirst hrest
    simp only [Surface.paint, paintFrom, Script.run, hfirst, Outcome.after, hrest, attempts, log, List.length_cons,
      List.range'_succ, List.zip_cons_cons, List.flatMap_cons]

/-- A page numbers its elements from zero on. -/
theorem notes_paint (surface : Surface α σ) (r : Record) (images : Images) (s : Scaler α) (es : List (Element α))
    (state : σ) :
    (surface.paint (paint r images s es) state).notes =
      log (List.range es.length) (es.zip (attempts surface r images s es state)) := by
  rw [paint, notes_paintFrom, List.range_eq_range']

omit [Scalar α] in
/-- Other numbers make no difference to the log exactly if those of the elements that are noted stay. -/
theorem log_map_eq_iff (f : Nat → Nat) (numbers : List Nat) (tries : List (Element α × Outcome σ)) :
    log (numbers.map f) tries = log numbers tries ↔ ∀ x ∈ numbers.zip tries, isNoted x.2 = true → f x.1 = x.1 := by
  induction numbers generalizing tries with
  | nil => simp [log]
  | cons n numbers ih =>
    cases tries with
    | nil => simp [log]
    | cons t tries =>
      obtain ⟨e, o⟩ := t
      have hlength : (remark (f n) e o).length = (remark n e o).length := by
        unfold remark
        cases e.kind <;> cases o.fault <;> rfl
      have hcons : log ((n :: numbers).map f) ((e, o) :: tries) = log (n :: numbers) ((e, o) :: tries) ↔
          remark (f n) e o = remark n e o ∧ log (numbers.map f) tries = log numbers tries := by
        simp only [log, List.map_cons, List.zip_cons_cons, List.flatMap_cons, List.append_assoc,
          List.append_cancel_left_eq]
        exact ⟨fun h => List.append_inj h hlength, fun h => by rw [h.1, h.2]⟩
      rw [hcons, remark_eq_remark_iff, ih, List.zip_cons_cons, List.forall_mem_cons]

omit [Scalar α] in
theorem logged_sublist (numbers : List Nat) (tries : List (Element α × Outcome σ)) :
    (logged numbers tries).Sublist numbers := by
  induction numbers generalizing tries with
  | nil => exact .slnil
  | cons n numbers ih =>
    cases tries with
    | nil => exact List.nil_sublist _
    | cons t tries =>
      cases ht : isNoted t with
      | false => simpa [logged, ht] using (ih tries).cons n
      | true => simpa [logged, ht] using ih tries

end Page

/-! ### Rendering -/

section Render

variable {σ : Type}

/-- The elements of a template with what came of painting them one after the other; none if painting is not begun. -/
def attemptsBy (settings : Settings) (retrieval : Except Fault Retrieval) (surface : Surface Float σ)
    (template : Value) (r : Record) (start : σ) : List (Element Float × Outcome σ) :=
  match (prepareBy settings retrieval surface.size.width template r).2 with
  | .error _ => []
  | .ok (es, s, haul) => es.zip (Page.attempts surface r haul.images s es start)

variable {settings : Settings} {retrieval : Except Fault Retrieval} {surface : Surface Float σ} {r : Record}
  {entries : Entries} {es : List (Element Float)}

/-- The log of a rendering is that of reading the elements and that of painting them. -/
private theorem notes_renderBy (h : (Template.elements (.mapping entries)).2 = .ok es) (start : σ) :
    (renderBy settings retrieval surface (.mapping entries) r start).notes =
      Template.readingNotes entries ++
        Page.log (List.range es.length) (attemptsBy settings retrieval surface (.mapping entries) r start) := by
  have hnotes : (prepareBy settings retrieval surface.size.width (.mapping entries) r).1 =
      Template.readingNotes entries := Template.elements_fst h
  unfold renderBy attemptsBy
  rcases hprepared : prepareBy settings retrieval surface.size.width (.mapping entries) r with ⟨notes, result⟩
  obtain rfl : notes = Template.readingNotes entries := (congrArg Prod.fst hprepared).symm.trans hnotes
  cases result with
  | error fault => simp [Page.log]
  | ok prepared =>
    obtain ⟨elements, s, haul⟩ := prepared
    obtain ⟨helements, -⟩ := prepareBy_snd_eq_ok.1 (congrArg Prod.snd hprepared)
    obtain rfl : es = elements := Except.ok.inj (h.symm.trans helements)
    exact congrArg _ (Page.notes_paint surface r haul.images s es start)

/-- If the elements of a template can be read, the log of a rendering numbers the items that are dropped by their
positions, and an element that is noted by the count of the mappings before it.  This is the position of each of them
exactly if no item before an element that is noted has been dropped, and no two notes go by one number exactly if no
element is noted by the position of an item that has been dropped. -/
theorem renderBy_numbers_iff (helements : (Template.elements (.mapping entries)).2 = .ok es) (start : σ) :
    let items := Template.items (.mapping entries)
    let tries := attemptsBy settings retrieval surface (.mapping entries) r start
    let numbers := (Template.places items).map (Template.rank items)
    let notes := (renderBy settings retrieval surface (.mapping entries) r start).notes
    notes = Template.readingNotes entries ++ Page.log numbers tries ∧
      (notes = Template.readingNotes entries ++ Page.log (Template.places items) tries ↔
        ∀ x ∈ (Template.places items).zip tries, Page.isNoted x.2 = true →
          ∀ v ∈ items.take x.1, v.isMapping = true) ∧
      ((Template.dropped items ++ Page.logged numbers tries).Nodup ↔
        ∀ n ∈ Page.logged numbers tries, n ∉ Template.dropped items) := by
  intro items tries numbers notes
  have hnumbers : numbers = List.range es.length := by
    rw [← Template.length_places helements]
    exact Template.map_rank_places items
  have hnotes : notes = Template.readingNotes entries ++ Page.log numbers tries := by
    rw [hnumbers]
    exact notes_renderBy helements start
  refine ⟨hnotes, ?_, ?_⟩
  · rw [hnotes, List.append_cancel_left_eq, Page.log_map_eq_iff]
    refine forall₂_congr fun x hx => imp_congr_right fun _ => Template.rank_eq_self_iff ?_
    exact Template.le_length_of_mem_places (List.of_mem_zip hx).1
  · have hdropped : (Template.dropped items).Nodup := List.nodup_findIdxs
    have hlogged : (Page.logged numbers tries).Nodup := by
      refine (Page.logged_sublist numbers tries).nodup ?_
      rw [hnumbers]
      exact List.nodup_range
    rw [List.nodup_append', List.disjoint_right]
    exact ⟨fun h => h.2.2, fun h => ⟨hdropped, hlogged, h⟩⟩

end Render

/-- A star, which is of no kind that is known. -/
def starItem : Value := .mapping [("type", .text "star")]

/-- A text with a name for the log. -/
def namedText (id content : String) : Value :=
  .mapping [("type", .text "text"), ("id", .text id), ("content", .text content)]

/-- A surface on which one text cannot be drawn. -/
def choosySurface : Surface Float (Recording Float) :=
  Recording.surface ⟨600, 800⟩ fun d => if d.text?.any (·.isText "Torn") then some (.refused "torn") else none

/-- An item that is dropped behind those that are noted leaves their numbers alone. -/
theorem renderBy_numbers_iff_torn :
    let items := [starItem, namedText "first" "Torn", .null, namedText "second" "Whole"]
    let retrieval : Except Fault Retrieval := .ok fun source => ([], .failed source)
    ∃ es, (Template.elements (.mapping [("elements", .list items)])).2 = .ok es ∧
      let tries := attemptsBy {} retrieval choosySurface (.mapping [("elements", .list items)]) {} #[]
      let notes := (renderBy {} retrieval choosySurface (.mapping [("elements", .list items)]) {} #[]).notes
      notes.map (·.message) = ["Skipping template element 2: not a mapping.",
          "Skipping element 0 with unknown type 'star'.", "Failed to render text element 1 (first)."] ∧
        notes = Template.readingNotes [("elements", .list items)] ++ Page.log (Template.places items) tries := by
  intro items retrieval
  obtain ⟨es, hes, -⟩ := exists_ok_of_any (x := (Template.elements (.mapping [("elements", .list items)])).2)
    (p := fun _ => true) (by decide +kernel)
  exact ⟨es, hes, by decide +kernel, (renderBy_numbers_iff hes #[]).2.1.2 (by decide +kernel)⟩

/-- Behind an item that is dropped a star goes by the number of that item. -/
theorem renderBy_misnumbers_star :
    let items := [.null, starItem]
    let retrieval : Except Fault Retrieval := .ok fun source => ([], .failed source)
    let tries := attemptsBy {} retrieval choosySurface (.mapping [("elements", .list items)]) {} #[]
    let numbers := (Template.places items).map (Template.rank items)
    let notes := (renderBy {} retrieval choosySurface (.mapping [("elements", .list items)]) {} #[]).notes
    notes.map (·.message) = ["Skipping template element 0: not a mapping.",
        "Skipping element 0 with unknown type 'star'."] ∧
      notes ≠ Template.readingNotes [("elements", .list items)] ++ Page.log (Template.places items) tries ∧
      ¬(Template.dropped items ++ Page.logged numbers tries).Nodup := by
  decide +kernel

end ReportCard
