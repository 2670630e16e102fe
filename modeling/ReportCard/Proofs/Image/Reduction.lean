import Mathlib.Data.List.Induction
import Mathlib.Logic.Relation
import ReportCard.Image.Path

/-!
# Reducing paths

A path is normalised by dropping the pieces that say nothing and by letting two dots take back the name before them
(`Path.Reduces`).  In whatever order that is done, it ends with the same names (`Path.Normalizes.unique`), and these are
the names of the resolved path (`Path.normalizes_resolve`).
-/

namespace ReportCard.Path

/-- The pieces between the slashes of a text. -/
def pieces (text : String) : List String := (Text.splitBy (· == '/') text.toList).map String.ofList

/-- A piece that names a file or a directory. -/
structure IsName (piece : String) : Prop where
  ne_empty : piece ≠ ""
  ne_dot : piece ≠ "."
  ne_up : piece ≠ ".."

/-- One step of normalising the pieces of an absolute path. -/
inductive Reduces : List String → List String → Prop
  /-- An empty piece or a dot says nothing. -/
  | here {A C : List String} {piece : String} (h : piece = "" ∨ piece = ".") : Reduces (A ++ piece :: C) (A ++ C)
  /-- Two dots take back the name before them. -/
  | back {A C : List String} {name : String} (h : IsName name) : Reduces (A ++ name :: ".." :: C) (A ++ C)
  /-- Nothing is above the top. -/
  | top {C : List String} : Reduces (".." :: C) C

/-- Pieces reduce to names, and these cannot be reduced any further. -/
structure Normalizes (pieces names : List String) : Prop where
  reduces : Relation.ReflTransGen Reduces pieces names
  isName : ∀ name ∈ names, IsName name

theorem Reduces.append {ps qs : List String} (h : Reduces ps qs) (C : List String) : Reduces (ps ++ C) (qs ++ C) := by
  cases h with
  | @here A C' piece hpiece =>
    have := Reduces.here (A := A) (C := C' ++ C) hpiece
    simpa [List.append_assoc] using this
  | @back A C' name hname =>
    have := Reduces.back (A := A) (C := C' ++ C) hname
    simpa [List.append_assoc] using this
  | top => exact .top

/-! ### Following a path piece by piece -/

/-- The directory that a piece leads to. -/
private def follow (dir : List String) (piece : String) : List String :=
  if piece = "" ∨ piece = "." then dir else enter dir piece

private theorem follow_here (dir : List String) {piece : String} (h : piece = "" ∨ piece = ".") :
    follow dir piece = dir :=
  if_pos h

private theorem follow_up (dir : List String) : follow dir ".." = dir.dropLast := by
  simp [follow, enter]

private theorem enter_name (dir : List String) {name : String} (h : IsName name) : enter dir name = dir ++ [name] := by
  rw [enter, if_neg (by simpa using h.ne_up)]

private theorem follow_name (dir : List String) {name : String} (h : IsName name) :
    follow dir name = dir ++ [name] := by
  have hhere : ¬(name = "" ∨ name = ".") := fun hn => hn.elim h.ne_empty h.ne_dot
  rw [follow, if_neg hhere, enter_name dir h]

private theorem isName_follow {dir : List String} (hdir : ∀ name ∈ dir, IsName name) (piece : String) :
    ∀ name ∈ follow dir piece, IsName name := by
  by_cases hhere : piece = "" ∨ piece = "."
  · rw [follow_here dir hhere]
    exact hdir
  · by_cases hup : piece = ".."
    · rw [hup, follow_up]
      exact fun name hname => hdir name (List.dropLast_subset dir hname)
    · have hpiece : IsName piece := ⟨fun h => hhere (.inl h), fun h => hhere (.inr h), hup⟩
      rw [follow_name dir hpiece]
      intro name hname
      rcases List.mem_append.1 hname with hname | hname
      · exact hdir name hname
      · rw [List.mem_singleton.1 hname]
        exact hpiece

private theorem isName_foldl_follow (ps : List String) {dir : List String} (hdir : ∀ name ∈ dir, IsName name) :
    ∀ name ∈ ps.foldl follow dir, IsName name := by
  induction ps generalizing dir with
  | nil => exact hdir
  | cons p ps ih => exact ih (isName_follow hdir p)

private theorem foldl_eq_append {f : List String → String → List String} {names : List String}
    (h : ∀ name ∈ names, ∀ dir, f dir name = dir ++ [name]) (dir : List String) : names.foldl f dir = dir ++ names := by
  induction names generalizing dir with
  | nil => simp
  | cons name names ih =>
    rw [List.foldl_cons, h name (by simp), ih fun n hn => h n (by simp [hn]), List.append_assoc]
    rfl

/-- A step of normalising does not change where a path leads. -/
private theorem foldl_follow_of_reduces {ps qs : List String} (h : Reduces ps qs) :
    ps.foldl follow [] = qs.foldl follow [] := by
  cases h with
  | here h => rw [List.foldl_append, List.foldl_cons, follow_here _ h, List.foldl_append]
  | back h =>
    rw [List.foldl_append, List.foldl_cons, List.foldl_cons, follow_name _ h, follow_up, List.dropLast_concat,
      List.foldl_append]
  | top => rw [List.foldl_cons, follow_up]; rfl

/-- Every path reduces to the names that it leads along. -/
private theorem reduces_foldl_follow (ps : List String) : Relation.ReflTransGen Reduces ps (ps.foldl follow []) := by
  induction ps using List.reverseRecOn with
  | nil => exact .refl
  | append_singleton ps p ih =>
    have hnames : ∀ name ∈ ps.foldl follow [], IsName name := isName_foldl_follow ps (by simp)
    -- the pieces before the last one are reduced first
    have hfront : Relation.ReflTransGen Reduces (ps ++ [p]) (ps.foldl follow [] ++ [p]) :=
      ih.lift (· ++ [p]) fun _ _ h => h.append [p]
    rw [List.foldl_append, List.foldl_cons, List.foldl_nil]
    by_cases hhere : p = "" ∨ p = "."
    · rw [follow_here _ hhere]
      simpa using hfront.tail (Reduces.here (C := []) hhere)
    · by_cases hup : p = ".."
      · subst hup
        rw [follow_up]
        rcases List.eq_nil_or_concat (ps.foldl follow []) with h | ⟨dir, name, h⟩
        · rw [h] at hfront ⊢
          exact hfront.tail .top
        · rw [List.concat_eq_append] at h
          rw [h] at hfront hnames ⊢
          rw [List.dropLast_concat]
          have hback := Reduces.back (A := dir) (C := []) (hnames name (by simp))
          simpa using hfront.tail (by simpa using hback)
      · rw [follow_name _ ⟨fun h => hhere (.inl h), fun h => hhere (.inr h), hup⟩]
        exact hfront

/-- Pieces normalise to exactly one list of names. -/
private theorem normalizes_iff_eq {ps names : List String} : Normalizes ps names ↔ names = ps.foldl follow [] := by
  constructor
  · rintro ⟨hreduces, hnames⟩
    have hsame : ps.foldl follow [] = names.foldl follow [] := by
      induction hreduces using Relation.ReflTransGen.head_induction_on with
      | refl => rfl
      | head hstep _ ih => exact (foldl_follow_of_reduces hstep).trans ih
    rw [hsame, foldl_eq_append (fun name hname dir => follow_name dir (hnames name hname)), List.nil_append]
  · rintro rfl
    exact ⟨reduces_foldl_follow ps, isName_foldl_follow ps (by simp)⟩

theorem Normalizes.unique {ps names names' : List String} (h : Normalizes ps names) (h' : Normalizes ps names') :
    names = names' :=
  (normalizes_iff_eq.1 h).trans (normalizes_iff_eq.1 h').symm

/-! ### Resolved paths -/

private theorem foldl_enter_namesOf (cs : List Char) (dir : List String) :
    (namesOf cs).foldl enter dir = ((Text.splitBy (· == '/') cs).map String.ofList).foldl follow dir := by
  rw [namesOf, List.foldl_filter]
  congr 1
  funext dir piece
  by_cases hhere : piece = "" ∨ piece = "."
  · rw [follow_here dir hhere]
    rcases hhere with rfl | rfl <;> rfl
  · rw [not_or] at hhere
    simp [follow, hhere]

/-- The names of a path normalise its pieces once it is resolved. -/
theorem normalizes_resolve (text : String) : Normalizes (pieces text) (ofText text).resolve.names :=
  normalizes_iff_eq.2 (foldl_enter_namesOf text.toList [])

private theorem splitBy_append (p : Char → Bool) (as bs : List Char) {c : Char} (hc : p c = true) :
    Text.splitBy p (as ++ c :: bs) = Text.splitBy p as ++ Text.splitBy p bs := by
  induction as with
  | nil => simp [Text.splitBy, hc]
  | cons a as ih =>
    simp only [List.cons_append, Text.splitBy]
    split
    · rw [ih, List.cons_append]
    · rw [ih]
      cases h : Text.splitBy p as with
      | nil =>
        -- there is always a piece
        cases as with
        | nil => simp [Text.splitBy] at h
        | cons a' as =>
          simp only [Text.splitBy] at h
          split at h
          · simp at h
          · split at h <;> simp at h
      | cons piece rest => rfl

/-- Continuing a resolved path and resolving it again normalises the two texts as one. -/
theorem normalizes_append (text rest : String) :
    Normalizes (pieces (text ++ "/" ++ rest))
      ((ofText text).resolve.append (namesOf rest.toList)).resolve.names := by
  have hpieces : pieces (text ++ "/" ++ rest) = pieces text ++ pieces rest := by
    have hsplit := splitBy_append (· == '/') text.toList rest.toList (c := '/') rfl
    simp only [pieces, ← List.map_append, ← hsplit]
    simp
  have htext := normalizes_resolve text
  have hresolved : (ofText text).resolve.names.foldl enter [] = (ofText text).resolve.names :=
    foldl_eq_append (fun name hname dir => enter_name dir (htext.isName name hname)) []
  rw [normalizes_iff_eq, hpieces, List.foldl_append, ← normalizes_iff_eq.1 htext]
  show ((ofText text).resolve.names ++ namesOf rest.toList).foldl enter [] = _
  rw [List.foldl_append, hresolved]
  exact foldl_enter_namesOf rest.toList _

/-! ### Characters -/

private theorem mem_of_mem_splitBy (p : Char → Bool) {cs piece : List Char} (h : piece ∈ Text.splitBy p cs) :
    ∀ c ∈ piece, c ∈ cs := by
  induction cs generalizing piece with
  | nil =>
    rw [Text.splitBy, List.mem_singleton] at h
    simp [h]
  | cons a cs ih =>
    intro c hc
    rw [Text.splitBy] at h
    split at h
    · rcases List.mem_cons.1 h with rfl | h
      · simp at hc
      · exact List.mem_cons_of_mem a (ih h c hc)
    · split at h
      · rw [List.mem_singleton.1 h, List.mem_singleton] at hc
        simp [hc]
      · rename_i first rest hsplit
        rcases List.mem_cons.1 h with rfl | h
        · rcases List.mem_cons.1 hc with rfl | hc
          · simp
          · exact List.mem_cons_of_mem a (ih (by simp [hsplit]) c hc)
        · exact List.mem_cons_of_mem a (ih (by simp [hsplit, h]) c hc)

/-- The names in a text hold no other characters than the text. -/
theorem notMem_of_mem_namesOf {c : Char} {cs : List Char} (h : c ∉ cs) {name : String} (hname : name ∈ namesOf cs) :
    c ∉ name.toList := by
  obtain ⟨piece, hpiece, rfl⟩ := List.mem_map.1 (List.mem_filter.1 hname).1
  rw [String.toList_ofList]
  exact fun hc => h (mem_of_mem_splitBy _ hpiece c hc)

/-- Resolving a path brings no new names in. -/
theorem mem_names_of_mem_resolve {p : Path} {name : String} (h : name ∈ p.resolve.names) : name ∈ p.names := by
  have hgo : ∀ (names dir : List String), name ∈ names.foldl enter dir → name ∈ dir ∨ name ∈ names := by
    intro names
    induction names with
    | nil => exact fun dir h => .inl h
    | cons first names ih =>
      intro dir h
      rcases ih _ h with h | h
      · rw [enter] at h
        split at h
        · exact .inl (List.dropLast_subset dir h)
        · rcases List.mem_append.1 h with h | h
          · exact .inl h
          · exact .inr (by simp [List.mem_singleton.1 h])
      · exact .inr (List.mem_cons_of_mem first h)
  exact (hgo p.names [] h).resolve_left (by simp)

end ReportCard.Path
