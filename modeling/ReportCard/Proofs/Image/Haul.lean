import Mathlib.Data.List.Induction
import ReportCard.Image.Fetch

/-!
# What fetching brings home

Fetching a list of sources yields one entry for each distinct source that is given, and the entry is what the way of
fetching makes of that source alone; which other sources are fetched along with it does not matter.
-/

namespace ReportCard.Fetcher

theorem mem_distinct {sources : List (Option String)} {source : String} :
    source ∈ distinct sources ↔ some source ∈ sources ∧ source ≠ "" := by
  rw [distinct, List.mem_eraseDups, List.mem_filterMap]
  constructor
  · rintro ⟨given, hgiven, h⟩
    obtain ⟨rfl, hne⟩ := Option.filter_eq_some_iff.1 h
    exact ⟨hgiven, by simpa using hne⟩
  · rintro ⟨hgiven, hne⟩
    exact ⟨some source, hgiven, Option.filter_eq_some_iff.2 ⟨rfl, by simpa using hne⟩⟩

private theorem eraseDups_concat (l : List String) (s : String) :
    (l ++ [s]).eraseDups = if s ∈ l then l.eraseDups else l.eraseDups ++ [s] := by
  rw [List.eraseDups_append, List.removeAll]
  split <;> simp [*, List.eraseDups_cons]

/-- One more source is a new one behind the others, or changes nothing. -/
private theorem distinct_append (sources : List (Option String)) (source : Option String) :
    distinct (sources ++ [source]) = distinct sources ∨
      ∃ s, source = some s ∧ some s ∉ sources ∧ distinct (sources ++ [source]) = distinct sources ++ [s] := by
  rw [distinct, List.filterMap_append, distinct]
  cases hgiven : source.filter (!·.isEmpty) with
  | none => exact .inl (by simp [hgiven])
  | some s =>
    obtain ⟨rfl, hne⟩ := Option.filter_eq_some_iff.1 hgiven
    rw [List.filterMap_cons_some hgiven, List.filterMap_nil, eraseDups_concat]
    split
    · exact .inl rfl
    · rename_i hnew
      exact .inr ⟨s, rfl, fun hin => hnew (List.mem_filterMap.2 ⟨some s, hin, hgiven⟩), rfl⟩

/-- The distinct sources stand in the order of their first occurrences. -/
theorem pairwise_distinct (sources : List (Option String)) :
    (distinct sources).Pairwise fun s t => sources.idxOf (some s) < sources.idxOf (some t) := by
  induction sources using List.reverseRecOn with
  | nil => exact List.Pairwise.nil
  | append_singleton sources source ih =>
    -- what was there before keeps its place
    have hold : ∀ {s}, s ∈ distinct sources → (sources ++ [source]).idxOf (some s) = sources.idxOf (some s) := by
      intro s hs
      rw [List.idxOf_append, if_pos (mem_distinct.1 hs).1]
    have hfront : (distinct sources).Pairwise fun s t =>
        (sources ++ [source]).idxOf (some s) < (sources ++ [source]).idxOf (some t) :=
      ih.imp_of_mem fun hs ht h => by rwa [hold hs, hold ht]
    rcases distinct_append sources source with h | ⟨s, rfl, hnew, h⟩
    · rwa [h]
    · rw [h, List.pairwise_append]
      refine ⟨hfront, List.pairwise_singleton _ _, fun t ht s' hs' => ?_⟩
      rw [List.mem_singleton.1 hs', hold ht, List.idxOf_append, if_neg hnew]
      have := List.idxOf_lt_length_of_mem (mem_distinct.1 ht).1
      omega

theorem nodup_distinct (sources : List (Option String)) : (distinct sources).Nodup :=
  (pairwise_distinct sources).imp fun h hst => by
    rw [hst] at h
    exact Nat.lt_irrefl _ h

/-- A source is looked up among results for sources. -/
theorem lookup_map_pair {β : Type} (f : String → β) (l : List String) (source : String) :
    (l.map fun s => (s, f s)).lookup source = if source ∈ l then some (f source) else none := by
  induction l with
  | nil => rfl
  | cons s l ih =>
    rw [List.map_cons, List.lookup_cons]
    by_cases hs : source = s
    · subst hs
      simp
    · rw [beq_false_of_ne hs]
      simpa [hs] using ih

private theorem filterMap_eq_map_of_some {A B : Type} {f : A → Option B} {g : A → B} {l : List A}
    (h : ∀ a ∈ l, f a = some (g a)) : l.filterMap f = l.map g := by
  induction l with
  | nil => rfl
  | cons a l ih =>
    rw [List.filterMap_cons, h a (by simp), ih fun b hb => h b (by simp [hb])]
    rfl

/-- The images of a haul are what became of each distinct source, in order. -/
theorem images_haulBy (retrieve : Retrieval) (sources : List (Option String)) :
    (haulBy retrieve sources).images = (distinct sources).map fun s => (s, (retrieve s).2) := by
  have harrivals : ((distinct sources).map fun s => (s, retrieve s)).map (fun r => (r.1, r.2.2)) =
      (distinct sources).map fun s => (s, (retrieve s).2) := by
    rw [List.map_map]
    rfl
  simp only [haulBy, harrivals, collect]
  refine filterMap_eq_map_of_some fun s hs => ?_
  rw [lookup_map_pair, if_pos hs]
  rfl

theorem lookup_haulBy (retrieve : Retrieval) {sources : List (Option String)} {source : String}
    (h : source ∈ distinct sources) :
    (haulBy retrieve sources).images.lookup source = some (retrieve source).2 := by
  rw [images_haulBy, lookup_map_pair, if_pos h]

end ReportCard.Fetcher
