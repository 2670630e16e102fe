import Mathlib.Logic.Relation
import ReportCard.Image.Gathering
import ReportCard.Proofs.Image.Haul

/-!
# Whatever the order of attempts

Attempts that go on side by side leave each result in the place of its source (`Gathering.Sound`), so what is gathered
in the end does not depend on their order.  It is what fetching the sources one after the other brings home.
-/

namespace ReportCard

open Relation (ReflTransGen)

/-! ### Results -/

theorem Refusal.reason_ne_empty (refusal : Refusal) : refusal.reason ≠ "" := by
  cases refusal with
  | outside => exact (by decide : "path is outside the public assets root" ≠ "")
  | missing path => exact fun h => absurd (String.append_eq_empty_iff.1 h).1 (by decide)

theorem Attempt.reasonOf_ne_empty (kind : ErrorKind) (message : String) : Attempt.reasonOf kind message ≠ "" := by
  rw [Attempt.reasonOf]
  split
  · exact kind.name_ne_empty
  · rename_i h
    exact fun h' => h (by simp [h'])

namespace Gathering

variable {attempt : String → Attempt} {sources : List (Option String)} {g g' : Gathering}

/-- The result of the attempt for a source, as it is kept. -/
def resultOf (attempt : String → Attempt) (source : String) : Except Fault ImageData :=
  (attempt source).outcome.result source

/-- A result is the bytes that the attempt came to, or tells of its own source why there are none. -/
theorem resultOf_cases (attempt : String → Attempt) (source : String) :
    (∃ data, attempt source = .loaded data ∧ resultOf attempt source = .ok data) ∨
      ∃ reason, (∀ data, attempt source ≠ .loaded data) ∧ reason ≠ "" ∧
        resultOf attempt source = .error (.imageUnavailable source reason) := by
  rw [resultOf]
  cases attempt source with
  | loaded data => exact .inl ⟨data, rfl, rfl⟩
  | refused refusal => exact .inr ⟨refusal.reason, nofun, refusal.reason_ne_empty, rfl⟩
  | broken kind message => exact .inr ⟨_, nofun, Attempt.reasonOf_ne_empty kind message, rfl⟩
  | late => exact .inr ⟨_, nofun, Attempt.reasonOf_ne_empty Attempt.timeout "", rfl⟩

/-! ### Runs -/

/-- The sources of the places whose attempts have begun. -/
private def started (places : List (String × Stage)) : List String :=
  (places.filter fun p => match p.2 with
    | .waiting => false
    | _ => true).map Prod.fst

@[simp]
private theorem started_append (A C : List (String × Stage)) : started (A ++ C) = started A ++ started C := by
  simp [started]

@[simp]
private theorem started_waiting (source : String) (C : List (String × Stage)) :
    started ((source, .waiting) :: C) = started C := by
  simp [started]

@[simp]
private theorem started_running (source : String) (C : List (String × Stage)) :
    started ((source, .running) :: C) = source :: started C := by
  simp [started]

@[simp]
private theorem started_ended (source : String) (result : Except Fault ImageData) (C : List (String × Stage)) :
    started ((source, .ended result) :: C) = source :: started C := by
  simp [started]

/-- What holds while attempts are under way: the places keep their sources, those of them whose attempts have begun are
known, and a result is that of the attempt for its own source. -/
private structure Sound (attempt : String → Attempt) (sources : List (Option String)) (g : Gathering) : Prop where
  places : g.places.map Prod.fst = Fetcher.distinct sources
  begun : g.begun.Perm (started g.places)
  results : ∀ source result, (source, Stage.ended result) ∈ g.places → result = resultOf attempt source

private theorem Sound.start : Sound attempt sources (start sources) := by
  refine ⟨?_, ?_, ?_⟩
  · rw [Gathering.start, List.map_map]
    exact List.map_id' _
  · suffices h : started ((Fetcher.distinct sources).map (·, .waiting)) = [] by rw [Gathering.start, h]
    induction Fetcher.distinct sources with
    | nil => rfl
    | cons source rest ih => rw [List.map_cons, started_waiting, ih]
  · intro source result h
    obtain ⟨_, _, h⟩ := List.mem_map.1 h
    cases h

private theorem Sound.step (h : Sound attempt sources g) (hstep : Step attempt g g') : Sound attempt sources g' := by
  cases hstep with
  | @begin A C source begun =>
    refine ⟨by simpa using h.places, ?_, fun s result hmem => h.results s result (by simpa using hmem)⟩
    have hbegun : begun.Perm (started A ++ started C) := by simpa using h.begun
    calc begun ++ [source]
        _ |>.Perm (source :: begun) := List.perm_append_singleton source begun
        _ |>.Perm (source :: (started A ++ started C)) := hbegun.cons source
        _ |>.Perm (started A ++ source :: started C) := List.perm_middle.symm
        _ = started (A ++ (source, .running) :: C) := by simp
  | @finish A C source begun =>
    refine ⟨by simpa using h.places, by simpa using h.begun, fun s result hmem => ?_⟩
    rcases List.mem_append.1 hmem with hA | hC
    · exact h.results s result (List.mem_append_left _ hA)
    · rcases List.mem_cons.1 hC with hnew | hC
      · obtain ⟨rfl, hresult⟩ := Prod.mk.inj hnew
        exact Stage.ended.inj hresult
      · exact h.results s result (List.mem_append_right _ (List.mem_cons_of_mem _ hC))

private theorem Sound.run (hrun : ReflTransGen (Step attempt) (Gathering.start sources) g) :
    Sound attempt sources g := by
  induction hrun with
  | refl => exact .start
  | tail _ hstep ih => exact ih.step hstep

/-! ### Ends -/

/-- Once every attempt has ended, the results are those of the attempts, in the order of the places. -/
private theorem results_of_mapM {places : List (String × Stage)} {results : List (Except Fault ImageData)}
    (hsound : ∀ source result, (source, Stage.ended result) ∈ places → result = resultOf attempt source)
    (hends : places.mapM (·.2.result?) = some results) :
    results = places.map (resultOf attempt ·.1) ∧ started places = places.map Prod.fst := by
  induction places generalizing results with
  | nil =>
    cases hends
    exact ⟨rfl, rfl⟩
  | cons place places ih =>
    obtain ⟨source, stage⟩ := place
    rw [List.mapM_cons] at hends
    obtain ⟨result, hresult, hends⟩ := Option.bind_eq_some_iff.1 hends
    obtain ⟨rest, hrest, hends⟩ := Option.bind_eq_some_iff.1 hends
    obtain rfl := Option.some.inj hends
    cases stage with
    | waiting => cases hresult
    | running => cases hresult
    | ended r =>
      obtain rfl := Option.some.inj hresult
      obtain ⟨hresults, hstarted⟩ := ih (fun s r' h => hsound s r' (List.mem_cons_of_mem _ h)) hrest
      rw [List.map_cons, List.map_cons, started_ended, hresults, hstarted, hsound source r List.mem_cons_self]
      exact ⟨rfl, rfl⟩

/-- What a run gathers, and what it began on the way. -/
private theorem images_of_run (hrun : ReflTransGen (Step attempt) (Gathering.start sources) g)
    {images : List (String × Except Fault ImageData)} (hends : g.images? sources = some images) :
    images = (Fetcher.distinct sources).map (fun s => (s, resultOf attempt s)) ∧
      g.begun.Perm (Fetcher.distinct sources) := by
  have hsound := Sound.run hrun
  obtain ⟨results, hresults, rfl⟩ := Option.map_eq_some_iff.1 hends
  obtain ⟨rfl, hstarted⟩ := results_of_mapM hsound.results hresults
  have hmap : g.places.map (resultOf attempt ·.1) = (Fetcher.distinct sources).map (resultOf attempt) := by
    rw [← hsound.places, List.map_map]
    rfl
  refine ⟨?_, hsound.places ▸ hstarted ▸ hsound.begun⟩
  rw [hmap, List.map_prod_left_eq_zip]

private theorem isSome_mapM_of_forall {places : List (String × Stage)}
    (hends : ∀ p ∈ places, (p.2.result?).isSome) : (places.mapM fun p : String × Stage => p.2.result?).isSome := by
  induction places with
  | nil => rfl
  | cons place places ih =>
    obtain ⟨result, hresult⟩ := Option.isSome_iff_exists.1 (hends place List.mem_cons_self)
    obtain ⟨rest, hrest⟩ := Option.isSome_iff_exists.1 (ih fun p hp => hends p (List.mem_cons_of_mem _ hp))
    rw [List.mapM_cons, hresult, hrest]
    rfl

/-- While an attempt has not ended, something can happen. -/
private theorem ended_or_step (attempt : String → Attempt) (sources : List (Option String)) (g : Gathering) :
    (g.images? sources).isSome ∨ ∃ g', Step attempt g g' := by
  by_cases hends : ∀ p ∈ g.places, (p.2.result?).isSome
  · left
    rw [images?, Option.isSome_map]
    exact isSome_mapM_of_forall hends
  · right
    obtain ⟨⟨source, stage⟩, hmem, hopen⟩ : ∃ p ∈ g.places, ¬(p.2.result?).isSome := by
      simpa only [not_forall, exists_prop] using hends
    obtain ⟨A, C, hplaces⟩ := List.append_of_mem hmem
    obtain ⟨places, begun⟩ := g
    obtain rfl := hplaces
    cases stage with
    | waiting => exact ⟨_, .begin⟩
    | running => exact ⟨_, .finish⟩
    | ended result => exact absurd rfl hopen

/-- How much is left to happen for a source. -/
private def remaining : Stage → Nat
  | .waiting => 2
  | .running => 1
  | .ended _ => 0

/-- Nothing goes on for ever. -/
private theorem acc_step (attempt : String → Attempt) (g : Gathering) :
    Acc (fun later earlier => Step attempt earlier later) g := by
  refine Subrelation.accessible ?_ ((measure fun g : Gathering => (g.places.map (remaining ·.2)).sum).wf.apply g)
  intro later earlier hstep
  change (later.places.map (remaining ·.2)).sum < (earlier.places.map (remaining ·.2)).sum
  cases hstep with
  | begin => simp [remaining]
  | finish => simp [remaining]

/-! ### What is gathered -/

/-- What is gathered answers for the sources that are given, each once, in the order in which they come first, and every
answer is about its own source: the bytes that its attempt came to, or the reason for having none. -/
structure Answers (attempt : String → Attempt) (sources : List (Option String))
    (images : List (String × Except Fault ImageData)) : Prop where
  keys : ∀ s, s ∈ images.map Prod.fst ↔ some s ∈ sources ∧ s ≠ ""
  order : (images.map Prod.fst).Pairwise fun s t => sources.idxOf (some s) < sources.idxOf (some t)
  own : ∀ s result, (s, result) ∈ images →
    (∃ data, attempt s = .loaded data ∧ result = .ok data) ∨
      ∃ reason, (∀ data, attempt s ≠ .loaded data) ∧ reason ≠ "" ∧ result = .error (.imageUnavailable s reason)

private theorem map_fst_results (attempt : String → Attempt) (l : List String) :
    (l.map fun s => (s, resultOf attempt s)).map Prod.fst = l := by
  rw [List.map_map]
  exact List.map_id' l

private theorem answers_distinct (attempt : String → Attempt) (sources : List (Option String)) :
    Answers attempt sources ((Fetcher.distinct sources).map fun s => (s, resultOf attempt s)) where
  keys s := by rw [map_fst_results, Fetcher.mem_distinct]
  order := by
    rw [map_fst_results]
    exact Fetcher.pairwise_distinct sources
  own s result h := by
    obtain ⟨_, _, heq⟩ := List.mem_map.1 h
    obtain ⟨rfl, rfl⟩ := Prod.mk.inj heq
    exact resultOf_cases attempt _

private theorem mem_distinct_congr {sources' : List (Option String)} {s : String}
    (h : some s ∈ sources' ↔ some s ∈ sources) : s ∈ Fetcher.distinct sources' ↔ s ∈ Fetcher.distinct sources := by
  rw [Fetcher.mem_distinct, Fetcher.mem_distinct, h]

/-- However the attempts for a page's sources end, and in whatever order, all of them come to an end: nothing goes on
for ever or gets stuck.  Then every source has been tried once and has its answer, which is what fetching one source
after the other brings home.  The answer of a source depends on its own attempt only, and the order and the repetitions
of the sources matter for the order of the answers alone. -/
theorem answers_of_run (requests : String → List String)
    (hrun : ReflTransGen (Step attempt) (start sources) g) :
    Acc (fun later earlier => Step attempt earlier later) g ∧
      ((g.images? sources).isSome ∨ ∃ g', Step attempt g g') ∧
      ∀ images, g.images? sources = some images →
        g.begun.Perm (images.map Prod.fst) ∧
        Answers attempt sources images ∧
        images = (Fetcher.haulBy (fun s => (requests s, (attempt s).outcome)) sources).images.map
          (fun e => (e.1, e.2.result e.1)) ∧
        ∀ attempt' sources' g' images', ReflTransGen (Step attempt') (start sources') g' →
          g'.images? sources' = some images' →
          (∀ s, attempt' s = attempt s → (some s ∈ sources' ↔ some s ∈ sources) →
            images'.lookup s = images.lookup s) ∧
          (attempt' = attempt → (∀ s, some s ∈ sources' ↔ some s ∈ sources) → images'.Perm images) := by
  refine ⟨acc_step attempt g, ended_or_step attempt sources g, fun images hends => ?_⟩
  obtain ⟨rfl, hbegun⟩ := images_of_run hrun hends
  refine ⟨by rwa [map_fst_results], answers_distinct attempt sources, ?_, ?_⟩
  · rw [Fetcher.images_haulBy, List.map_map]
    rfl
  · intro attempt' sources' g' images' hrun' hends'
    obtain ⟨rfl, -⟩ := images_of_run hrun' hends'
    refine ⟨fun s hattempt hmem => ?_, ?_⟩
    · rw [Fetcher.lookup_map_pair, Fetcher.lookup_map_pair, resultOf, resultOf, hattempt]
      exact if_congr (mem_distinct_congr hmem) rfl rfl
    · rintro rfl hmem
      refine List.Perm.map _ ?_
      exact (List.perm_ext_iff_of_nodup (Fetcher.nodup_distinct _) (Fetcher.nodup_distinct _)).2 fun s =>
        mem_distinct_congr (hmem s)

/-- Sources with a repetition, one that is missing and one that is empty. -/
def twoOfFive : List (Option String) := [some "logo", none, some "photo", some "", some "logo"]

/-- Only the photo is there, and nothing is said about the rest. -/
def photoOnly (source : String) : Attempt :=
  if source = "photo" then .loaded (.picture 3 4) else .broken Fetcher.systemError ""

private theorem start_twoOfFive : start twoOfFive = ⟨[("logo", .waiting), ("photo", .waiting)], []⟩ := by
  have hdistinct : Fetcher.distinct twoOfFive = ["logo", "photo"] := by decide
  rw [start, hdistinct]
  rfl

/-- The photo is asked for first, and the logo ends first. -/
private theorem run_photoOnly : ReflTransGen (Step photoOnly) (start twoOfFive)
    ⟨[("logo", .ended (resultOf photoOnly "logo")), ("photo", .ended (resultOf photoOnly "photo"))],
      ["photo", "logo"]⟩ := by
  rw [start_twoOfFive]
  have h₁ : Step photoOnly ⟨[("logo", .waiting), ("photo", .waiting)], []⟩
      ⟨[("logo", .waiting), ("photo", .running)], ["photo"]⟩ := .begin (A := [_])
  have h₂ : Step photoOnly ⟨[("logo", .waiting), ("photo", .running)], ["photo"]⟩
      ⟨[("logo", .running), ("photo", .running)], ["photo", "logo"]⟩ := .begin (A := [])
  have h₃ : Step photoOnly ⟨[("logo", .running), ("photo", .running)], ["photo", "logo"]⟩
      ⟨[("logo", .ended (resultOf photoOnly "logo")), ("photo", .running)], ["photo", "logo"]⟩ := .finish (A := [])
  exact (((ReflTransGen.single h₁).tail h₂).tail h₃).tail (.finish (A := [_]))

theorem answers_of_run_photoOnly :
    ∃ g images, ReflTransGen (Step photoOnly) (start twoOfFive) g ∧ g.begun = ["photo", "logo"] ∧
      g.images? twoOfFive = some images ∧
      images = [("logo", .error (.imageUnavailable "logo" "OSError")), ("photo", .ok (.picture 3 4))] ∧
      g.begun.Perm (images.map Prod.fst) ∧ Answers photoOnly twoOfFive images := by
  have hends : images? twoOfFive
      ⟨[("logo", .ended (resultOf photoOnly "logo")), ("photo", .ended (resultOf photoOnly "photo"))],
        ["photo", "logo"]⟩ =
      some [("logo", .error (.imageUnavailable "logo" "OSError")), ("photo", .ok (.picture 3 4))] := by
    rw [images?, show Fetcher.distinct twoOfFive = ["logo", "photo"] by decide]
    decide +kernel
  obtain ⟨-, -, hresult⟩ := answers_of_run (fun _ => []) run_photoOnly
  obtain ⟨hbegun, hanswers, -, -⟩ := hresult _ hends
  exact ⟨_, _, run_photoOnly, rfl, hends, rfl, hbegun, hanswers⟩

end Gathering

end ReportCard
