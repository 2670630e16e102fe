import ReportCard.Image.Fetch

/-!
# Fetching at the same time

The distinct sources of a page are fetched all at once.  The attempt for a source begins once and ends once, and which
of those that can go on does so next is open.  What an attempt comes to is kept in the place of its source; when every
place has a result, the results are put beside the sources.
-/

namespace ReportCard

/-- How far the attempt to fetch a source has come. -/
inductive Stage where
  | waiting
  | running
  | ended (result : Except Fault ImageData)

/-- The result of an attempt that has ended. -/
def Stage.result? : Stage → Option (Except Fault ImageData)
  | ended result => some result
  | _ => none

/-- Attempts under way: the places of the sources, in the order in which these are wanted, and the sources whose
attempts have begun, in the order in which they did. -/
structure Gathering where
  places : List (String × Stage)
  begun : List String := []

namespace Gathering

/-- No attempt has begun. -/
def start (sources : List (Option String)) : Gathering := { places := (Fetcher.distinct sources).map (·, .waiting) }

/-- What may happen next, if the attempt for each source ends in a given way. -/
inductive Step (attempt : String → Attempt) : Gathering → Gathering → Prop
  | begin {A C : List (String × Stage)} {source : String} {begun : List String} :
      Step attempt ⟨A ++ (source, .waiting) :: C, begun⟩ ⟨A ++ (source, .running) :: C, begun ++ [source]⟩
  | finish {A C : List (String × Stage)} {source : String} {begun : List String} :
      Step attempt ⟨A ++ (source, .running) :: C, begun⟩
        ⟨A ++ (source, .ended ((attempt source).outcome.result source)) :: C, begun⟩

/-- The results in the order of the places, once every attempt has ended. -/
def results? (g : Gathering) : Option (List (Except Fault ImageData)) := g.places.mapM (·.2.result?)

/-- The results beside the sources that were wanted, once every attempt has ended. -/
def images? (sources : List (Option String)) (g : Gathering) : Option (List (String × Except Fault ImageData)) :=
  g.results?.map ((Fetcher.distinct sources).zip ·)

end Gathering

end ReportCard
