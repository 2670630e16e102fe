import ReportCard.Fault

/-!
# Notes

The log of a run: what was skipped, what was painted instead, and what went wrong.
-/

namespace ReportCard

/-- How much a note matters. -/
inductive Level where
  | debug
  | warning
  | error
deriving Repr, DecidableEq

/-- An entry of the log; a note about a failure carries the fault. -/
structure Note where
  level : Level
  message : String
  fault : Option Fault := none
deriving Repr, DecidableEq

end ReportCard
