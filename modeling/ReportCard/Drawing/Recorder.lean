import ReportCard.Drawing.Basic

/-!
# Recording

A surface that keeps the drawings as data, to be looked at or to be replayed onto another surface in their order.
-/

namespace ReportCard

/-- The drawings made so far, the earliest first. -/
abbrev Recording (α : Type) := Array (Drawing α)

namespace Recording

variable {α σ : Type}

/-- A surface that records every drawing but those that `refuse` turns down. -/
def surface (size : Size α) (refuse : Drawing α → Option Fault) : Surface α (Recording α) where
  size
  perform d recording :=
    match refuse d with
    | some fault => .stop recording fault
    | none => .ok (recording.push d)

/-- The recorded drawings, or those of them with one of the names if there are names. -/
def named (recording : Recording α) (names : List String) : List (Drawing α) :=
  if names.isEmpty then recording.toList else recording.toList.filter fun d => names.contains d.operation

/-- The recorded texts. -/
def texts (recording : Recording α) : List Value := recording.toList.filterMap Drawing.text?

/-- The script that makes the recorded drawings again. -/
def replay (recording : Recording α) : Script (Drawing α) := Script.acts recording.toList

end Recording

end ReportCard
