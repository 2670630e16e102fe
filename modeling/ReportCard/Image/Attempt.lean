import ReportCard.Fault
import ReportCard.Image.Data

/-!
# Attempts

How the attempt to fetch a source may end, and what becomes of the source then: its bytes, or the reason for having
none.
-/

namespace ReportCard

/-- The name of a kind of error, which is never empty. -/
structure ErrorKind where
  name : String
  name_ne_empty : name ≠ "" := by decide

/-- Why the fetcher itself turns a source down. -/
inductive Refusal where
  /-- The source leads out of the public root. -/
  | outside
  /-- There is no file at the path that the source leads to. -/
  | missing (path : String)

/-- The wording of a refusal. -/
def Refusal.reason : Refusal → String
  | outside => "path is outside the public assets root"
  | missing path => "Local file not found: " ++ path

/-- The fault of a source that is turned down. -/
def Refusal.fault (refusal : Refusal) (source : String) : Fault := .imageUnavailable source refusal.reason

/-- How an attempt to fetch a source ends. -/
inductive Attempt where
  | loaded (data : ImageData)
  | refused (refusal : Refusal)
  /-- An error of some kind, with a message or without one. -/
  | broken (kind : ErrorKind) (message : String)
  /-- The time that the source may take is over. -/
  | late

namespace Attempt

/-- The kind of error that ends an attempt whose time is over. -/
def timeout : ErrorKind := { name := "TimeoutError" }

/-- What an error says, or its kind if it says nothing. -/
def reasonOf (kind : ErrorKind) (message : String) : String := if message.isEmpty then kind.name else message

/-- What becomes of the source. -/
def outcome : Attempt → Fetched
  | loaded data => .loaded data
  | refused refusal => .failed refusal.reason
  | broken kind message => .failed (reasonOf kind message)
  | late => .failed (reasonOf timeout "")

end Attempt

/-- The bytes of a source, or the fault that names the source and the reason. -/
def Fetched.result (source : String) : Fetched → Except Fault ImageData
  | .loaded data => .ok data
  | .failed reason => .error (.imageUnavailable source reason)

end ReportCard
