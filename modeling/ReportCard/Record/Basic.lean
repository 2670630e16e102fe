import ReportCard.Value.Path

/-!
# Academic records

The bundle that a template is painted for.  Nested records stay values, because their shape varies from school to
school; only the outermost layer is typed.
-/

namespace ReportCard

/-- A student's academic record of one term. -/
structure Record where
  student : Entries := []
  school : Entries := []
  studentClass : Entries := []
  session : Entries := []
  period : Entries := []
  results : List Entries := []
  gradingScale : List Entries := []
  summary : Entries := []
  cumulative : Option Entries := none
  attendance : Option Entries := none

namespace Record

/-- The entries of a mapping, none for any other value. -/
def entriesOf (v : Value) : Entries := v.entries?.getD []

/-- The mappings among the items of a list. -/
def mappingsOf (v : Value) : List Entries := (v.items?.getD []).filterMap Value.entries?

/-- The record that a payload describes; what is missing or of another kind is empty. -/
def ofValue (payload : Value) : Record :=
  let es := entriesOf payload
  { student := entriesOf (es.get "student")
    school := entriesOf (es.get "school")
    studentClass := entriesOf (es.get "studentClass")
    session := entriesOf (es.get "academicSession")
    period := entriesOf (es.get "period")
    results := mappingsOf (es.get "results")
    gradingScale := mappingsOf (es.get "gradingScale")
    summary := entriesOf (es.get "summary")
    cumulative := (es.get "cumulative").entries?
    attendance := (es.get "attendance").entries? }

/-- The first result, which holds the comments and the ratings of the whole term. -/
def firstResult (r : Record) : Entries := r.results.headD []

/-- The value at the end of a path of names in a record, null where something is missing. -/
def find (es : Entries) (names : List String) : Value := (Value.mapping es).reach names

/-- The value at a key of a record that may be missing. -/
def findIn (es : Option Entries) (name : String) : Value := (es.map (·.get name)).getD .null

end Record

end ReportCard
