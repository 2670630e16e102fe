import ReportCard.Builtin.Templates
import ReportCard.Value.Path

/-!
# Sample data

The record of an invented student, for looking at a template before there are results.  A school may show its own
branding in it: whatever it has set replaces the sample.
-/

namespace ReportCard.Builtin

/-- The score of a component. -/
def score (component : String) (points : Nat) : Value :=
  .mapping [("component", .mapping [("name", component)]), ("score", .int points)]

/-- A result with its scores. -/
def result (subject : String) (total : Nat) (grade remark : String) (scores : List (String × Nat)) : Entries :=
  [("subject", .mapping [("name", subject)]), ("total", .int total), ("grade", grade), ("remark", remark),
    ("componentScores", .list (scores.map fun s => score s.1 s.2))]

/-- Ratings of traits, in order. -/
def ratings (names marks : List String) : Value := .mapping ((names.zip marks).map fun r => (r.1, .text r.2))

/-- A band of the grading scale. -/
def band (grade : String) (low high : Nat) (remark : String) : Value :=
  .mapping [("grade", grade), ("minScore", .int low), ("maxScore", .int high), ("remark", remark)]

/-- The school of the sample. -/
def sampleSchool : Entries :=
  [("name", "Sample School"), ("logo", .null), ("address", "No address provided"), ("motto", ""), ("phone", ""),
    ("email", "")]

/-- The results of the sample; the first one holds the ratings and the comments. -/
def sampleResults : List Value :=
  [.mapping (result "Mathematics" 88 "A" "Excellent"
      [("CA1", 15), ("CA2", 13), ("EXAM", 60), ("1st Term", 85), ("2nd Term", 88)] ++
      [("affectiveTraits", ratings affectiveTraits ["5", "4", "5", "4", "5", "4", "5", "4"]),
        ("psychomotorSkills", ratings psychomotorSkills ["4", "3", "5", "4", "5", "4"]),
        ("teacherComment", "A brilliant student. Keep it up!"), ("adminComment", "Excellent performance.")]),
    .mapping (result "English Language" 75 "B" "Very Good"
      [("CA1", 12), ("CA2", 13), ("EXAM", 50), ("1st Term", 72), ("2nd Term", 75)]),
    .mapping (result "Physics" 92 "A+" "Outstanding" [("CA1", 14), ("CA2", 15), ("EXAM", 63)])]

/-- The sample for a school. -/
def sampleFor (school : Entries) : Value :=
  .mapping
    [("student", .mapping [("user", .mapping [("name", "John Doe"), ("image", .null)]),
        ("admissionNumber", "ADM-2026-001"), ("gender", "Male")]),
      ("school", .mapping school),
      ("studentClass", .mapping [("class", .mapping [("name", "Grade 10"), ("section", "A")]), ("rollNumber", "10")]),
      ("academicSession", .mapping [("name", "2025/2026 Academic Session")]),
      ("period", .mapping [("name", "First Term")]),
      ("results", .list sampleResults),
      ("gradingScale", .list [band "A" 80 100 "Distinction", band "B" 70 79 "Credit", band "C" 60 69 "Pass",
        band "F" 0 49 "Fail"]),
      ("summary", .mapping [("totalScore", 255), ("average", "85.0"), ("overallGrade", "A"), ("position", "1st"),
        ("studentsInClass", 25)]),
      ("cumulative", .mapping [("previousTotal", 742), ("termCount", 1), ("average", "84.5")]),
      ("attendance", .mapping [("daysPresent", 58), ("daysAbsent", 2), ("totalDays", 60)])]

/-- What a school may brand. -/
def brandingFields : List String := ["name", "logo", "address", "phone", "email", "motto", "website"]

/-- A branding value of a school; of a stored file its address is taken, if the file is there. -/
def branding (school : Value) (field : String) : Value :=
  match school, school.member field with
  | .object .., .object attributes present =>
    match attributes.lookup "url" with
    | some url => if present then url else .null
    | none => .object attributes present
  | _, v => v

/-- The sample with the branding of a school, if there is one. -/
def sample (school : Value) : Value :=
  sampleFor <| brandingFields.foldl (fun es field =>
    let v := branding school field
    if v.isTruthy then es.put field v else es) sampleSchool

end ReportCard.Builtin
