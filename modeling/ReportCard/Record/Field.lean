import ReportCard.Element.Kind
import ReportCard.Record.Display

/-!
# Dynamic fields

The symbols that a template may leave to be filled in, each with the one derivation that finds its text in a record.
A derivation fails if a number that it prints is too long for a text; apart from that only the two can fail that compute
with numbers of the record.
-/

namespace ReportCard

/-- The fields that are filled in from a record. -/
inductive Field where
  | studentName
  | admissionNumber
  | gender
  | dateOfBirth
  | schoolName
  | schoolAddress
  | schoolMotto
  | schoolPhone
  | schoolEmail
  | schoolWebsite
  | className
  | classSection
  | academicSession
  | termName
  | studentsInClass
  | nextTermDate
  | totalScore
  | totalObtainable
  | averageScore
  | overallGrade
  | position
  | teacherComment
  | adminComment
  | gradingScale
  | daysPresent
  | daysAbsent
  | totalDays
  | attendancePercentage
  | cumulativeTotal
  | cumulativeAverage
  | termCount
deriving Repr, DecidableEq

namespace Field

/-- All fields. -/
def all : List Field :=
  [studentName, admissionNumber, gender, dateOfBirth, schoolName, schoolAddress, schoolMotto, schoolPhone,
   schoolEmail, schoolWebsite, className, classSection, academicSession, termName, studentsInClass, nextTermDate,
   totalScore, totalObtainable, averageScore, overallGrade, position, teacherComment, adminComment, gradingScale,
   daysPresent, daysAbsent, totalDays, attendancePercentage, cumulativeTotal, cumulativeAverage, termCount]

/-- The symbol of a field. -/
def symbol : Field → String
  | studentName => "student_name"
  | admissionNumber => "admission_number"
  | gender => "gender"
  | dateOfBirth => "date_of_birth"
  | schoolName => "school_name"
  | schoolAddress => "school_address"
  | schoolMotto => "school_motto"
  | schoolPhone => "school_phone"
  | schoolEmail => "school_email"
  | schoolWebsite => "school_website"
  | className => "class_name"
  | classSection => "class_section"
  | academicSession => "academic_session"
  | termName => "term_name"
  | studentsInClass => "students_in_class"
  | nextTermDate => "next_term_date"
  | totalScore => "total_score"
  | totalObtainable => "total_obtainable"
  | averageScore => "average_score"
  | overallGrade => "overall_grade"
  | position => "position"
  | teacherComment => "teacher_comment"
  | adminComment => "admin_comment"
  | gradingScale => "grading_scale"
  | daysPresent => "days_present"
  | daysAbsent => "days_absent"
  | totalDays => "total_days"
  | attendancePercentage => "attendance_percentage"
  | cumulativeTotal => "cumulative_total"
  | cumulativeAverage => "cumulative_average"
  | termCount => "term_count"

/-- The field that a value names. -/
def ofValue? (v : Value) : Option Field := v.choose all symbol

/-- The full mark of one subject. -/
def maxScore : Nat := 100

/-- The text at a key of a grading band, empty if the key is missing. -/
def bandText (band : Entries) (key : String) : Except Fault String :=
  match band.lookup key with
  | some v => v.display
  | none => .ok ""

/-- The scores that a grading band reaches from and to. -/
def bandScores (band : Entries) : Except Fault String :=
  return (← formatNumber (band.get "minScore")) ++ "-" ++ (← formatNumber (band.get "maxScore"))

/-- A grading band in one line with others. -/
def bandItem (band : Entries) : Except Fault String :=
  return (← bandText band "grade") ++ ": " ++ (← bandScores band)

/-- A grading band with its remark. -/
def bandLine (band : Entries) : Except Fault String :=
  return (← bandItem band) ++ "% (" ++ (← bandText band "remark") ++ ")"

/-- The grading bands in one line. -/
def gradingLine (r : Record) : Except Fault String := (r.gradingScale.mapM bandItem).map (Text.joinWith ", ")

/-- The grading bands with their remarks, one to a line. -/
def gradingList (r : Record) : Except Fault String := (r.gradingScale.mapM bandLine).map (Text.joinWith "\n")

/-- The printed text at the end of a path, empty where something is missing. -/
def textAt (es : Entries) (names : List String) : Except Fault String := formatNumber (Record.find es names)

/-- The printed text at the end of a path, or the text for what is not known. -/
def textOrNotAvailable (es : Entries) (names : List String) : Except Fault String :=
  orNotAvailable (Record.find es names)

/-- The printed value with a sign for per cent. -/
def percentage (v : Value) : Except Fault String := (formatNumber v).map (· ++ "%")

/-- The printed day at a key, or a default if none is given. -/
def dateAt (es : Entries) (name default : String) : Except Fault String :=
  let v := es.get name
  if v.isTruthy then formatDate v else .ok default

/-- The share of the days on which the student was present, as a whole number of per cent. -/
def attendanceShare (r : Record) : Except Fault String := do
  let total ← ((Record.findIn r.attendance "totalDays").orDefault (.int 0)).floatOrZero
  if total ≤ 0.0 then return notAvailable
  let present ← ((Record.findIn r.attendance "daysPresent").orDefault (.int 0)).floatOrZero
  return toString (← roundToEven (present / total * 100.0)) ++ "%"

/-- The total of this term and the terms before. -/
def runningTotal (r : Record) : Except Fault String := do
  let previous ← ((Record.findIn r.cumulative "previousTotal").orDefault (.int 0)).floatOrZero
  let current ← ((r.summary.get "totalScore").orDefault (.int 0)).floatOrZero
  formatNumber (.float (previous + current))

/-- The rank in class; rank zero counts as not known. -/
def rank (r : Record) : Except Fault String := do
  let v := r.summary.get "position"
  if v.isBlank then return notAvailable
  if ← v.equalsZero then return notAvailable
  formatNumber v

/-- The text of a field for a record; `asList` selects the form of the grading scale. -/
def resolve (r : Record) (asList : Bool) : Field → Except Fault String
  | studentName => textAt r.student ["user", "name"]
  | admissionNumber =>
    orNotAvailable ((r.student.get "admissionNumber").orElse (r.studentClass.get "rollNumber"))
  | gender => textOrNotAvailable r.student ["gender"]
  | dateOfBirth => dateAt r.student "dateOfBirth" notAvailable
  | schoolName => textAt r.school ["name"]
  | schoolAddress => textAt r.school ["address"]
  | schoolMotto => textAt r.school ["motto"]
  | schoolPhone => textAt r.school ["phone"]
  | schoolEmail => textAt r.school ["email"]
  | schoolWebsite => textAt r.school ["website"]
  | className => textOrNotAvailable r.studentClass ["class", "name"]
  | classSection => textOrNotAvailable r.studentClass ["class", "section"]
  | academicSession => textOrNotAvailable r.session ["name"]
  | termName => textOrNotAvailable r.period ["name"]
  | studentsInClass => textOrNotAvailable r.summary ["studentsInClass"]
  | nextTermDate => dateAt r.period "nextTermBegins" "TBD"
  | totalScore => textAt r.summary ["totalScore"]
  | totalObtainable => .ok (toString (r.results.length * maxScore))
  | averageScore =>
    let average := r.summary.get "average"
    if average.isBlank then .ok "" else percentage average
  | overallGrade => textAt r.summary ["overallGrade"]
  | position => rank r
  | teacherComment => textAt r.firstResult ["teacherComment"]
  | adminComment => textAt r.firstResult ["adminComment"]
  | gradingScale => if asList then gradingList r else gradingLine r
  | daysPresent => orNotAvailable (Record.findIn r.attendance "daysPresent")
  | daysAbsent => orNotAvailable (Record.findIn r.attendance "daysAbsent")
  | totalDays => orNotAvailable (Record.findIn r.attendance "totalDays")
  | attendancePercentage => attendanceShare r
  | cumulativeTotal => runningTotal r
  | cumulativeAverage => percentage ((Record.findIn r.cumulative "average").orElse (.text "0"))
  | termCount => formatNumber ((Record.findIn r.cumulative "termCount").orDefault (.int 1))

/-- The text of the field that a symbol names, empty for an unknown symbol. -/
def resolveSymbol (r : Record) (symbol displayType : Value) : Except Fault String :=
  match ofValue? symbol with
  | some field => resolve r (displayType.isText "list") field
  | none => .ok ""

end Field

end ReportCard
