/-!
# The field catalogue

What a template editor shows about each field: its label, its category, a description and a sample.  Image fields are
listed along with the fields that are filled in as text.
-/

namespace ReportCard

/-- An entry of the catalogue. -/
structure FieldDefinition where
  key : String
  label : String
  category : String
  description : String
  sample : String
deriving Repr, DecidableEq

namespace FieldDefinition

/-- The catalogue, grouped by category. -/
def all : List FieldDefinition :=
  [⟨"student_name", "Student Name", "student", "Full name of the student", "Ifunanya Kelemade"⟩,
   ⟨"admission_number", "Admission Number", "student",
      "Unique student admission/registration number", "STU/2020/1004"⟩,
   ⟨"gender", "Gender", "student", "Student's gender", "Female"⟩,
   ⟨"date_of_birth", "Date of Birth", "student", "Student's birth date", "15/03/2012"⟩,
   ⟨"student_photo", "Student Photo", "student", "Passport photograph of the student", "[Photo]"⟩,
   ⟨"school_name", "School Name", "school", "Official name of the school", "Step to Success Demo School"⟩,
   ⟨"school_address", "School Address", "school",
      "Physical address of the school", "5 Blessing Okoh Way, Benin City"⟩,
   ⟨"school_motto", "School Motto", "school", "School's motto or tagline", "Excellence Personified"⟩,
   ⟨"school_logo", "School Logo", "school", "School's official logo/emblem", "[Logo]"⟩,
   ⟨"school_phone", "School Phone", "school", "School's contact phone number", "08012345678"⟩,
   ⟨"school_email", "School Email", "school", "School's official email address", "info@school.edu.ng"⟩,
   ⟨"school_website", "School Website", "school", "School's website URL", "www.school.edu.ng"⟩,
   ⟨"school_stamp", "School Stamp", "school", "Official school stamp/seal", "[Stamp]"⟩,
   ⟨"principal_signature", "Principal's Signature", "school", "Principal's signature", "[Signature]"⟩,
   ⟨"academic_session", "Academic Session", "period", "Current academic year/session", "2024/2025"⟩,
   ⟨"term_name", "Term Name", "period", "Current term (First, Second, Third)", "First Term"⟩,
   ⟨"class_name", "Class Name", "period", "Student's current class", "Primary 4"⟩,
   ⟨"class_section", "Class Section/Arm", "period", "Class section or arm (e.g., A, B, Gold)", "A"⟩,
   ⟨"students_in_class", "Number in Class", "period", "Total number of students in the class", "35"⟩,
   ⟨"next_term_date", "Next Term Date", "period", "Expected date for next term", "10/01/2025"⟩,
   ⟨"total_score", "Total Score", "result", "Sum of all subject scores", "752"⟩,
   ⟨"total_obtainable", "Total Obtainable", "result", "Maximum possible total score", "1000"⟩,
   ⟨"average_score", "Average Score", "result", "Average of all subject scores", "75.2%"⟩,
   ⟨"overall_grade", "Overall Grade", "result", "Final grade based on average", "A"⟩,
   ⟨"position", "Class Position", "result", "Student's rank/position in class", "2nd"⟩,
   ⟨"teacher_comment", "Teacher's Comment", "result", "Class teacher's remark", "A very promising child"⟩,
   ⟨"admin_comment", "Principal's Comment", "result", "Principal/Head Master's remark", "Excellent performance"⟩,
   ⟨"grading_scale", "Grading Scale", "result", "School's grading scale/legend", "A: 70-100, B: 60-69..."⟩,
   ⟨"days_present", "Days Present", "attendance", "Number of days student was present", "85"⟩,
   ⟨"days_absent", "Days Absent", "attendance", "Number of days student was absent", "17"⟩,
   ⟨"total_days", "Total Days in Term", "attendance", "Total number of school days in term", "102"⟩,
   ⟨"attendance_percentage", "Attendance Percentage", "attendance", "Percentage of attendance", "83%"⟩,
   ⟨"cumulative_total", "Cumulative Total", "computed", "Total across all terms so far", "1497"⟩,
   ⟨"cumulative_average", "Cumulative Average", "computed", "Average across multiple terms", "72.5%"⟩,
   ⟨"term_count", "Terms Counted", "computed", "Number of terms in the cumulative figures", "2"⟩]

/-- The entries of a category, in order. -/
def inCategory (category : String) : List FieldDefinition := all.filter (·.category == category)

/-- The entry with a key. -/
def ofKey? (key : String) : Option FieldDefinition := all.find? (·.key == key)

end FieldDefinition

end ReportCard
