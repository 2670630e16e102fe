import ReportCard.Builtin.Parts
import ReportCard.Value.Path
import ReportCard.Element.Template

/-!
# Built-in templates

The report cards that schools start from, on a canvas of the A4 sheet.  There are two layouts, for primary and for
secondary schools; the templates for terms and years take one of them and change the columns of its subjects table.
-/

namespace ReportCard.Builtin

/-- The traits of the affective domain. -/
def affectiveTraits : List String :=
  ["Punctuality", "Neatness", "Politeness", "Honesty", "Cooperation", "Attentiveness", "Obedience", "Self-Control"]

/-- The skills of the psychomotor domain. -/
def psychomotorSkills : List String :=
  ["Handwriting", "Drawing/Painting", "Sports/Games", "Musical Skills", "Crafts", "Verbal Fluency"]

/-- The colors of a layout. -/
structure Palette where
  primary : String
  accent : String
  altRow : String

/-- The columns of a subjects table. -/
structure SubjectColumns where
  rows : Nat
  headers : List String
  widths : List Nat

/-- How ratings are shown: printed, or ticked on a scale of five. -/
inductive RatingStyle where
  | printed
  | ticked
deriving Repr, DecidableEq

namespace RatingStyle

/-- The headers of a table of ratings. -/
def headers (style : RatingStyle) (title : String) : List String :=
  match style with
  | printed => [title, "RATING"]
  | ticked => [title, "1", "2", "3", "4", "5"]

end RatingStyle

/-- The style of tables. -/
def tableStyle (p : Palette) (fontSize : Value) : Entries :=
  [("borderColor", p.primary), ("borderWidth", 1), ("fontSize", fontSize), ("headerBgColor", p.primary),
    ("headerTextColor", "#ffffff"), ("altRowColor", p.altRow)]

/-- A border of a color, one unit wide. -/
def border (color : String) : Entries := [("borderColor", color), ("borderWidth", 1)]

/-- The band at the top: logo, school and photograph. -/
def heading (p : Palette) : List Value :=
  [shape "header_band" ⟨0, 0, 794, 110⟩ [("backgroundColor", p.primary)],
    shape "header_rule" ⟨0, 110, 794, 6⟩ [("backgroundColor", p.accent)],
    image "school_logo" ⟨30, 15, 80, 80⟩,
    dynamic "school_name" ⟨130, 18, 534, 30⟩ "school_name" (centered (bold 24 "#ffffff")),
    dynamic "school_address" ⟨130, 52, 534, 16⟩ "school_address" (centered (plain 11 "#e0e7ff")),
    dynamic "school_motto" ⟨130, 72, 534, 16⟩ "school_motto" (centered ((slanted 10).put "color" "#e0e7ff")),
    image "student_photo" ⟨684, 15, 80, 90⟩,
    text "title" ⟨20, 125, 754, 24⟩ "STUDENT'S TERMINAL REPORT" (centered (bold 16 p.primary)),
    dynamic "term_banner" ⟨20, 150, 754, 16⟩ "term_name" (centered (plain 11 "#374151"))]

/-- What is known about the student. -/
def information (p : Palette) : List Value :=
  shape "info_panel" ⟨20, 175, 754, 100⟩ (border p.primary) ::
    labelled "student_name" 30 185 "NAME:" p.primary 110 250 ++
    labelled "admission_number" 420 185 "ADM. NO:" p.primary 110 150 ++
    labelled "class_name" 30 207 "CLASS:" p.primary 110 150 ++
    labelled "academic_session" 420 207 "SESSION:" p.primary 110 150 ++
    labelled "gender" 30 229 "GENDER:" p.primary 110 150 ++
    labelled "students_in_class" 420 229 "NO. IN CLASS:" p.primary 110 150 ++
    labelled "position" 30 251 "POSITION:" p.primary 110 150 ++
    labelled "average_score" 420 251 "AVERAGE:" p.primary 110 150

/-- The tables, the grading scale and the totals. -/
def results (p : Palette) (subjects : SubjectColumns) (ratings : RatingStyle) : List Value :=
  let traitHeaders := ratings.headers "TRAITS"
  let skillHeaders := ratings.headers "SKILLS"
  [table "subjects_table" ⟨20, 300, 550, 400⟩ (tableStyle p 9)
      [("tableType", "subjects"), ("rows", .int subjects.rows), ("cols", .int subjects.headers.length),
        ("headers", texts subjects.headers), ("columnWidths", numbers subjects.widths)],
    text "affective_title" ⟨585, 282, 185, 16⟩ "AFFECTIVE DOMAIN" (centered (bold 10 p.primary)),
    table "affective_table" ⟨585, 300, 185, 180⟩ (tableStyle p 8)
      [("tableType", "affective"), ("rows", 9), ("cols", .int traitHeaders.length),
        ("headers", texts traitHeaders), ("traits", texts affectiveTraits)],
    text "psychomotor_title" ⟨585, 497, 185, 16⟩ "PSYCHOMOTOR DOMAIN" (centered (bold 10 p.primary)),
    table "psychomotor_table" ⟨585, 515, 185, 140⟩ (tableStyle p 8)
      [("tableType", "psychomotor"), ("rows", 7), ("cols", .int skillHeaders.length),
        ("headers", texts skillHeaders), ("skills", texts psychomotorSkills)],
    shape "grading_panel" ⟨585, 665, 185, 110⟩ (border p.primary),
    text "grading_title" ⟨590, 670, 175, 14⟩ "GRADING SCALE" (bold 9 p.primary),
    element "dynamic" "grading_scale" ⟨590, 686, 175, 85⟩ (plain 8 "#374151")
      [("field", "grading_scale"), ("displayType", "list")] none] ++
    labelled "total_score" 20 710 "TOTAL SCORE:" p.primary 110 60 ++
    labelled "total_obtainable" 200 710 "OBTAINABLE:" p.primary 90 60 ++
    labelled "overall_grade" 360 710 "GRADE:" p.primary 60 50

/-- The remarks and the attendance. -/
def remarks (p : Palette) : List Value :=
  [shape "teacher_comment_box" ⟨20, 735, 550, 45⟩ (border "#d1d5db"),
    text "teacher_comment_label" ⟨28, 740, 200, 14⟩ "CLASS TEACHER'S REMARK:" (bold 9 p.primary),
    dynamic "teacher_comment" ⟨28, 756, 534, 20⟩ "teacher_comment" (slanted 10),
    shape "admin_comment_box" ⟨20, 790, 550, 45⟩ (border "#d1d5db"),
    text "admin_comment_label" ⟨28, 795, 200, 14⟩ "PRINCIPAL'S REMARK:" (bold 9 p.primary),
    dynamic "admin_comment" ⟨28, 811, 534, 20⟩ "admin_comment" (slanted 10),
    text "attendance_title" ⟨585, 785, 185, 14⟩ "ATTENDANCE" (bold 9 p.primary)] ++
    labelled "days_present" 585 801 "Present:" p.primary 90 95 ++
    labelled "days_absent" 585 819 "Absent:" p.primary 90 95 ++
    labelled "attendance_percentage" 585 837 "Attendance:" p.primary 90 95

/-- The signatures and the band at the bottom. -/
def closing (p : Palette) : List Value :=
  [text "next_term_label" ⟨20, 845, 150, 16⟩ "NEXT TERM BEGINS:" (bold 10 p.primary),
    dynamic "next_term_date" ⟨170, 845, 150, 16⟩ "next_term_date" [("fontSize", 10)],
    image "principal_signature" ⟨380, 870, 150, 45⟩,
    shape "teacher_signature_line" ⟨40, 920, 200, 1⟩ [("borderBottom", "1px solid #111827")],
    text "teacher_signature_label" ⟨40, 925, 200, 14⟩ "Class Teacher's Signature" (centered (plain 9 "#374151")),
    shape "principal_signature_line" ⟨355, 920, 200, 1⟩ [("borderBottom", "1px solid #111827")],
    text "principal_signature_label" ⟨355, 925, 200, 14⟩ "Principal's Signature" (centered (plain 9 "#374151")),
    image "school_stamp" ⟨620, 875, 110, 110⟩,
    shape "footer_band" ⟨0, 1090, 794, 33⟩ [("backgroundColor", p.primary)],
    dynamic "footer_contact" ⟨20, 1097, 754, 12⟩ "school_email" (centered (plain 8 "#ffffff")),
    dynamic "footer_website" ⟨20, 1109, 754, 12⟩ "school_website" (centered (plain 8 p.accent))]

/-- The elements of a report card. -/
def reportCard (p : Palette) (subjects : SubjectColumns) (ratings : RatingStyle) : List Value :=
  heading p ++ information p ++ results p subjects ratings ++ remarks p ++ closing p

/-- The canvas of the A4 sheet. -/
def a4Canvas : Value := .mapping [("width", 794), ("height", 1123)]

/-- A template on the canvas of the A4 sheet. -/
def template (name description level elements : Value) : Value :=
  .mapping [("name", name), ("description", description), ("level", level), ("canvasSize", a4Canvas),
    ("elements", elements)]

/-- The metadata of a subjects table with other columns. -/
def recolumnMetadata (headers widths : Value) (metadata : Entries) : Except Fault Entries := do
  let headers ← headers.listed
  let widths ← widths.listed
  return ((metadata.put "headers" (.list headers)).put "cols" (.int headers.length)).put "columnWidths" (.list widths)

/-- An element with other columns if it is a subjects table, otherwise the element as it is. -/
def recolumn (headers widths element : Value) : Except Fault Value :=
  match element with
  | .mapping fields =>
    let fields : Entries := fields
    if (fields.get "type").isText "table" then
      match (fields.get "metadata").orElse (.mapping []) with
      | .mapping metadata =>
        let metadata : Entries := metadata
        if (metadata.get "tableType").isText "subjects" then do
          return .mapping (fields.put "metadata" (.mapping (← recolumnMetadata headers widths metadata)))
        else .ok element
      | _ => .error .missingAttribute
    else .ok element
  | _ => .error .missingAttribute

/-- The elements of a template with other columns in its subjects tables. -/
def recolumnAll (headers widths elements : Value) : Except Fault Value :=
  match elements with
  | .list items => (items.mapM (recolumn headers widths)).map .list
  | .tuple items => (items.mapM (recolumn headers widths)).map .tuple
  | .mapping [] | .text "" => .ok elements
  | .mapping _ | .text _ => .error .missingAttribute
  | _ => .error .wrongKind

/-- A template with the elements of the given one, but with other columns in its subjects tables, on the canvas of the
A4 sheet. -/
def withSubjectColumns (source : Value) (name description headers widths level : Value) : Except Fault Value :=
  match source with
  | .mapping es =>
    match es.lookup "elements" with
    | none => .error .missingKey
    | some elements => (recolumnAll headers widths elements).map (template name description level)
  | _ => .error .wrongKind

/-- The elements for primary schools. -/
def primaryElements : List Value :=
  reportCard ⟨"#1e40af", "#fbbf24", "#f1f5f9"⟩
    ⟨12, ["SUBJECTS", "1ST CA", "2ND CA", "EXAM", "TOTAL", "GRADE", "POS.", "HIGH", "LOW"],
      [120, 45, 45, 50, 50, 45, 40, 45, 45]⟩ .printed

/-- The elements for secondary schools. -/
def secondaryElements : List Value :=
  reportCard ⟨"#7c2d12", "#fef3c7", "#fef3c7"⟩
    ⟨15, ["SUBJECTS", "1ST CA", "2ND CA", "3RD CA", "EXAM", "TOTAL", "GRADE", "POS.", "HIGHEST", "REMARK"],
      [100, 42, 42, 42, 50, 48, 40, 35, 50, 70]⟩ .ticked

/-- The template for primary schools. -/
def primary : Value :=
  template "Primary School Report Card"
    "A colorful, easy-to-read template designed for primary school students (Primary 1-6)" "primary"
    (.list primaryElements)

/-- The template for secondary schools. -/
def secondary : Value :=
  template "Secondary School Report Card"
    "A professional, detailed template for secondary school students (JSS1-SS3)" "junior_secondary"
    (.list secondaryElements)

/-- The template for one term. -/
def firstTerm : Except Fault Value :=
  withSubjectColumns primary "Periodic (First Term Only)"
    "Standard report card for a single term without cumulative calculations"
    (texts ["SUBJECTS", "CA 1", "CA 2", "EXAM", "TOTAL", "GRADE", "REMARK"])
    (numbers [180, 60, 60, 70, 70, 50, 60]) "all"

/-- The template for two terms. -/
def midYear : Except Fault Value :=
  withSubjectColumns secondary "Cumulative (First & Second Term)"
    "Professional template with comparison between first and second term performance"
    (texts ["SUBJECTS", "1st TERM", "CA", "EXAM", "2nd TERM", "TOTAL", "AVG", "GRADE"])
    (numbers [140, 60, 50, 60, 60, 60, 60, 50]) "all"

/-- The template for a whole year. -/
def annual : Except Fault Value :=
  withSubjectColumns secondary "Full Academic Year (Annual)"
    "Comprehensive annual report with 1st, 2nd, and 3rd term cumulative performance"
    (texts ["SUBJECTS", "1st TERM", "2nd TERM", "3rd TERM", "ANNUAL AVG", "GRADE", "RESULT"])
    (numbers [160, 70, 70, 70, 90, 60, 70]) "all"

/-- The built-in templates. -/
def templates : List (Except Fault Value) := [.ok primary, .ok secondary, firstTerm, midYear, annual]

/-- The levels that use the template for primary schools. -/
def primaryLevels : List String := ["primary", "nursery", "kindergarten"]

/-- The template for a school level; a level that is given has to be a text. -/
def forLevel (level : Value) : Except Fault Value :=
  match level.orElse (.text "") with
  | .text s => .ok (if primaryLevels.contains (Text.lower (Text.trim s)) then primary else secondary)
  | _ => .error .missingAttribute

end ReportCard.Builtin
