import ReportCard.Record.Basic
import ReportCard.Text.Case
import ReportCard.Value.Display

/-!
# Image sources

Where the images of a record are found: an image field names an address on the web or a path on the site.
-/

namespace ReportCard

namespace Record

/-- The value of an image field in a record. -/
def imageValue (r : Record) : String → Value
  | "school_logo" => r.school.get "logo"
  | "student_photo" => (find r.student ["user", "image"]).orElse (find r.student ["user", "profileImage"])
  | "school_stamp" => r.school.get "stamp"
  | "principal_signature" => r.school.get "principalSignature"
  | _ => .null

/-- The value of an image field that may be missing, null unless it counts as given. -/
def imageOrNull (r : Record) (field : Option String) : Value := ((field.map r.imageValue).getD .null).orElse .null

/-- The text of an image field without the blanks around it, if the record gives one that can be written. -/
def sourceText (r : Record) (field : Option String) : Option String := (r.imageOrNull field).trimmed?

/-- The source of an image field, if the record gives one. -/
def imageSource (r : Record) (field : Option String) : Except Fault (Option String) :=
  (r.imageOrNull field).written (r.sourceText field)

end Record

/-- Whether a source is an address on the web. -/
def isRemote (source : String) : Bool :=
  let s := Text.lower source
  s.startsWith "http://" || s.startsWith "https://"

end ReportCard
