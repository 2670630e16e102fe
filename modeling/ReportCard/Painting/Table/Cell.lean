import ReportCard.Drawing.Basic
import ReportCard.Record.Display
import ReportCard.Value.Quantity

/-!
# The cells of tables

Where the text of a cell comes from.  In a table of subjects the header of a column tells what it shows: the subject,
the total, the grade, the remark, or else the first component score whose name matches.  In a table of ratings a column
either prints the rating or is one of several boxes to tick.
-/

namespace ReportCard.Table

/-- The text of a cell without a value. -/
def emptyCell : String := "-"

/-- The mark in a box that is ticked. -/
def checkmark : String := "✓"

/-- The text of a cell; only totals are bold. -/
structure Cell where
  text : String
  bold : Bool := false
deriving Repr, DecidableEq

/-- What names the component that a score belongs to. -/
def componentLabel (score : Entries) : Value :=
  ((Value.mapping score).reach ["component", "name"]).orDefault (.text "")

/-- The name of the component that a score belongs to, trimmed and in capitals, if it can be written. -/
def componentName (score : Entries) : String := Text.upper (Text.trim (componentLabel score).spelled)

/-- Whether a component belongs under a header: they are equal, or one is part of the other.  A header that is no text
is a list of names; what lists nothing, or does not list the component, is a fault. -/
def matchesHeader (header : Value) (name : String) : Except Fault Bool :=
  if name.isEmpty then .ok false
  else match header with
    | .text header => .ok (Text.contains header name || Text.contains name header)
    | header => do
      if (← header.listed).any (·.isText name) then return true else throw .wrongKind

/-- The text of a score, if it has one. -/
def scoreText (score : Entries) : Except Fault String :=
  let v := score.get "score"
  if v.isNull then .ok emptyCell else formatNumber v

/-- The mappings that a value of component scores lists; what cannot be listed is a fault. -/
def listedScores (scores : Value) : Except Fault (List Entries) :=
  if scores.isTruthy then
    match scores with
    | .list items | .tuple items => .ok (items.filterMap Value.entries?)
    | .mapping _ | .text _ => .ok []
    | _ => .error .wrongKind
  else .ok []

/-- The first component score that matches a header. -/
def matching? (header : Value) : List Entries → Except Fault (Option Entries)
  | [] => .ok none
  | e :: es => do
    let name ← (componentLabel e).written (componentName e)
    if ← matchesHeader header name then return some e else matching? header es

/-- The text of the first component score that matches a header. -/
def componentScore (header : Value) (scores : Value) : Except Fault String := do
  match ← matching? header (← listedScores scores) with
  | some score => scoreText score
  | none => return emptyCell

/-- The text of a value, or of an empty cell if it does not count as given. -/
def textOrEmpty (v : Value) : Except Fault String := formatNumber (v.orElse (.text emptyCell))

/-- The text of a header; one that does not count as given is empty. -/
def headerText (header : Value) : Except Fault String :=
  if header.isTruthy then
    match header with
    | .text s => .ok s
    | _ => .error .missingAttribute
  else .ok ""

/-- A cell of a table of subjects.  All but the name of the subject is only found in mappings. -/
def subjectCell (header : String) (column : Nat) (result : Value) : Except Fault Cell := do
  let header := Text.upper header
  if column = 0 || Text.contains header "SUBJECT" then
    return ⟨← formatNumber (result.reach ["subject", "name"]), false⟩
  let es : Entries ← (result.entries?.map .ok).getD (.error .missingAttribute)
  if header == "TOTAL" then
    let total := es.get "total"
    return ⟨← if total.isBlank then pure "0" else formatNumber total, true⟩
  else if header == "GRADE" then return ⟨← textOrEmpty (es.get "grade"), false⟩
  else if header == "REMARK" || header == "REMARKS" then return ⟨← textOrEmpty (es.get "remark"), false⟩
  else return ⟨← componentScore (.text header) (es.get "componentScores"), false⟩

/-- The text of a rating: the rating itself, or a mark in the box whose header it equals. -/
def ratingText (asBoxes : Bool) (header rating : Value) : Except Fault String :=
  if rating.isNull then .ok ""
  else (formatNumber rating).map fun printed =>
    if asBoxes then if header.isText printed then checkmark else "" else printed

/-- A cell of a table of ratings. -/
def traitCell (name header : String) (column : Nat) (ratings : Value) (cols : Nat) : Except Fault String :=
  if column = 0 then .ok name else ratingText (2 < cols) (.text header) (ratings.member name)

/-- A cell of a table of ratings whose parts may be anything: the name is shown as it is. -/
def looseTraitCell (name header : Value) (column : Nat) (ratings : Value) (cols : Quantity) : Except Fault Value := do
  if column = 0 then return name
  let rating ← ratings.dig [.ofValue name] .null
  return .text (← ratingText (Scalar.lt (.whole 2) (← cols.checked)) header rating)

end ReportCard.Table
