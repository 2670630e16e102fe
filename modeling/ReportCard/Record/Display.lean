import ReportCard.Record.Basic
import ReportCard.Value.Display
import ReportCard.Value.Number

/-!
# Texts of record values

How a value of a record is printed on the page: numbers in plain notation without grouping, whole doubles without a
fraction, and a fixed text where nothing is known.
-/

namespace ReportCard

/-- The text for what is not known. -/
def notAvailable : String := "N/A"

/-- The printed text of a value, if it can be written.  The whole part of a double never has too many digits. -/
def Value.printed : Value → String
  | .null => ""
  | .bool b => if b then "true" else "false"
  | .float x =>
    match Exact.ofFloat x with
    | .finite negative m e =>
      if Exact.isWholeNat m e then toString (Exact.signed negative (Exact.floorNat m e)) else floatText x
    | _ => floatText x
  | .decimal d => d.plain
  | v => v.spelled

/-- The printed text of a value. -/
def formatNumber (v : Value) : Except Fault String := v.written v.printed

/-- The attribute under which an object says how it is printed as a day. -/
def dayPrinter : String := "strftime"

/-- The printed text of a day, or of whatever stands in its place.  What an object holds to be printed as a day is a
plain value, with which nothing can be printed. -/
def formatDate : Value → Except Fault String
  | .date d => .ok d.dayFirst
  | .object attributes present =>
    if Entries.has attributes dayPrinter then .error .wrongKind else (Value.object attributes present).display
  | v => v.display

/-- The printed text of a value, or the text for what is not known. -/
def orNotAvailable (v : Value) : Except Fault String := if v.isBlank then .ok notAvailable else formatNumber v

/-- Whether the value equals the number zero. -/
def Value.equalsZero : Value → Except Fault Bool
  | .bool b => .ok !b
  | .int n => .ok (n == 0)
  | .float x => .ok (x == 0.0)
  | .decimal (.notANumber _ true _) => .error .unorderedNumber
  | .decimal d => .ok d.isZero
  | _ => .ok false

end ReportCard
