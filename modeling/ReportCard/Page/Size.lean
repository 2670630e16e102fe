import ReportCard.Element.Template
import ReportCard.Number.Scalar
import ReportCard.Text.Case

/-!
# Page sizes

The standard sheets by name, and the size of the page that a setting asks for: a sheet, or two positive numbers.  The
size comes upright or lying, whichever way round the setting gives it.
-/

namespace ReportCard.PageSize

/-- A millimetre in points. -/
def millimetre : Float := 2.834645669291339

/-- An inch in points. -/
def inch : Float := 72.0

/-- The sheets of a series, numbered from zero on, in millimetres. -/
def series (letter : String) (sides : List (Nat × Nat)) : List (String × Size Float) :=
  (List.range sides.length).zip sides |>.map fun (i, w, h) =>
    (letter ++ toString i, ⟨Float.ofNat w * millimetre, Float.ofNat h * millimetre⟩)

/-- A sheet in inches. -/
def inches (name : String) (width height : Float) : String × Size Float :=
  (name, ⟨width * inch, height * inch⟩)

/-- The sheets by name. -/
def sheets : List (String × Size Float) :=
  series "A" [(841, 1189), (594, 841), (420, 594), (297, 420), (210, 297), (148, 210), (105, 148), (74, 105),
    (52, 74), (37, 52), (26, 37)] ++
  series "B" [(1000, 1414), (707, 1000), (500, 707), (353, 500), (250, 353), (176, 250), (125, 176), (88, 125),
    (62, 88), (44, 62), (31, 44)] ++
  series "C" [(917, 1297), (648, 917), (458, 648), (324, 458), (229, 324), (162, 229), (114, 162), (81, 114),
    (57, 81), (40, 57), (28, 40)] ++
  [inches "LETTER" 8.5 11.0, inches "LEGAL" 8.5 14.0, inches "ELEVENSEVENTEEN" 11.0 17.0,
    inches "TABLOID" 11.0 17.0, inches "JUNIOR_LEGAL" 5.0 8.0, inches "HALF_LETTER" 5.5 8.0,
    inches "GOV_LETTER" 8.0 10.5, inches "GOV_LEGAL" 8.5 13.0, inches "LEDGER" 17.0 11.0]

/-- The sheet with a name, in letters of either case. -/
def sheet? (name : String) : Option (Size Float) := sheets.lookup (Text.upper name)

/-- The upright sheet that pages have unless a setting says otherwise. -/
def a4 : Size Float := ⟨210.0 * millimetre, 297.0 * millimetre⟩

/-- The values that a setting lists: the items of a list, the keys of a mapping. -/
def listed? (v : Value) : Option (List Value) :=
  match v with
  | .mapping es => some (es.map fun e => .text e.1)
  | v => v.items?

/-- Replaces every fault but that of a number out of range. -/
def relabel {β : Type} (fault : Fault) : Except Fault β → Except Fault β
  | .ok b => .ok b
  | .error f => .error (if f = .numberTooLarge then f else fault)

/-- The two numbers that a setting gives, or the fault; the item after the second one is still read as a number. -/
def pair (setting : Value) : Except Fault (Size Float) :=
  let invalid := setting.told .invalidPageSize
  match listed? setting with
  | none => .error invalid
  | some items => do
    let numbers ← relabel invalid ((items.take 3).mapM Value.asFloat)
    match numbers with
    | [w, h] => return ⟨w, h⟩
    | _ => throw invalid

/-- The dimensions that a setting gives, before they are turned. -/
def dimensions (setting : Value) : Except Fault (Size Float) :=
  match setting with
  | .text name => ((sheet? name).map .ok).getD (.error (setting.told .invalidPageSize))
  | v => pair v

variable {α : Type} [Scalar α]

/-- Turns a size so that it lies. -/
def lying (s : Size α) : Size α := if Scalar.lt s.width s.height then ⟨s.height, s.width⟩ else s

/-- Turns a size so that it stands. -/
def upright (s : Size α) : Size α := if Scalar.le s.height s.width then ⟨s.height, s.width⟩ else s

/-- The size of the page that a setting asks for. -/
def ofSetting (setting : Value) (landscape : Bool) : Except Fault (Size Float) := do
  let size ← dimensions setting
  if size.width ≤ 0.0 || size.height ≤ 0.0 then throw (setting.told .emptyPageSize)
  return if landscape then lying size else upright size

end ReportCard.PageSize
