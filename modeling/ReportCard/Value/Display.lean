import ReportCard.Fault
import ReportCard.Value.Basic

/-!
# The text of a value

`Value.display` is the text that is painted for a value; `Value.literal` is the form that also tells the kinds of
values apart and stands inside lists and mappings.  A whole number has as many digits as it needs, but with too many of
them it cannot be written, and neither can anything that it is in: `Value.isWritable` says which values can.
-/

namespace ReportCard

/-- A number padded with zeros to a width. -/
def padded (width n : Nat) : String :=
  let ds := Digits.ofNat n
  String.ofList (List.replicate (width - ds.length) '0' ++ ds)

namespace Date

/-- Year, month and day with hyphens. -/
def iso (d : Date) : String := padded 4 d.year ++ "-" ++ padded 2 d.month ++ "-" ++ padded 2 d.day

/-- Day, month and year with slashes. -/
def dayFirst (d : Date) : String := padded 2 d.day ++ "/" ++ padded 2 d.month ++ "/" ++ toString d.year

end Date

namespace Value

/-- The text of a truth value. -/
def boolText (b : Bool) : String := if b then "True" else "False"

mutual

/-- The form of a value that tells its kind, if it can be written. -/
def literal : Value → String
  | null => "None"
  | bool b => boolText b
  | int n => toString n
  | float x => floatText x
  | decimal d => "Decimal('" ++ d.text ++ "')"
  | date d => "datetime.date(" ++ toString d.year ++ ", " ++ toString d.month ++ ", " ++ toString d.day ++ ")"
  | text s => Text.quoted s
  | list items => "[" ++ Text.joinWith ", " (literals items) ++ "]"
  | tuple items =>
    match literals items with
    | [only] => "(" ++ only ++ ",)"
    | several => "(" ++ Text.joinWith ", " several ++ ")"
  | mapping entries => "\x7b" ++ Text.joinWith ", " (entryLiterals entries) ++ "\x7d"
  | object attributes _ => "namespace(" ++ Text.joinWith ", " (attributeLiterals attributes) ++ ")"

/-- The literals of the items of a list. -/
def literals : List Value → List String
  | [] => []
  | v :: vs => literal v :: literals vs

/-- The literals of the entries of a mapping. -/
def entryLiterals : List (String × Value) → List String
  | [] => []
  | (k, v) :: es => (Text.quoted k ++ ": " ++ literal v) :: entryLiterals es

/-- The literals of the attributes of an object. -/
def attributeLiterals : List (String × Value) → List String
  | [] => []
  | (k, v) :: es => (k ++ "=" ++ literal v) :: attributeLiterals es

end

/-- The text of a value, if it can be written. -/
def spelled : Value → String
  | text s => s
  | date d => d.iso
  | decimal d => d.text
  | v => literal v

/-! ### Digits -/

/-- The least whole number with more digits than are written, which is the least with more than are read. -/
@[irreducible]
def wholeBound : Nat := Nat.pow 10 Numeral.maxDigits

mutual

/-- Whether the value can be written: no whole number in it has too many digits. -/
def isWritable : Value → Bool
  | int n => decide (n.natAbs < wholeBound)
  | date d => decide (d.year < wholeBound ∧ d.month < wholeBound ∧ d.day < wholeBound)
  | list items | tuple items => areWritable items
  | mapping entries | object entries _ => holdWritable entries
  | _ => true

/-- Whether each of the values can be written. -/
def areWritable : List Value → Bool
  | [] => true
  | v :: vs => v.isWritable && areWritable vs

/-- Whether the values of entries can be written. -/
def holdWritable : List (String × Value) → Bool
  | [] => true
  | (_, v) :: es => v.isWritable && holdWritable es

end

/-- What is made of the text of a value, unless the value cannot be written. -/
def written {β : Type} (v : Value) (b : β) : Except Fault β := if v.isWritable then .ok b else .error .numberTooLong

/-- A fault that is worded with the form of a value, unless the value cannot be written. -/
def told (v : Value) (wording : String → Fault) : Fault :=
  if v.isWritable then wording v.literal else .numberTooLong

/-- The text of a value. -/
def display (v : Value) : Except Fault String := v.written v.spelled

/-- The text of a value, if it is not null. -/
def display? (v : Value) : Except Fault (Option String) := v.written (if v.isNull then none else some v.spelled)

/-- The text of a value without the blanks around it, if it is not null and something is left. -/
def trimmed? (v : Value) : Option String :=
  if v.isNull then none
  else
    let s := Text.trim v.spelled
    if s.isEmpty then none else some s

/-- The text of a value without the blanks around it, if the value is not null and something is left. -/
def displayTrimmed? (v : Value) : Except Fault (Option String) := v.written v.trimmed?

end Value

end ReportCard
