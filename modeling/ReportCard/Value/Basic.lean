import ReportCard.Number.Decimal

/-!
# Values

The loosely typed data that templates, academic records and settings are made of.  Mappings keep the order of their
entries; an object has attributes, but is no mapping.
-/

namespace ReportCard

/-- A day of the calendar. -/
structure Date where
  year : Nat
  month : Nat
  day : Nat
deriving Repr, DecidableEq

/-- A value of a template, a record or a setting. -/
inductive Value where
  | null
  | bool (b : Bool)
  | int (n : Int)
  | float (x : Float)
  | decimal (d : Decimal)
  | date (d : Date)
  | text (s : String)
  | list (items : List Value)
  | tuple (items : List Value)
  | mapping (entries : List (String × Value))
  /-- Something with named attributes; `present` tells whether it counts as a value at all. -/
  | object (attributes : List (String × Value)) (present : Bool)
deriving Inhabited

/-- The entries of a mapping, in order. -/
abbrev Entries := List (String × Value)

namespace Value

/-- Whether the value is the null value. -/
def isNull : Value → Bool
  | null => true
  | _ => false

/-- Whether the value counts as given: not null, false, zero or empty. -/
def isTruthy : Value → Bool
  | null => false
  | bool b => b
  | int n => n != 0
  | float x => x != 0.0
  | decimal d => !d.isZero
  | date _ => true
  | text s => !s.isEmpty
  | list items | tuple items => !items.isEmpty
  | mapping entries => !entries.isEmpty
  | object _ present => present

/-- The value unless it is null. -/
def orDefault (v default : Value) : Value :=
  if v.isNull then default else v

/-- The first value that counts as given, or else the second. -/
def orElse (v w : Value) : Value :=
  if v.isTruthy then v else w

/-- Whether the value is the given text. -/
def isText (v : Value) (s : String) : Bool :=
  match v with
  | text t => t == s
  | _ => false

/-- Whether the value is null or the empty text. -/
def isBlank (v : Value) : Bool := v.isNull || v.isText ""

/-- The entries of a mapping. -/
def entries? : Value → Option Entries
  | mapping es => some es
  | _ => none

/-- The items of a list or a tuple. -/
def items? : Value → Option (List Value)
  | list items | tuple items => some items
  | _ => none

/-- What a value is called in messages. -/
def kind : Value → String
  | null => "NoneType"
  | bool _ => "bool"
  | int _ => "int"
  | float _ => "float"
  | decimal _ => "Decimal"
  | date _ => "date"
  | text _ => "str"
  | list _ => "list"
  | tuple _ => "tuple"
  | mapping _ => "dict"
  | object .. => "SimpleNamespace"

/-- What a value is called together with where its kind belongs. -/
def fullKind : Value → String
  | decimal _ => "decimal.Decimal"
  | date _ => "datetime.date"
  | object .. => "types.SimpleNamespace"
  | v => v.kind

/-- The text that a value is, if it is one. -/
def text? : Value → Option String
  | text s => some s
  | _ => none

end Value

namespace Entries

/-- The value at a key, null if there is none. -/
def get (es : Entries) (key : String) : Value := (es.lookup key).getD .null

/-- Whether there is an entry with the key. -/
def has (es : Entries) (key : String) : Bool := (es.lookup key).isSome

/-- Writes a value at a key: in place if the key is there, otherwise at the end. -/
def put (es : Entries) (key : String) (v : Value) : Entries :=
  if es.has key then es.map fun e => if e.1 == key then (key, v) else e else es ++ [(key, v)]

/-- Removes every entry with the key. -/
def erase (es : Entries) (key : String) : Entries := es.filter (·.1 != key)

end Entries

end ReportCard
