import ReportCard.Fault
import ReportCard.Value.Basic

/-!
# Paths into values

`dig` follows a list of keys through mappings, lists and attributes.  It stops at the first null, and a null at the
end counts as missing too, while other empty values are found.  `reach` is `dig` along names alone, where nothing can
go wrong.
-/

namespace ReportCard

/-- One step of a path. -/
inductive Key where
  | name (s : String)
  | index (i : Int)
  /-- A key of another kind, under which nothing is found, or which cannot even be looked for. -/
  | other (isSearchable : Bool)
deriving Repr, DecidableEq

namespace Value

mutual

/-- Whether the value can be looked for as a key: what can change cannot. -/
def isSearchable : Value → Bool
  | list _ | mapping _ | object .. => false
  | tuple items => areSearchable items
  | _ => true

/-- Whether each of the values can be looked for as a key. -/
def areSearchable : List Value → Bool
  | [] => true
  | v :: vs => v.isSearchable && areSearchable vs

end

/-- The single items that a value lists: of a list its items, of a mapping its keys, of a text its characters. -/
def listed : Value → Except Fault (List Value)
  | list items | tuple items => .ok items
  | mapping entries => .ok (entries.map fun e => text e.1)
  | text s => .ok (s.toList.map fun c => text (String.singleton c))
  | _ => .error .wrongKind

/-- The parts of a whole number as a complex number and as a fraction. -/
def wholeAttributes (n : Int) : Entries :=
  [("real", int n), ("imag", int 0), ("numerator", int n), ("denominator", int 1)]

/-- The first day of the calendar. -/
def firstDay : Date := ⟨1, 1, 1⟩

/-- The last day of the calendar. -/
def lastDay : Date := ⟨9999, 12, 31⟩

/-- What a value that is no mapping holds under names: an object its attributes, a number its parts, and a day its
place in the calendar. -/
def attributes : Value → Entries
  | object es _ => es
  | bool b => wholeAttributes (if b then 1 else 0)
  | int n => wholeAttributes n
  | float x => [("real", float x), ("imag", float 0.0)]
  | decimal d => [("real", decimal d), ("imag", decimal (.finite false 0 0))]
  | date d => [("year", int d.year), ("month", int d.month), ("day", int d.day), ("min", date firstDay),
      ("max", date lastDay)]
  | _ => []

/-- What a value holds under a name, null if nothing. -/
def member (v : Value) (name : String) : Value :=
  match v with
  | mapping es => Entries.get es name
  | v => Entries.get v.attributes name

/-- The item at a position, counted from the end if it is negative, null if there is none. -/
def item (items : List Value) (i : Int) : Value :=
  let j := if i < 0 then i + items.length else i
  if j < 0 then null else (items[j.toNat]?).getD null

/-- One step into a value that is not null. -/
def step (v : Value) : Key → Except Fault Value
  | .name s => .ok (v.member s)
  | .index i =>
    match v with
    | mapping _ => .ok null
    | list items | tuple items => .ok (item items i)
    | _ => .error .wrongKind
  | .other isSearchable =>
    match v with
    | mapping _ => if isSearchable then .ok null else .error .wrongKind
    | _ => .error .wrongKind

/-- The value at the end of a path, or the default where something is missing. -/
def dig : Value → List Key → Value → Except Fault Value
  | v, [], default => .ok (v.orDefault default)
  | v, k :: rest, default => if v.isNull then .ok default else (v.step k).bind fun w => dig w rest default

/-- The value at the end of a path of names, null where something is missing. -/
def reach (v : Value) (names : List String) : Value :=
  names.foldl member v

end Value

/-- The key that a value is. -/
def Key.ofValue : Value → Key
  | .text s => name s
  | .int n => index n
  | .bool b => index (if b then 1 else 0)
  | v => other v.isSearchable

end ReportCard
