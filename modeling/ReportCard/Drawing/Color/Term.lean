import ReportCard.Drawing.Color.Paint

/-!
# Color terms

A small language in which a color can be written too: numbers, texts and collections, names of colors, and functions
applied to terms.  Some terms are literals, which stand for a paint whatever names and functions mean.
-/

namespace ReportCard.Color

/-- A term: what it says, not what it stands for. -/
inductive Term where
  /-- A number, a text, a truth value or nothing. -/
  | constant (p : Paint)
  | name (s : String)
  | list (items : List Term)
  | tuple (items : List Term)
  | set (items : List Term)
  | mapping (entries : List (Term × Term))
  /-- A term with a sign before it. -/
  | signed (negative : Bool) (t : Term)
  /-- The sum of two terms, or their difference. -/
  | sum (negative : Bool) (left right : Term)
  /-- A function with arguments, first those that are told by their place, then those that are told by a name. -/
  | apply (head : String) (placed : List Term) (labelled : List (String × Term))
  /-- A term that is well-formed but stands for nothing, perhaps because of an operation that there is not. -/
  | other (isOperation : Bool)
deriving Inhabited

namespace Term

/-- The words for constants. -/
def constant? (s : String) : Option Paint :=
  [("None", Paint.nothing), ("True", .plain (.bool true)), ("False", .plain (.bool false))].lookup s

/-- The number that a term is. -/
def number? : Term → Option Paint
  | .constant (.plain (.int n)) => some (.plain (.int n))
  | .constant (.plain (.float x)) => some (.plain (.float x))
  | .constant (.complex re im) => some (.complex re im)
  | _ => none

/-- A number or a truth value with a sign before it; other paints have none. -/
def withSign? (negative : Bool) : Paint → Option Paint
  | .plain (.bool b) => some (.plain (.int (if !b then 0 else if negative then -1 else 1)))
  | .plain (.int n) => some (.plain (.int (if negative then -n else n)))
  | .plain (.float x) => some (.plain (.float (if negative then -x else x)))
  | .complex re im => some (if negative then .complex (-re) (-im) else .complex re im)
  | _ => none

/-- The number that a term is, perhaps with a sign. -/
def signedNumber? : Term → Option Paint
  | .signed negative t => (number? t).bind (withSign? negative)
  | t => number? t

/-- A reading that is certain. -/
def certain (p : Option Paint) : Reading Paint := OptionT.mk (.ok p)

/-- A reading that stops at a fault. -/
def stop (fault : Fault) : Reading Paint := OptionT.mk (.error fault)

/-- A sum, which only may be of a real number and an imaginary one. -/
def literalSum (negative : Bool) (left right : Term) : Reading Paint :=
  match signedNumber? left, number? right with
  | some (.plain v), some (.complex _ im) => do return .complex (← v.asFloat) (if negative then -im else im)
  | _, _ => failure

/-- A paint that can be looked up. -/
def asKey (p : Paint) : Except Fault Paint := if p.isKey then .ok p else .error .wrongKind

mutual

/-- What a term stands for in which nothing has to be looked up.  The items of a set are kept as keys. -/
def literal : Term → Reading Paint
  | .constant p => certain (some p)
  | .list ts => return .list (← literals ts)
  | .tuple ts => return .tuple (← literals ts)
  | .set ts => return .mapping (← literalKeys ts)
  | .mapping es => return .mapping (← literalEntries [] es)
  | .sum negative left right => literalSum negative left right
  | t => certain (signedNumber? t)

/-- What terms stand for. -/
def literals : List Term → Reading (List Paint)
  | [] => return []
  | t :: ts => return (← literal t) :: (← literals ts)

/-- The items of a set. -/
def literalKeys : List Term → Reading (List (Paint × Paint))
  | [] => return []
  | t :: ts => do
    let p ← asKey (← literal t)
    return (p, p) :: (← literalKeys ts)

/-- The entries of a mapping, after those that have been read. -/
def literalEntries (before : List (Paint × Paint)) : List (Term × Term) → Reading (List (Paint × Paint))
  | [] => return before
  | (k, t) :: es => do
    let k ← literal k
    let p ← literal t
    literalEntries (Paint.put before (← asKey k) p) es

end

end Term

end ReportCard.Color
