import ReportCard.Drawing.Color.Grammar
import ReportCard.Drawing.Color.Operation
import ReportCard.Note

/-!
# Written colors

The paint that a text or a value writes: a color function, a name, a color on its way to black or white, a literal, a
term with names and operations, or a number, whichever comes first.  What writes nothing is painted in the default
color, with a warning; arguments that do not fit an operation and rows that are not the parts of a color are faults.
-/

namespace ReportCard.Color

/-- A number in a row of parts of a color. -/
def rowPart (p : Paint) : Except Fault Quantity :=
  match p.quantity with
  | .decimal (.notANumber ..) => .error .unorderedNumber
  | q => q.checked

/-- Whether paints can be put in order: numbers can, and so can texts. -/
def areOrdered (ps : List Paint) : Bool :=
  ps.length ≤ 1 || ps.all (·.quantity.isNumber) || ps.all fun
    | .plain (.text _) => true
    | _ => false

/-- The color of a row: its three parts, or its four inks.  Colors are no parts of it, since they come before all
numbers. -/
def ofRow (items : List Paint) : Except Fault Color := do
  if items.length < 3 || 4 < items.length then throw .invalidColor
  let front := items.takeWhile fun p => !p.isColor
  if front.length < items.length then throw (if areOrdered front then .invalidColor else .wrongKind)
  match ← items.mapM rowPart with
  | q :: qs =>
    if Scalar.le (.whole 0) (Quantity.least q qs) && Scalar.le (Quantity.greatest q qs) (.whole 1) then
      match q, qs with
      | r, [g, b] => return { red := r, green := g, blue := b }
      | c, [m, y, k] => ofInks { bare with cyan := c, magenta := m, yellow := y, key := k } (.whole 1)
      | _, _ => throw .invalidColor
    else throw .invalidColor
  | [] => throw .invalidColor

/-- The paint that a paint stands for as a color, given what texts stand for. -/
def ofPaintBy (text : String → Reading Paint) : Paint → Reading Paint
  | .color c => return .color c
  | .list ps | .tuple ps => Operation.answerColor (ofRow ps)
  | .plain (.text s) => text s
  | .bytes s => do text (← Operation.decoded s)
  | .plain (.bool b) => return .color (ofInt (if b then 1 else 0))
  | .plain (.int n) => return .color (ofInt n)
  | _ => failure

/-! ### Terms -/

/-- How many signs a term may have on each other. -/
def maxSigns : Nat := 985

/-- How many signs a term has on each other. -/
def Term.signs : Term → Nat
  | .signed _ t => t.signs + 1
  | _ => 0

/-- Whether a term may have a sign before it: names, functions and collections have none. -/
def Term.isSignable : Term → Bool
  | .constant _ | .signed .. | .sum .. | .other true => true
  | _ => false

/-- A paint with a sign before it, which only numbers and truth values have. -/
def withSign (negative : Bool) (p : Paint) : Reading Paint :=
  match Term.withSign? negative p with
  | some p => return p
  | none => Term.stop .wrongKind

/-- The sum with a term, which there is never one of: it stops, or is none. -/
def sumWith : Term → Reading Paint
  | .signed .. | .sum .. | .other true => Term.stop .missingAttribute
  | .constant (.complex ..) => Term.stop .unboundName
  | _ => failure

mutual

/-- What a term stands for, given what color a paint is. -/
def Term.eval (color : Paint → Reading Paint) : Term → Reading Paint
  | .constant p => return p
  | .name s => Term.certain ((Term.constant? s).or ((named? s).map .color))
  | .list ts => return .list (← Term.evalAll color ts)
  | .tuple ts => return .tuple (← Term.evalAll color ts)
  | .mapping es => return .mapping (← Term.evalEntries color [] es)
  | .signed negative t =>
    if !t.isSignable then failure
    else if maxSigns ≤ t.signs then Term.stop .tooDeep
    else do withSign negative (← Term.eval color t)
  | .sum _ _ right => sumWith right
  | .apply head placed labelled =>
    match (Operation.byName color).lookup head with
    | some operation => do
      operation.apply (← Term.evalAll color placed) (← Term.evalLabelled color labelled)
    | none => failure
  | .set _ | .other _ => failure

/-- What terms stand for. -/
def Term.evalAll (color : Paint → Reading Paint) : List Term → Reading (List Paint)
  | [] => return []
  | t :: ts => return (← Term.eval color t) :: (← Term.evalAll color ts)

/-- What terms with labels stand for. -/
def Term.evalLabelled (color : Paint → Reading Paint) : List (String × Term) → Reading (List (String × Paint))
  | [] => return []
  | (label, t) :: ts => return (label, ← Term.eval color t) :: (← Term.evalLabelled color ts)

/-- The entries of a mapping, after those that have been read. -/
def Term.evalEntries (color : Paint → Reading Paint) (before : List (Paint × Paint)) :
    List (Term × Term) → Reading (List (Paint × Paint))
  | [] => return before
  | (k, t) :: es => do
    let k ← Term.eval color k
    let p ← Term.eval color t
    Term.evalEntries color (Paint.put before (← Term.asKey k) p) es

end

/-! ### Texts -/

/-- Whether a character may stand in the word for a color that is mixed with black or white. -/
def isWordPart (c : Char) : Bool := Token.isNamePart c || (Text.plainForm? c).isSome

/-- The word and the place of a color on its way to black or white.  What follows the closing bracket is ignored. -/
def wayParts? (head : String) (s : String) : Option (String × Float) := do
  let cs ← (head ++ "(").toList.isPrefixOf? s.toList
  let word := cs.takeWhile isWordPart
  match cs.dropWhile isWordPart with
  | ',' :: rest =>
    let rest := if (rest.head?.map Text.isBlank).getD false then rest.tail else rest
    let inNumber (c : Char) : Bool := c.isDigit || c == '.'
    if word.isEmpty || (rest.dropWhile inNumber).head? != some ')' then none
    else
      let place ← Numeral.float? (String.ofList (rest.takeWhile inNumber))
      return (String.ofList word, place)
  | _ => none

/-- The color on the way to black or white that a text begins with. -/
def ofWay (color : Paint → Reading Paint) (s : String) : Reading Paint :=
  let way (head : String) (target : Color → Except Fault Color) : Reading Paint := do
    let (word, place) ← OptionT.mk (.ok (wayParts? head s))
    Paint.towards target (← color (← color (.plain (.text word)))) (.plain (.float place))
  way "Blacker" blackFor <|> way "Whiter" whiteFor

/-- The color of the literal that a text is. -/
def ofLiteral (color : Paint → Reading Paint) (s : String) : Reading Paint := do
  let body := s.toList.dropWhile fun c => c == ' ' || c == '\t'
  color (← (← OptionT.mk (.ok (Term.ofText? (String.ofList body)))).literal)

/-- What the term that a text is stands for. -/
def ofTerm (color : Paint → Reading Paint) (s : String) : Reading Paint := do
  Term.eval color (← OptionT.mk (.ok (Term.ofText? s)))

/-- The paint that a text writes, if texts are quoted in it at most `depth` times within each other. -/
def ofTextWithin : Nat → String → Reading Paint
  | 0, _ => failure
  | depth + 1, s =>
    let color := ofPaintBy (ofTextWithin depth)
    match ofFunction? s, ofName? s with
    | some c, _ => Term.certain (c.map .color)
    | none, some c => return .color c
    | none, none =>
      ofWay color s <|> ofLiteral color s <|> ofTerm color s <|>
        Term.certain ((Operation.numeral? false s).map fun n => .color (ofInt n))

/-- The paint that a text writes.  A text is longer than those quoted in it. -/
def ofText (s : String) : Reading Paint := ofTextWithin (s.length + 1) s

/-- The paint that a value writes. -/
def ofValue (v : Value) : Reading Paint := ofPaintBy ofText (.ofValue v)

/-- The paint to draw with: the one that a value writes, or the default where none is given or none can be made
out. -/
def resolve (v : Value) (default : Paint) : Except Fault (List Note × Paint) := do
  if !v.isTruthy then return ([], default)
  match ← (ofValue v).run with
  | some p => return ([], p)
  | none =>
    let shown ← default.literal
    return ([⟨.warning, "Unrecognised color " ++ v.literal ++ ", falling back to " ++ shown ++ ".", none⟩], default)

end ReportCard.Color
