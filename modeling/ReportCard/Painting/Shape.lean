import ReportCard.Drawing.Basic

/-!
# Shapes and lines

A shape is a filled box with a border.  A line is a shape too: it has a rule along its lower edge, written as a width,
a word for the kind of rule, and a color.
-/

namespace ReportCard

/-- A rule along the lower edge of a box. -/
structure BottomRule where
  width : Nat
  kind : String
  color : String
deriving Repr, DecidableEq

namespace BottomRule

/-- The width that a word begins with; digits without a place value, or too many of them, are a fault. -/
def width? (word : String) : Except Fault Nat :=
  let digits := String.ofList (word.toList.takeWhile Text.isDigit)
  if digits.isEmpty then .ok 0 else (wholeOfText digits).map Int.toNat

/-- The rule that a text describes: at least one point wide, solid and black where it says nothing else. -/
def ofText (s : String) : Except Fault BottomRule :=
  let words := Text.words s
  (width? (words[0]?.getD "")).map fun width =>
    ⟨if width = 0 then 1 else width, words[1]?.getD "solid", words[2]?.getD "#000000"⟩

end BottomRule

namespace Element

variable {α : Type} [Scalar α]

/-- The length if it is given and not zero. -/
def nonzero? (x : Option α) : Option α := x.filter fun x => !Scalar.eq x Scalar.zero

/-- The edge of a shape: a border if it has a color and a width, otherwise the rule below. -/
def edge (e : Element α) : Script (Drawing α) :=
  let b := e.box
  match e.style.borderColor, nonzero? e.style.borderWidth with
  | some color, some width => .act (.strokeRect b (.text color) width none)
  | _, _ =>
    match e.style.borderBottom with
    | none => .done
    | some rule => .tryIt (BottomRule.ofText rule) fun r =>
      .act (.line b.x (b.y + b.height) (b.x + b.width) (b.y + b.height) (.text r.color) (Scalar.ofNat r.width))

/-- Paints a shape: the background, then the edge. -/
def paintShape (e : Element α) : Script (Drawing α) :=
  Drawing.isolated <| .seq
    (match e.style.backgroundColor with
      | some color => .act (.fillRect e.box (.text color))
      | none => .done)
    e.edge

end Element

end ReportCard
