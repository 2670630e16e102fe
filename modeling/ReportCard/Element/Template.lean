import ReportCard.Element.Basic
import ReportCard.Note

/-!
# Templates

A template is a mapping with a list of elements, or a wrapper whose content is such a mapping.  The elements are read
in the order in which they are painted; items that are no mappings are dropped with a note.
-/

namespace ReportCard

/-- The width and the height of an area. -/
structure Size (α : Type) where
  width : α
  height : α
deriving Repr

/-- The size with its lengths in another type. -/
def Size.map {α β : Type} (f : α → β) (s : Size α) : Size β := ⟨f s.width, f s.height⟩

namespace Template

/-- The entries of a template. -/
def entries (template : Value) : Except Fault Entries :=
  match template.entries? with
  | some es => .ok es
  | none => .error (.notATemplate template.kind)

/-- The mapping that holds the elements: the content of a wrapper, otherwise the template itself. -/
def body (es : Entries) : Entries :=
  match (es.get "content").entries? with
  | some inner => if inner.has "elements" then inner else es
  | none => es

/-- Reads elements from position `i` on, up to the first that cannot be read. -/
def readFrom (i : Nat) : List Value → List Note × Except Fault (List (Element Float))
  | [] => ([], .ok [])
  | v :: vs =>
    match Element.ofValue? v with
    | .error fault => ([], .error fault)
    | .ok none =>
      let (notes, result) := readFrom (i + 1) vs
      (⟨.debug, "Skipping template element " ++ toString i ++ ": not a mapping.", none⟩ :: notes, result)
    | .ok (some element) =>
      let (notes, result) := readFrom (i + 1) vs
      (notes, result.map (element :: ·))

/-- The elements of a template, with the notes on what was dropped. -/
def elements (template : Value) : List Note × Except Fault (List (Element Float)) :=
  match entries template with
  | .error fault => ([], .error fault)
  | .ok es =>
    match ((body es).get "elements").items? with
    | some items => readFrom 0 items
    | none => ([⟨.warning, "Template has no elements list; nothing will be rendered.", none⟩], .ok [])

/-- The canvas size at a layer of a template, if both of its dimensions are positive. -/
def sizeAt (es : Entries) : Except Fault (Option (Size Float)) :=
  match (es.get "canvasSize").entries? with
  | none => .ok none
  | some size => do
    let width ← (size.get "width").number?
    let height ← (size.get "height").number?
    match width, height with
    | some w, some h => return if w > 0.0 && h > 0.0 then some ⟨w, h⟩ else none
    | _, _ => return none

/-- The size of the canvas that a template was made for, from its body or else from the wrapper. -/
def canvasSize (template : Value) : Except Fault (Option (Size Float)) := do
  let es ← entries template
  match ← sizeAt (body es) with
  | some size => return some size
  | none => sizeAt es

end Template

end ReportCard
