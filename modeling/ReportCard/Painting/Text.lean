import ReportCard.Drawing.Basic
import ReportCard.Record.Field

/-!
# Texts and dynamic fields

Text is painted in lines from the top of the element's box.  A dynamic element paints the text that its field has in a
record.
-/

namespace ReportCard.Element

variable {α : Type} [Scalar α]

/-- The font size of an element, twelve points if it gives none. -/
def textSize (e : Element α) : α := Scalar.orElse e.style.fontSize (Scalar.ofNat 12)

/-- Paints a text in the box of an element; an empty text paints nothing. -/
def paintContent (e : Element α) (content : String) : Script (Drawing α) :=
  if content.isEmpty then .done
  else .tryIt e.style.face fun face =>
    Drawing.isolated <| .act <| .textBox (.text content) e.box.x e.box.y e.box.width
      { fontName := .text face.name, fontSize := e.textSize, color := .text (e.style.color.getD "#000000") }
      (.text e.style.textAlign)

/-- Paints the text that an element holds itself. -/
def paintText (e : Element α) : Script (Drawing α) := e.paintContent (e.content.getD "")

/-- A text as a value, null if it is missing. -/
def valueOf (s : Option String) : Value := (s.map .text).getD .null

/-- Paints the text of an element's field. -/
def paintDynamic (e : Element α) (r : Record) : Script (Drawing α) :=
  let field := valueOf e.metadata.field
  .tryIt (Field.resolveSymbol r field (valueOf e.metadata.displayType)) fun content =>
    .seq (.when content.isEmpty <|
        .note ⟨.debug, "Dynamic field " ++ field.literal ++ " resolved to an empty value.", none⟩)
      (e.paintContent content)

end ReportCard.Element
