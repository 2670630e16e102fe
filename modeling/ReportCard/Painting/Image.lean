import ReportCard.Drawing.Basic
import ReportCard.Image.Source

/-!
# Images

An image that cannot be loaded or drawn is replaced by a box that says so, and a missing one by a placeholder if the
element asks for that.
-/

namespace ReportCard

namespace Element

variable {α : Type} [Scalar α]

/-- The lettering of captions. -/
def captionLettering (scale : α) : Lettering α := { fontSize := Scalar.ofNat 8 * scale, color := .text "#94a3b8" }

/-- Paints the box that stands for an image that failed. -/
def paintImageError (e : Element α) (scale : α) : Script (Drawing α) :=
  let b := e.box
  Drawing.isolated <| .acts [
    .strokeRect b (.text "#e5e7eb") (Scalar.ofNat 1) none,
    .textCell (.text "Image Error") ⟨b.x + Scalar.ofNat 5, b.y, b.width - Scalar.ofNat 10, b.height⟩
      (captionLettering scale)]

/-- The caption of a placeholder: the field in capitals, with spaces. -/
def placeholderCaption (e : Element α) : String :=
  Text.upper (String.ofList ((e.metadata.field.getD "").toList.map fun c => if c == '_' then ' ' else c))

/-- Paints the dashed box that stands for an image that is missing. -/
def paintPlaceholder (e : Element α) (scale : α) : Script (Drawing α) :=
  Drawing.isolated <| .acts [
    .strokeRect e.box (.text "#cbd5e1") (Scalar.ofNat 1) (some [Scalar.ofNat 5, Scalar.ofNat 2]),
    .textCell (.text e.placeholderCaption) e.box (captionLettering scale)]

/-- A field as it stands in notes. -/
def fieldText (e : Element α) : String := e.metadata.field.getD "None"

/-- Paints an image that was loaded, or the box for failures if drawing it fails. -/
def paintLoaded (e : Element α) (source : String) (data : ImageData) (scale : α) : Script (Drawing α) :=
  .recover (Drawing.isolated (.act (.image data e.box))) fun _ =>
    .seq (.note ⟨.warning, "Failed to draw image " ++ e.fieldText ++ " from " ++ Text.quoted source, none⟩)
      (e.paintImageError scale)

/-- Paints an image whose fetching failed. -/
def paintFailed (e : Element α) (reason : String) (scale : α) : Script (Drawing α) :=
  .seq (.note ⟨.warning, "Failed to load image " ++ e.fieldText ++ ": " ++ reason, none⟩) (e.paintImageError scale)

/-- Paints the image from a source, as far as it was fetched. -/
def paintSource (e : Element α) (images : Images) (scale : α) (source : String) : Script (Drawing α) :=
  match images.lookup source with
  | some (.loaded data) => e.paintLoaded source data scale
  | some (.failed reason) => e.paintFailed reason scale
  | none => e.paintFailed "image was not fetched" scale

/-- Paints the image of an element's field. -/
def paintImage (e : Element α) (r : Record) (images : Images) (scale : α) : Script (Drawing α) :=
  .tryIt (r.imageSource e.metadata.field) fun source =>
    match source with
    | none => .when e.metadata.isPlaceholder (e.paintPlaceholder scale)
    | some source => e.paintSource images scale source

end Element

end ReportCard
