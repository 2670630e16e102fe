import ReportCard.Image.Path
import ReportCard.Page.Size

/-!
# Settings

What a site may configure.  A setting that is not given has a default; one that is given is read when it is needed,
and a value that does not fit is a fault only then.
-/

namespace ReportCard

/-- The settings of a site; `none` stands for a setting that is not given. -/
structure Settings where
  pageSize : Option Value := none
  referenceWidth : Option Value := none
  imageTimeout : Option Value := none
  watermark : Option Value := none
  publicRoot : Option Value := none
  baseDir : Option Value := none

namespace Settings

/-- The page that documents are painted on. -/
def page (s : Settings) (landscape : Bool) : Except Fault (Size Float) :=
  PageSize.ofSetting (s.pageSize.getD (.text "A4")) landscape

/-- The width of the canvas that templates are designed on. -/
def reference (s : Settings) : Except Fault Float := (s.referenceWidth.getD (.int 794)).asFloat

/-- The seconds that an image may take. -/
def timeout (s : Settings) : Except Fault Float := (s.imageTimeout.getD (.float 10.0)).asFloat

/-- The watermark of documents, null for none. -/
def watermarkText (s : Settings) : Value := s.watermark.getD .null

/-- The path that a setting gives. -/
def path (v : Value) : Except Fault Path :=
  match v with
  | .text s => .ok (Path.ofText s)
  | _ => .error .wrongKind

/-- The directory of public assets: as configured, or else below the base directory, or else below `here`. -/
def assets (s : Settings) (here : Path) : Except Fault Path :=
  let configured := s.publicRoot.getD .null
  let base := s.baseDir.getD .null
  if configured.isTruthy then path configured
  else if base.isTruthy then (path base).map (·.append ["public"])
  else .ok (here.append ["public"])

end Settings

end ReportCard
