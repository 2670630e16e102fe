import ReportCard.Drawing.Canvas
import ReportCard.Drawing.Recorder
import ReportCard.Image.Fetch
import ReportCard.Page.Scaler
import ReportCard.Painting.Image
import ReportCard.Painting.Shape
import ReportCard.Painting.Table.Basic
import ReportCard.Painting.Text

/-!
# Pages

A page is painted element after element, in the order of the template.  An element that fails is noted and does not
stop the ones after it; only what concerns the page as a whole can fail: the template, its canvas, or a setting.
-/

namespace ReportCard

namespace Element

variable {α : Type} [Scalar α]

/-- Paints an element of the page by its kind. -/
def paint (e : Element α) (r : Record) (images : Images) (scale : α) : Script (Drawing α) :=
  match e.kind with
  | some .shape | some .line => e.paintShape
  | some .text => e.paintText
  | some .dynamic => e.paintDynamic r
  | some .image => e.paintImage r images scale
  | some .table => Table.paint e r scale
  | none => .done

end Element

namespace Page

variable {α : Type} [Scalar α]

/-- The note on an element of unknown kind. -/
def unknownNote (index : Nat) (e : Element α) : Note :=
  ⟨.debug, "Skipping element " ++ toString index ++ " with unknown type " ++ Text.quoted e.rawKind ++ ".", none⟩

/-- The note on an element that failed. -/
def failureNote (kind : ElementKind) (index : Nat) (e : Element α) (fault : Fault) : Note :=
  ⟨.error, "Failed to render " ++ kind.symbol ++ " element " ++ toString index ++ " (" ++ e.id.getD "None" ++ ").",
    some fault⟩

/-- Paints the element at a position, or notes why not. -/
def paintElement (r : Record) (images : Images) (s : Scaler α) (index : Nat) (e : Element α) : Script (Drawing α) :=
  match e.kind with
  | none => .note (unknownNote index e)
  | some kind =>
    .recover ((s.apply e).paint r images s.factor) fun fault => .note (failureNote kind index e fault)

/-- Paints elements in order, the first of them at a position. -/
def paintFrom (r : Record) (images : Images) (s : Scaler α) (index : Nat) : List (Element α) → Script (Drawing α)
  | [] => .done
  | e :: es => .seq (paintElement r images s index e) (paintFrom r images s (index + 1) es)

/-- Paints the elements of a page in order. -/
def paint (r : Record) (images : Images) (s : Scaler α) (es : List (Element α)) : Script (Drawing α) :=
  paintFrom r images s 0 es

/-- The image sources of the elements of a page. -/
def sources (r : Record) (es : List (Element α)) : Except Fault (List (Option String)) :=
  (es.filter (·.kind == some .image)).mapM fun (e : Element α) => r.imageSource e.metadata.field

end Page

/-- What rendering comes to: the state of the surface, the notes of painting and of fetching, the addresses that were
requested, and the fault that stopped it, if any. -/
structure Rendering (σ : Type) where
  state : σ
  notes : List Note := []
  fetchNotes : List Note := []
  requests : List String := []
  fault : Option Fault := none

/-- What a template is rendered with besides its data. -/
structure Environment where
  settings : Settings
  site : Site
  /-- The fetcher, or the fault that it cannot be made for. -/
  fetcher : Except Fault Fetcher

/-- The way to fetch a source in an environment, or the fault that there is none for. -/
def Environment.retrieval (env : Environment) : Except Fault Retrieval := env.fetcher.map (·.fetch env.site)

variable {σ : Type}

/-- What has to be known before painting starts: the elements, the scaler and the images. -/
def prepareBy (settings : Settings) (retrieval : Except Fault Retrieval) (width : Float) (template : Value)
    (r : Record) : List Note × Except Fault (List (Element Float) × Scaler Float × Fetcher.Haul) :=
  let (notes, elements) := Template.elements template
  (notes, do
    let es ← elements
    let canvas ← Template.canvasSize template
    let s ← Scaler.forPage settings (.float width) (canvas.map fun c => .float c.width)
    let sources ← Page.sources r es
    let retrieve ← retrieval
    return (es, s, Fetcher.haulBy retrieve sources))

/-- Renders a template for a record onto a surface, with a given way to fetch images. -/
def renderBy (settings : Settings) (retrieval : Except Fault Retrieval) (surface : Surface Float σ)
    (template : Value) (r : Record) (state : σ) : Rendering σ :=
  let (notes, prepared) := prepareBy settings retrieval surface.size.width template r
  match prepared with
  | .error fault => { state, notes, fault := some fault }
  | .ok (es, s, haul) =>
    let o := surface.paint (Page.paint r haul.images s es) state
    { state := o.state, notes := notes ++ o.notes, fetchNotes := haul.notes, requests := haul.requests,
      fault := o.fault }

/-- Renders a template for a record onto a surface. -/
def render (env : Environment) (surface : Surface Float σ) (template : Value) (r : Record) (state : σ) :
    Rendering σ :=
  renderBy env.settings env.retrieval surface template r state

/-- A page of a document, as the calls on its canvas. -/
structure Sheet where
  size : Size Float
  calls : Array (Call Float)

/-- Renders a template to a document of one page, lying if the template's canvas is wider than high, with a watermark
under it if there is one.  The page is there as soon as its size is known, whatever goes wrong after that. -/
def renderDocumentBy (settings : Settings) (retrieval : Except Fault Retrieval) (template : Value) (r : Record)
    (watermark : Value) : Rendering (Option Sheet) :=
  let size := (Template.canvasSize template).bind fun canvas =>
    settings.page ((canvas.map fun c => decide (c.width > c.height)).getD false)
  match size with
  | .error fault => { state := none, fault := some fault }
  | .ok size =>
    let text := watermark.orDefault settings.watermarkText
    let marked := (Script.when text.isTruthy (Canvas.watermark size text)).run (Canvas.record .ok) #[]
    match marked.fault with
    | some fault => { state := some ⟨size, marked.state⟩, notes := marked.notes, fault := some fault }
    | none =>
      let painted := renderBy settings retrieval (Canvas.surface size (Canvas.record .ok)) template r marked.state
      let calls := if painted.fault.isSome then painted.state else (painted.state.push .showPage).push .save
      { painted with state := some ⟨size, calls⟩, notes := marked.notes ++ painted.notes }

/-- Renders a template to a document in an environment. -/
def renderDocument (env : Environment) (template : Value) (r : Record) (watermark : Value) :
    Rendering (Option Sheet) :=
  renderDocumentBy env.settings env.retrieval template r watermark

end ReportCard
