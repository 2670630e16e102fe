import ReportCard.Value.Display
import ReportCard.Value.Number

/-!
# Styles

The visual properties of an element.  A missing or empty property keeps its default, and the words for "no color"
count as none.
-/

namespace ReportCard

/-- The upright, bold and slanted faces of the one font family. -/
structure Face where
  bold : Bool := false
  italic : Bool := false
deriving Repr, DecidableEq

namespace Face

/-- The name of a face. -/
def name : Face → String
  | ⟨true, true⟩ => "Helvetica-BoldOblique"
  | ⟨false, true⟩ => "Helvetica-Oblique"
  | ⟨true, false⟩ => "Helvetica-Bold"
  | ⟨false, false⟩ => "Helvetica"

/-- The four faces. -/
def all : List Face := [⟨false, false⟩, ⟨true, false⟩, ⟨false, true⟩, ⟨true, true⟩]

/-- The face with a name. -/
def ofName? (s : String) : Option Face := all.find? (·.name == s)

end Face

/-- The visual properties of an element, with lengths in `α`. -/
structure Style (α : Type) where
  color : Option String := none
  fontSize : Option α := none
  fontWeight : String := "normal"
  fontStyle : String := "normal"
  textAlign : String := "left"
  backgroundColor : Option String := none
  borderColor : Option String := none
  borderWidth : Option α := none
  borderBottom : Option String := none
  headerBgColor : Option String := none
  headerTextColor : Option String := none
  altRowColor : Option String := none
deriving Repr

namespace Style

/-- The words that ask for no color. -/
def noColor : List String := ["transparent", "none", "inherit"]

/-- The color that a value names. -/
def color? (v : Value) : Except Fault (Option String) :=
  v.displayTrimmed?.map fun c => c.filter fun c => !noColor.contains (Text.lower c)

/-- A word of a style in lower case, or the default if none is given. -/
def word (v : Value) (default : String) : Except Fault String :=
  (v.orElse (.text default)).display.map Text.lower

/-- The style that the entries of a mapping describe. -/
def ofEntries (es : Entries) : Except Fault (Style Float) := do
  let color ← color? (es.get "color")
  let fontSize ← (es.get "fontSize").number?
  let fontWeight ← word (es.get "fontWeight") "normal"
  let fontStyle ← word (es.get "fontStyle") "normal"
  let textAlign ← word (es.get "textAlign") "left"
  let backgroundColor ← color? (es.get "backgroundColor")
  let borderColor ← color? (es.get "borderColor")
  let borderWidth ← (es.get "borderWidth").number?
  let borderBottom ← (es.get "borderBottom").displayTrimmed?
  let headerBgColor ← color? (es.get "headerBgColor")
  let headerTextColor ← color? (es.get "headerTextColor")
  let altRowColor ← color? (es.get "altRowColor")
  return ⟨color, fontSize, fontWeight, fontStyle, textAlign, backgroundColor, borderColor, borderWidth, borderBottom,
    headerBgColor, headerTextColor, altRowColor⟩

/-- The style that a value describes; anything but a mapping is the style of defaults. -/
def ofValue (v : Value) : Except Fault (Style Float) :=
  match v.entries? with
  | some es => ofEntries es
  | none => .ok {}

variable {α β : Type}

/-- The style with its lengths in another type. -/
def map (f : α → β) (s : Style α) : Style β :=
  { s with fontSize := s.fontSize.map f, borderWidth := s.borderWidth.map f }

/-- Whether text is bold: by a weight of at least 600, or by name. -/
def isBold (s : Style α) : Except Fault Bool :=
  if !s.fontWeight.isEmpty && s.fontWeight.toList.all Text.isDigit then
    (wholeOfText s.fontWeight).map (600 ≤ ·)
  else .ok (s.fontWeight == "bold" || s.fontWeight == "bolder")

/-- Whether text is slanted. -/
def isItalic (s : Style α) : Bool := s.fontStyle == "italic" || s.fontStyle == "oblique"

/-- The face of the text. -/
def face (s : Style α) : Except Fault Face := s.isBold.map fun bold => ⟨bold, s.isItalic⟩

end Style

end ReportCard
