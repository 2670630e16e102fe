import ReportCard.Element.Style
import ReportCard.Number.Scalar

/-!
# Font metrics

The advance widths of the characters in thousandths of the font size, how far text reaches above and below its
baseline, and the breaking of a text into lines of limited width.  Slanted faces have the widths of upright ones.
-/

namespace ReportCard

namespace Face

/-- The widths of the regular face from the space to the tilde. -/
def regularAscii : List Nat :=
  [278, 278, 355, 556, 556, 889, 667, 191, 333, 333, 389, 584, 278, 333, 278, 278, 556, 556, 556, 556, 556, 556,
    556, 556, 556, 556, 278, 278, 584, 584, 584, 556, 1015, 667, 667, 722, 722, 667, 611, 778, 722, 278, 500, 667,
    556, 833, 722, 778, 667, 778, 722, 667, 611, 722, 667, 944, 667, 667, 611, 278, 278, 278, 469, 556, 333, 556,
    556, 500, 556, 556, 278, 556, 556, 222, 222, 500, 222, 833, 556, 556, 556, 556, 333, 500, 278, 556, 500, 722,
    500, 500, 500, 334, 260, 334, 584]

/-- The widths of the regular face from the no-break space on. -/
def regularLatin : List Nat :=
  [278, 333, 556, 556, 556, 556, 260, 556, 333, 737, 370, 556, 584, 333, 737, 333, 400, 584, 333, 333, 333, 556,
    537, 278, 333, 333, 365, 556, 834, 834, 834, 611, 667, 667, 667, 667, 667, 667, 1000, 722, 667, 667, 667, 667,
    278, 278, 278, 278, 722, 722, 778, 778, 778, 778, 778, 584, 778, 722, 722, 722, 722, 667, 667, 611, 556, 556,
    556, 556, 556, 556, 889, 500, 556, 556, 556, 556, 278, 278, 278, 278, 556, 556, 556, 556, 556, 556, 556, 584,
    611, 556, 556, 556, 556, 500, 556, 500]

/-- The widths of the bold face from the space to the tilde. -/
def boldAscii : List Nat :=
  [278, 333, 474, 556, 556, 889, 722, 238, 333, 333, 389, 584, 278, 333, 278, 278, 556, 556, 556, 556, 556, 556,
    556, 556, 556, 556, 333, 333, 584, 584, 584, 611, 975, 722, 722, 722, 722, 667, 611, 778, 722, 278, 556, 722,
    611, 833, 722, 778, 667, 778, 722, 667, 611, 722, 667, 944, 667, 667, 611, 333, 278, 333, 584, 556, 333, 556,
    611, 556, 611, 556, 333, 611, 611, 278, 278, 556, 278, 889, 611, 611, 611, 611, 389, 556, 333, 611, 556, 778,
    556, 556, 500, 389, 280, 389, 584]

/-- The widths of the bold face from the no-break space on. -/
def boldLatin : List Nat :=
  [278, 333, 556, 556, 556, 556, 280, 556, 333, 737, 370, 556, 584, 333, 737, 333, 400, 584, 333, 333, 333, 611,
    556, 278, 333, 333, 365, 556, 834, 834, 834, 611, 722, 722, 722, 722, 722, 722, 1000, 722, 667, 667, 667, 667,
    278, 278, 278, 278, 722, 722, 778, 778, 778, 778, 778, 584, 778, 722, 722, 722, 722, 667, 667, 611, 556, 556,
    556, 556, 556, 556, 889, 556, 556, 556, 556, 556, 278, 278, 278, 278, 611, 611, 611, 611, 611, 611, 611, 584,
    611, 611, 611, 611, 611, 556, 611, 556]

/-- The width of a character; characters outside the two tables have none. -/
def charWidth (f : Face) (c : Char) : Nat :=
  let n := c.toNat
  if n < 0x80 then
    if n < 0x20 then 0 else ((if f.bold then boldAscii else regularAscii)[n - 0x20]?).getD 0
  else if n < 0xA0 then 0
  else ((if f.bold then boldLatin else regularLatin)[n - 0xA0]?).getD 0

/-- The widths of the characters of a text together. -/
def textWidth (f : Face) (s : String) : Nat := (s.toList.map f.charWidth).foldl (· + ·) 0

variable {α : Type} [Scalar α]

/-- The width of a text at a font size. -/
def width (f : Face) (size : α) (s : String) : α := Scalar.ofNat (f.textWidth s) * Scalar.ratio 1 1000 * size

/-- A measure of thousandths at a font size; at size zero the thousandths themselves. -/
def measure (size : α) (thousandths : Nat) : α :=
  if Scalar.isNil size then Scalar.ofNat thousandths
  else Scalar.ofNat thousandths * (size / Scalar.ofNat 1000)

/-- How far text reaches above the baseline. -/
def ascent (size : α) : α := measure size 718

/-- How far text reaches below the baseline. -/
def descent (size : α) : α := measure size 207

/-- Fills lines with words.  `line` holds the reversed words of the line at work, `reach` is how far they reach; a
word goes on a new line when it would reach beyond `limit`, unless the line is empty. -/
def fill (f : Face) (size limit : α) (line : List String) (reach : α) : List String → List String
  | [] => if line.isEmpty then [] else [Text.joinWith " " line.reverse]
  | word :: rest =>
    let next := reach + f.width size " " + f.width size word
    if Scalar.le next limit || line.isEmpty then fill f size limit (word :: line) next rest
    else Text.joinWith " " line.reverse :: fill f size limit [word] (f.width size word) rest

/-- A text in lines that are no wider than `limit` where its words allow it; its own line feeds end lines too, and
blank lines vanish. -/
def wrap (f : Face) (size limit : α) (s : String) : List String :=
  (Text.splitBy (· == '\n') s.toList).flatMap fun line =>
    fill f size limit [] (Scalar.zero - f.width size " ") (Text.words (String.ofList line))

end Face

end ReportCard
