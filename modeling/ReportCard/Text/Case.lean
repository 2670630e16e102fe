import ReportCard.Text.CaseTable
import ReportCard.Text.Printable

/-!
# Letter case

Full upper and lower case: one character may become several, and a capital sigma at the end of a word becomes the
final sigma.
-/

namespace ReportCard.Text

/-- The code point that the runs give for `n`, or `n` itself. -/
def mapRuns (runs : List CaseRun) (n : Nat) : Nat :=
  match runs.find? (·.covers n) with
  | some r => (n + r.offset).toNat
  | none => n

/-- The upper case of one character. -/
def upperChar (c : Char) : List Char :=
  if c.toNat < 0x80 then [c.toUpper]
  else match upperExpansions.find? (·.1 == c.toNat) with
    | some e => e.2.map Char.ofNat
    | none => [Char.ofNat (mapRuns upperRuns c.toNat)]

/-- The upper case of a text. -/
def upper (s : String) : String :=
  String.ofList (s.toList.flatMap upperChar)

/-- The lower case of one character away from the end of a word. -/
def lowerChar (c : Char) : List Char :=
  if c.toNat < 0x80 then [c.toLower]
  else if c == 'İ' then ['i', Char.ofNat 0x307]
  else [Char.ofNat (mapRuns lowerRuns c.toNat)]

/-- Whether the first of `cs` that is not case ignorable exists and is cased. -/
def casedNext (cs : List Char) : Bool :=
  match cs.dropWhile (fun c => inRanges caseIgnorableRanges c.toNat) with
  | [] => false
  | c :: _ => inRanges casedRanges c.toNat

/-- The lower case of `cs` when the characters of the reversed list `before` stand in front of it. -/
def lowerFrom (before : List Char) : List Char → List Char
  | [] => []
  | c :: cs =>
    let here :=
      if c == 'Σ' then [if casedNext before && !casedNext cs then 'ς' else 'σ'] else lowerChar c
    here ++ lowerFrom (c :: before) cs

/-- The lower case of a text. -/
def lower (s : String) : String :=
  String.ofList (lowerFrom [] s.toList)

end ReportCard.Text
