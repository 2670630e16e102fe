import ReportCard.Image.Url.Escape
import ReportCard.Image.Url.Fault
import ReportCard.Text.Blank
import ReportCard.Text.Case

/-!
# Hosts

The normal form of a host: a numeric address as it is written if it is valid, and a name in lower case and in ASCII.
-/

namespace ReportCard.Url

/-- The pieces of a text between the occurrences of a character. -/
def pieces (separator : Char) (s : String) : List String :=
  (Text.splitBy (· == separator) s.toList).map String.ofList

/-- Whether a host looks like four numbers: four runs of digits between dots. -/
def looksNumeric (host : String) : Bool :=
  let runs := pieces '.' host
  runs.length == 4 && runs.all fun r => !r.isEmpty && r.toList.all Char.isDigit

/-- Whether a text is a byte in base ten, without zeros in front. -/
def isOctet (s : String) : Bool :=
  let cs := s.toList
  !cs.isEmpty && cs.length ≤ 3 && cs.all Char.isDigit && (cs.head? != some '0' || cs.length == 1) &&
    (s.toNat?.getD 256) ≤ 255

/-- Whether a text is an address of four bytes. -/
def isIPv4 (s : String) : Bool :=
  let octets := pieces '.' s
  octets.length == 4 && octets.all isOctet

/-- Whether a text is a pair of bytes in base sixteen. -/
def isHextet (s : String) : Bool := !s.isEmpty && s.length ≤ 4 && s.toList.all fun c => (hexDigit? c).isSome

/-- Whether the pieces between colons are eight pairs of bytes, of which a run of at least one may be left out once
between two colons. -/
def areHextets (parts : List String) : Bool :=
  let gap := parts.tail.dropLast.idxOf? ""
  match gap with
  | none => parts.length == 8 && parts.all isHextet
  | some i =>
    let front := parts.take (i + 1)
    let back := parts.drop (i + 2)
    let front := if front == [""] then [] else front
    let back := if back == [""] then [] else back
    front.length + back.length ≤ 7 && front.all isHextet && back.all isHextet

/-- Whether a text is an address of eight pairs of bytes; the last two pairs may be written as four bytes, and a zone
may follow. -/
def isIPv6 (s : String) : Bool :=
  let (address, zone) := match pieces '%' s with
    | [address] => (address, true)
    | [address, zone] => (address, !zone.isEmpty)
    | _ => ("", false)
  let parts := pieces ':' address
  let last := parts.getLast?.getD ""
  let parts := if last.toList.contains '.' then parts.dropLast ++ (if isIPv4 last then ["0", "0"] else ["?"]) else parts
  zone && 3 ≤ (pieces ':' address).length && areHextets parts

/-- The dots between the labels of a name. -/
def isDot (c : Char) : Bool := [0x2E, 0x3002, 0xFF0E, 0xFF61].contains c.toNat

/-- The most characters of a name, without the dot that may end it. -/
def maxName : Nat := 253

/-- The labels of a name, each in another form; a dot that ends the name stays. -/
def mapLabels {α : Type} (f : List Char → Except LabelFault (List α)) (dot : α) (host : String) :
    Except LabelFault (List α) := do
  if maxName + 1 < host.length then throw .longName
  let labels := Text.splitBy isDot host.toList
  let isEnded := labels.getLast? == some []
  let written ← (if isEnded then labels.dropLast else labels).mapM f
  return ((if isEnded then written ++ [[]] else written).intersperse [dot]).flatten

/-- A name in small letters, in ASCII. -/
def encodeName (host : String) : Except LabelFault String := do
  let name ← mapLabels Label.encode '.' host
  if (if name.getLast? == some '.' then maxName + 1 else maxName) < name.length then throw .longName
  return String.ofList name

/-- The name that one in ASCII stands for. -/
def decodeName (host : String) : Except LabelFault String := do
  let name ← mapLabels Label.decode Label.dot host
  return String.ofList (name.map Char.ofNat)

/-- The normal form of a host. -/
def normalHost (host : String) : Except UrlFault String :=
  if host.isEmpty then .ok ""
  else if looksNumeric host then if isIPv4 host then .ok host else .error (.invalidIPv4 host)
  else if host.startsWith "[" && host.endsWith "]" then
    let inner := String.ofList (host.toList.drop 1).dropLast
    if isIPv6 inner then .ok inner else .error (.invalidIPv6 host)
  else if host.toList.all (·.toNat < 0x80) then .ok (escape inHost (Text.lower host))
  else (encodeName (Text.lower host)).mapError fun _ => .invalidName host

/-- A host as it is shown: a name that begins with a label in Punycode, as what it stands for. -/
def shownHost (host : String) : Except UrlFault String :=
  if host.startsWith "xn--" then (decodeName host).mapError .undecodable else .ok host

end ReportCard.Url
