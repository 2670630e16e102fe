import ReportCard.Text.Composite
import ReportCard.Text.Direction
import ReportCard.Text.Joining
import ReportCard.Text.Punycode
import ReportCard.Text.Quoted
import ReportCard.Text.Script

/-!
# Labels of host names

What stands between two dots of a host name.  A label may hold letters, marks and digits of any script and hyphens, and
a few other characters between neighbours that they belong to.  In ASCII a label with other characters is written in
Punycode after a mark of its own.
-/

namespace ReportCard

/-- Why a text is no label of a host name, or no host name. -/
inductive LabelFault where
  /-- A name of too many characters. -/
  | longName
  /-- A label of too many characters. -/
  | longLabel
  | empty
  /-- A text that is not composed. -/
  | notComposed
  /-- Hyphens where the mark of a label in Punycode has them. -/
  | markLike
  /-- A hyphen at an end. -/
  | outerHyphen
  /-- A mark without a letter in front of it. -/
  | initialMark
  /-- A joiner that does not stand where it is needed. -/
  | joiner (n position : Nat) (label : List Nat)
  /-- A character without the neighbours that it belongs to. -/
  | misplaced (n position : Nat) (label : List Nat)
  /-- A character that no label has. -/
  | excluded (n position : Nat) (label : List Nat)
  /-- A character whose direction is not known. -/
  | strange (position : Nat) (label : List Nat)
  /-- A first character without a direction of its own, before others written to the left. -/
  | undirectedStart (label : List Nat)
  /-- A character written to the right, among others written to the left. -/
  | amongLeftward (position : Nat)
  /-- A character written to the left, among others written to the right. -/
  | amongRightward (position : Nat)
  /-- Digits of both kinds. -/
  | mixedDigits
  /-- A last character without a direction of its own. -/
  | undirectedEnd
  /-- The mark of a label in Punycode with nothing after it. -/
  | nothingEncoded
  /-- A label in Punycode that ends with a hyphen. -/
  | finalHyphen
  /-- A label in Punycode that stands for no text. -/
  | notEncoded
deriving Repr, DecidableEq

namespace LabelFault

/-- The name of a code point. -/
def pointName (n : Nat) : String :=
  let width := if n < 0x10000 then 4 else if n < 0x100000 then 5 else 6
  "U+" ++ String.ofList ((Text.hexDigits width n).map Char.toUpper)

/-- Where in a label something stands. -/
def place (position : Nat) (label : List Nat) : String :=
  " at position " ++ toString position ++ " in " ++ Text.quotedPoints label

/-- The wording of a fault. -/
def message : LabelFault → String
  | longName => "Domain too long"
  | longLabel => "Label too long"
  | empty => "Empty Label"
  | notComposed => "Label must be in Normalization Form C"
  | markLike => "Label has disallowed hyphens in 3rd and 4th position"
  | outerHyphen => "Label must not start or end with a hyphen"
  | initialMark => "Label begins with an illegal combining character"
  | joiner n position label => "Unknown codepoint adjacent to joiner " ++ pointName n ++ place position label
  | misplaced n position label => "Codepoint " ++ pointName n ++ " not allowed" ++ place position label
  | excluded n position label => "Codepoint " ++ pointName n ++ " at position " ++ toString position ++ " of " ++
      Text.quotedPoints label ++ " not allowed"
  | strange position label => "Unknown directionality in label " ++ Text.quotedPoints label ++ " at position " ++
      toString position
  | undirectedStart label => "First codepoint in label " ++ Text.quotedPoints label ++
      " must be directionality L, R or AL"
  | amongLeftward position => "Invalid direction for codepoint at position " ++ toString position ++
      " in a right-to-left label"
  | amongRightward position => "Invalid direction for codepoint at position " ++ toString position ++
      " in a left-to-right label"
  | mixedDigits => "Can not mix numeral types in a right-to-left label"
  | undirectedEnd => "Label ends with illegal codepoint directionality"
  | nothingEncoded => "Malformed A-label, no Punycode eligible content found"
  | finalHyphen => "A-label must not end with a hyphen"
  | notEncoded => "Invalid A-label"

end LabelFault

namespace Url.Label

/-- The character that keeps letters from being joined. -/
def nonJoiner : Nat := 0x200C

/-- The character that joins letters. -/
def joiner : Nat := 0x200D

/-- Whether letters would be joined between what comes before, read backwards, and what comes after. -/
def wouldJoin (back rest : List Nat) : Bool :=
  ((back.dropWhile Text.isJoinedAcross).head?.any Text.joinsNext) &&
    (rest.dropWhile Text.isJoinedAcross).head?.any Text.joinsLast

/-- Whether a character that needs its neighbours has them; `back` is what comes before it, read backwards. -/
def fits (label back : List Nat) (n : Nat) (rest : List Nat) : Bool :=
  if n == 0xB7 then back.head? == some 0x6C && rest.head? == some 0x6C
  else if n == 0x375 then rest.head?.any Text.isGreek
  else if n == 0x5F3 || n == 0x5F4 then back.head?.any Text.isHebrew
  else if n == 0x30FB then label.any fun m => m != 0x30FB && Text.isJapanese m
  else if 0x660 ≤ n && n ≤ 0x669 then label.all fun m => !(0x6F0 ≤ m && m ≤ 0x6F9)
  else label.all fun m => !(0x660 ≤ m && m ≤ 0x669)

/-- Whether a character may stand in a label only with its neighbours. -/
def needsNeighbours (n : Nat) : Bool :=
  [0xB7, 0x375, 0x5F3, 0x5F4, 0x30FB].contains n || Text.inRanges [(0x660, 0x669), (0x6F0, 0x6F9)] n

/-- Refuses a character of a label that may not stand where it is. -/
def checkPoint (label back : List Nat) (n : Nat) (rest : List Nat) : Except LabelFault Unit :=
  let position := back.length + 1
  if Text.isHostPart n then .ok ()
  else if n == nonJoiner || n == joiner then
    let isSilenced := back.head?.any fun last => Text.markClass last == Text.viramaClass
    if isSilenced || (n == nonJoiner && wouldJoin back rest) then .ok () else .error (.joiner n position label)
  else if needsNeighbours n then
    if fits label back n rest then .ok () else .error (.misplaced n position label)
  else .error (.excluded n position label)

/-- Refuses the first character of a label that may not stand where it is; `back` is what comes before the rest, read
backwards. -/
def checkPoints (label back : List Nat) : List Nat → Except LabelFault Unit
  | [] => .ok ()
  | n :: rest => do
    checkPoint label back n rest
    checkPoints label (n :: back) rest

/-- The directions of the characters of a label, if all are known. -/
def directions (label : List Nat) : Except LabelFault (List Text.Direction) :=
  label.zipIdx.mapM fun (n, i) =>
    match Text.direction? n with
    | some d => .ok d
    | none => .error (.strange (i + 1) label)

/-- Refuses what may not stand among characters written to the left: those written to the right, and digits of two
kinds.  `digits` are those before the position. -/
def checkLeftward (digits : Option Text.Direction) (position : Nat) : List Text.Direction → Except LabelFault Unit
  | [] => .ok ()
  | d :: ds =>
    if d = .rightward then .error (.amongLeftward position)
    else if d = .digit || d = .easternDigit then
      if digits.any (· != d) then .error .mixedDigits else checkLeftward (some d) (position + 1) ds
    else checkLeftward digits (position + 1) ds

/-- Refuses what may not stand among characters written to the right. -/
def checkRightward (ds : List Text.Direction) : Except LabelFault Unit :=
  match ds.findIdx? fun d => d = .leftward || d = .easternDigit with
  | some i => .error (.amongRightward (i + 1))
  | none => .ok ()

/-- Refuses a label whose characters cannot be read in one direction.  Only labels with characters written to the left
are in question. -/
def checkDirections (label : List Nat) : Except LabelFault Unit := do
  let ds ← directions label
  if ds.any fun d => d = .leftward || d = .easternDigit then
    let last := (ds.reverse.dropWhile (· = .mark)).head?
    match ds.head? with
    | some .leftward =>
      checkLeftward none 1 ds
      if last.any fun d => d = .leftward || d = .digit || d = .easternDigit then .ok () else .error .undirectedEnd
    | some .rightward =>
      checkRightward ds
      if last.any fun d => d = .rightward || d = .digit then .ok () else .error .undirectedEnd
    | _ => .error (.undirectedStart label)
  else .ok ()

/-- The hyphen. -/
def hyphen : Nat := 0x2D

/-- The dot between two labels. -/
def dot : Nat := 0x2E

/-- Refuses a text that is no label. -/
def check (label : List Nat) : Except LabelFault Unit := do
  if label.isEmpty then throw .empty
  unless Text.isComposed label do throw .notComposed
  if (label.drop 2).take 2 == [hyphen, hyphen] then throw .markLike
  if label.head? == some hyphen || label.getLast? == some hyphen then throw .outerHyphen
  if label.head?.any Text.isMark then throw .initialMark
  checkPoints label [] label
  checkDirections label

/-- The mark of a label in Punycode. -/
def encodedMark : List Char := "xn--".toList

/-- The code points of the label that a text in ASCII stands for; capital letters stand for small ones. -/
def decode (cs : List Char) : Except LabelFault (List Nat) := do
  let cs := cs.map Char.toLower
  if encodedMark.isPrefixOf cs then
    let written := cs.drop encodedMark.length
    if written.isEmpty then throw .nothingEncoded
    if written.getLast? == some '-' then throw .finalHyphen
    match Text.Punycode.decode? written with
    | some label =>
      check label
      return label
    | none => throw .notEncoded
  else
    check (cs.map Char.toNat)
    return cs.map Char.toNat

/-- The most characters of a label in ASCII. -/
def maxLength : Nat := 63

/-- A label in ASCII, in small letters. -/
def encode (cs : List Char) : Except LabelFault (List Char) := do
  if cs.all (·.toNat < 0x80) then
    discard (decode cs)
    if maxLength < cs.length then throw .longLabel
    return cs
  else
    check (cs.map Char.toNat)
    let written := encodedMark ++ Text.Punycode.encode cs
    if maxLength < written.length then throw .longLabel
    return written

end Url.Label

end ReportCard
