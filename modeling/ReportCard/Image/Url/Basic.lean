import ReportCard.Image.Url.Host
import ReportCard.Number.Numeral

/-!
# Addresses on the web

An address by its parts, in the normal form in which it is requested: scheme and host in lower case, no port where the
scheme implies it, no steps in the path that only say where to go, and every character standing for itself or escaped.
What an image source is answered, and the reason that is noted if it is not, goes by this form.
-/

namespace ReportCard

/-- An address in its normal form.  A scheme, a host and the part about the user are empty where there is none; a query
or a fragment that is missing differs from an empty one. -/
structure Url where
  scheme : String
  userInfo : String
  host : String
  port : Option Int
  path : String
  query : Option String
  fragment : Option String
deriving Repr, DecidableEq

namespace Url

/-- The most characters of an address. -/
def maxLength : Nat := 65536

/-- The port that a scheme implies. -/
def defaultPort? (scheme : String) : Option Int :=
  [("ftp", 21), ("http", 80), ("https", 443), ("ws", 80), ("wss", 443)].lookup scheme

/-- Splits a text at the first character that satisfies `p`, which belongs to neither part. -/
def splitAt? (p : Char → Bool) (cs : List Char) : Option (List Char × List Char) :=
  match cs.dropWhile (!p ·) with
  | [] => none
  | _ :: rest => some (cs.takeWhile (!p ·), rest)

/-- What stands before the first character that satisfies `p`, and what stands after it, if it occurs. -/
def cut (p : Char → Bool) (cs : List Char) : List Char × Option (List Char) :=
  match splitAt? p cs with
  | some (front, back) => (front, some back)
  | none => (cs, none)

/-- Whether a text can be a scheme: a letter, then letters, digits, pluses, hyphens and points; or nothing. -/
def isScheme : List Char → Bool
  | [] => true
  | c :: cs => c.isAlpha && cs.all fun d => d.isAlphanum || d == '+' || d == '-' || d == '.'

/-- The parts of an authority: about the user, the host, and the port.  Colons between square brackets belong to the
host. -/
def splitAuthority (cs : List Char) : String × String × String :=
  let back := cs.reverse.takeWhile (· != '@')
  let userInfo := if cs.contains '@' then cs.take (cs.length - back.length - 1) else []
  let rest := back.reverse
  let inBrackets := (rest.reverse.dropWhile (· != ']')).reverse
  let host := if rest.head? == some '[' && !inBrackets.isEmpty then inBrackets else rest.takeWhile (· != ':')
  let port := match rest.drop host.length with
    | ':' :: ds => ds
    | ds => ds
  (String.ofList userInfo, String.ofList host, String.ofList port)

/-- Follows the segments of a path; a segment of one point stays, one of two points goes up. -/
def followSegments (output : List String) : List String → List String
  | [] => output
  | s :: rest =>
    if s == "." then followSegments output rest
    else if s == ".." then
      followSegments (if output.isEmpty || output == [""] then output else output.dropLast) rest
    else followSegments (output ++ [s]) rest

/-- A path without the segments that only say where to go. -/
def normalPath (path : String) : String :=
  let segments := pieces '/' path
  if segments.contains "." || segments.contains ".." then Text.joinWith "/" (followSegments [] segments) else path

/-- The port that a text gives, if any. -/
def readPort (text : String) : Except UrlFault (Option Int) :=
  if text.isEmpty then .ok none
  else match Numeral.int text with
    | .ok n => .ok (some n)
    | .error _ => .error (.invalidPort text)

/-- Whether an address says where to ask. -/
def hasAuthority (u : Url) : Bool := !u.userInfo.isEmpty || !u.host.isEmpty || u.port.isSome

/-- Brings port and path into their normal form, given the scheme as it is written, or refuses the path. -/
def settle (written : String) (u : Url) : Except UrlFault Url :=
  let u := { u with port := u.port.filter fun p => defaultPort? written != some p }
  if u.hasAuthority && !u.path.isEmpty && !u.path.startsWith "/" then .error .rootless
  else if u.scheme.isEmpty && !u.hasAuthority && u.path.startsWith "//" then .error .slashes
  else if u.scheme.isEmpty && !u.hasAuthority && u.path.startsWith ":" then .error .colon
  else
    let path := if u.scheme.isEmpty && !u.hasAuthority then u.path else normalPath u.path
    .ok { u with path := escape inPath path }

/-- The first control character of ASCII in a text, and its position. -/
def control? (s : String) : Option (Char × Nat) :=
  let isControl c := Char.toNat c < 0x20 || c.toNat == 0x7F
  (s.toList.find? isControl).map fun c => (c, (s.toList.takeWhile (!isControl ·)).length)

/-- The address that a text writes. -/
def ofText (s : String) : Except UrlFault Url := do
  if maxLength < s.length then throw .tooLong
  if let some (c, position) := control? s then throw (.unprintable c position)
  let cs := s.toList
  let (scheme, cs) := match splitAt? (· == ':') cs with
    | some (front, back) => if isScheme front then (String.ofList front, back) else ("", cs)
    | none => ("", cs)
  let (cs, fragment) := cut (· == '#') cs
  let (cs, query) := cut (· == '?') cs
  let (authority, path) := match cs with
    | '/' :: '/' :: rest => (rest.takeWhile (· != '/'), rest.dropWhile (· != '/'))
    | _ => ([], cs)
  let (userInfo, host, port) := splitAuthority authority
  let host ← normalHost host
  let port ← readPort port
  settle scheme {
    scheme := Text.lower scheme
    userInfo := escape inUserInfo userInfo
    host
    port
    path := String.ofList path
    query := query.map fun q => escape inQuery (String.ofList q)
    fragment := fragment.map fun f => escape inFragment (String.ofList f) }

/-- The text of what says where to ask. -/
def authority (u : Url) : String :=
  (if u.userInfo.isEmpty then "" else u.userInfo ++ "@") ++
    (if u.host.toList.contains ':' then "[" ++ u.host ++ "]" else u.host) ++
    (u.port.map fun p => ":" ++ toString p).getD ""

/-- The text of an address. -/
def text (u : Url) : String :=
  (if u.scheme.isEmpty then "" else u.scheme ++ ":") ++
    (if u.hasAuthority then "//" ++ u.authority else "") ++ u.path ++
    (u.query.map ("?" ++ ·)).getD "" ++ (u.fragment.map ("#" ++ ·)).getD ""

/-- Whether the address only says where to go from another one. -/
def isRelative (u : Url) : Bool := u.scheme.isEmpty || u.host.isEmpty

/-- What is requested of an address that does not say where to ask: path and query. -/
def target (u : Url) : Url :=
  { scheme := "", userInfo := "", host := "", port := none
    path := "/" ++ String.ofList (u.path.toList.dropWhile (· == '/')), query := u.query, fragment := none }

end Url

end ReportCard
