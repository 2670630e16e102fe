import ReportCard.Image.Url.Basic

/-!
# References

The text of an address, taken apart without a look at what may stand in its parts, and what a text means as a reference
at the place of another one.
-/

namespace ReportCard.Url

/-- The parts of the text of an address, empty where there are none. -/
structure Reference where
  scheme : String
  authority : String
  path : String
  parameters : String
  query : String
  fragment : String
deriving Repr, DecidableEq

namespace Reference

/-- The schemes whose addresses can be completed from one another. -/
def hierarchical : List String :=
  ["", "ftp", "http", "gopher", "nntp", "imap", "wais", "file", "https", "shttp", "mms", "prospero", "rtsp", "rtsps",
    "rtspu", "sftp", "svn", "svn+ssh", "ws", "wss"]

/-- The schemes of addresses whose last segment can have parameters. -/
def parametric : List String :=
  ["", "ftp", "hdl", "prospero", "http", "imap", "https", "shttp", "rtsp", "rtsps", "rtspu", "sip", "sips", "mms",
    "sftp", "tel"]

/-- A path without the parameters of its last segment, and these, which follow a semicolon. -/
def splitParameters (path : String) : String × String :=
  let back := path.toList.reverse.takeWhile (· != '/')
  let front := path.toList.take (path.length - back.length)
  match cut (· == ';') back.reverse with
  | (segment, some parameters) => (String.ofList (front ++ segment), String.ofList parameters)
  | (_, none) => (path, "")

/-- Whether a text names how an address of a later version than six is written, and the address. -/
def isFuture (host : String) : Bool :=
  let digits := (host.toList.drop 1).takeWhile fun c => (hexDigit? c).isSome
  match host.toList.drop (1 + digits.length) with
  | '.' :: _ :: _ => !digits.isEmpty
  | _ => false

/-- Refuses an authority with square brackets, unless they hold an address of eight pairs of bytes or of a later
version. -/
def checkBrackets (authority : String) : Except UrlFault Unit :=
  let cs := authority.toList
  if cs.contains '[' != cs.contains ']' then .error .unpairedBracket
  else if !cs.contains '[' then .ok ()
  else
    let host := String.ofList (((cs.dropWhile (· != '[')).drop 1).takeWhile (· != ']'))
    if host.startsWith "v" then if isFuture host then .ok () else .error .invalidFuture
    else if isIPv4 host then .error .bracketedIPv4
    else if isIPv6 host then .ok ()
    else .error (.noAddress host)

/-- The parts of a text, with the given scheme if it has none of its own. -/
def ofText (scheme s : String) : Except UrlFault Reference := do
  let cs := s.toList
  let (scheme, cs) := match splitAt? (· == ':') cs with
    | some (front, back) =>
      if !front.isEmpty && isScheme front then (Text.lower (String.ofList front), back) else (scheme, cs)
    | none => (scheme, cs)
  let isEnd c := c == '/' || c == '?' || c == '#'
  let (authority, cs) := match cs with
    | '/' :: '/' :: rest => (rest.takeWhile (!isEnd ·), rest.dropWhile (!isEnd ·))
    | _ => ([], cs)
  checkBrackets (String.ofList authority)
  let (cs, fragment) := cut (· == '#') cs
  let (cs, query) := cut (· == '?') cs
  let path := String.ofList cs
  let (path, parameters) := if parametric.contains scheme then splitParameters path else (path, "")
  return {
    scheme, authority := String.ofList authority, path, parameters
    query := String.ofList (query.getD []), fragment := String.ofList (fragment.getD []) }

/-- A mark and a part after it, unless the part is empty. -/
def marked (mark part : String) : String := if part.isEmpty then "" else mark ++ part

/-- The text of the parts. -/
def text (r : Reference) : String :=
  let path := r.path ++ marked ";" r.parameters
  let place :=
    if !r.authority.isEmpty || !r.scheme.isEmpty || path.startsWith "//" then
      "//" ++ r.authority ++ (if path.isEmpty || path.startsWith "/" then "" else "/") ++ path
    else path
  (if r.scheme.isEmpty then "" else r.scheme ++ ":") ++ place ++ marked "?" r.query ++ marked "#" r.fragment

/-- Follows a segment of a path that is being completed. -/
def follow (output : List String) (segment : String) : List String :=
  if segment == ".." then output.dropLast else if segment == "." then output else output ++ [segment]

/-- The segments of a path that continues from the place of `base`; empty ones in the middle say nothing. -/
def continued (base path : List String) : List String :=
  let front := if base.getLast? == some "" then base else base.dropLast
  match front ++ path with
  | [] => []
  | first :: rest => first :: rest.dropLast.filter (· != "") ++ (rest.getLast?.map fun last => [last]).getD []

/-- The path that `path` means at the place of `base`; a segment of points at the end leaves a slash there. -/
def mergedPath (base path : String) : String :=
  let segments := if path.startsWith "/" then pieces '/' path else continued (pieces '/' base) (pieces '/' path)
  let walked := segments.foldl follow []
  let ended := if segments.getLast? == some "." || segments.getLast? == some ".." then walked ++ [""] else walked
  let merged := Text.joinWith "/" ended
  if merged.isEmpty then "/" else merged

/-- The address that a reference means when it is found at the place of `base`. -/
def join (base reference : Reference) : Reference :=
  if !reference.authority.isEmpty then reference
  else
    let found := { reference with authority := base.authority }
    if found.path.isEmpty && found.parameters.isEmpty then
      { found with
        path := base.path, parameters := base.parameters
        query := if found.query.isEmpty then base.query else found.query }
    else { found with path := mergedPath base.path found.path }

/-- The text of the address that a text means when it is found at the place of `base`.  Only texts of one scheme, which
has to be hierarchical, are completed; an empty text means that place. -/
def complete (base reference : String) : Except UrlFault String := do
  if base.isEmpty then return reference
  if reference.isEmpty then return base
  let place ← ofText "" base
  let found ← ofText place.scheme reference
  if found.scheme != place.scheme || !hierarchical.contains found.scheme then return reference
  return (place.join found).text

end Reference

end ReportCard.Url
