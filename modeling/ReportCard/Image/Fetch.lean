import ReportCard.Image.Path
import ReportCard.Image.Source
import ReportCard.Image.Web
import ReportCard.Note
import ReportCard.Page.Settings
import ReportCard.Value.Path
import ReportCard.Value.Quantity

/-!
# Fetching images

Every distinct source of a page is fetched once before painting starts.  Fetching cannot fail as a whole: what went
wrong with a source is kept in the place of its bytes.
-/

namespace ReportCard

/-- What can be fetched: the files below the public root, by their names, and the web. -/
structure Site where
  files : List (List String × ImageData) := []
  web : Web := []
  /-- Where the statuses of answers are explained, as far as the status itself. -/
  statusHelp : String := ""

namespace Site

/-- The longest name of a file, in bytes. -/
def maxName : Nat := 255

/-- The longest path of a file, in bytes. -/
def maxPath : Nat := 4095

/-- Whether names lead to a directory below the public root, or to the root itself. -/
def isDirectory (site : Site) (names : List String) : Bool :=
  names.isEmpty || site.files.any fun f => names.isPrefixOf f.1 && names.length < f.1.length

/-- Whether going down by names, after those in `walked`, comes upon one that is too long; where there is no directory
to look in, nothing is looked for. -/
def meetsLongName (site : Site) (walked : List String) : List String → Bool
  | [] => false
  | name :: names =>
    site.isDirectory walked &&
      (maxName < name.utf8ByteSize || site.meetsLongName (walked ++ [name]) names)

end Site

/-- A way to fetch a source: the addresses requested for it, and what becomes of it. -/
abbrev Retrieval := String → List String × Fetched

/-- How images are fetched: from which directory, and how many seconds each may take. -/
structure Fetcher where
  root : Path
  timeout : Float

namespace Fetcher

/-- The fetcher that the settings describe. -/
def ofSettings (s : Settings) (here : Path) : Except Fault Fetcher := do
  return ⟨← s.assets here, ← s.timeout⟩

/-- A file that the system does not open. -/
def systemError : ErrorKind := { name := "OSError" }

/-- Attempts to read a file below the public root. -/
def openFile (f : Fetcher) (site : Site) (source : String) : Attempt :=
  match f.root.locate source with
  | .error (.imageUnavailable ..) => .refused .outside
  | .error fault => .broken Web.valueError fault.message
  | .ok path =>
    let names := path.names.drop f.root.resolve.names.length
    if Site.maxPath < path.text.utf8ByteSize || site.meetsLongName [] names then
      .broken systemError ("[Errno 36] File name too long: " ++ Text.quoted path.text)
    else match site.files.lookup names with
      | some data => .loaded data
      | none => .refused (.missing path.text)

/-- Attempts to fetch a source; the result lists the addresses requested.  A timeout that is not a number strikes as
soon as there is something to wait for, be it the bytes of a file. -/
def attempt (f : Fetcher) (site : Site) (source : String) : List String × Attempt :=
  if f.timeout ≤ 0.0 then ([], .late)
  else if isRemote source then site.web.get site.statusHelp f.timeout 20 source
  else match f.openFile site source with
    | .loaded data => ([], if 0.0 < f.timeout then .loaded data else .late)
    | a => ([], a)

/-- Fetches a source: the addresses that its attempt requests, and what becomes of it. -/
def fetch (f : Fetcher) (site : Site) : Retrieval := fun source =>
  let (requests, a) := f.attempt site source
  (requests, a.outcome)

/-- The sources that are fetched: each that is given, once, in the order of their first occurrences. -/
def distinct (sources : List (Option String)) : List String :=
  (sources.filterMap fun s => s.filter (!·.isEmpty)).eraseDups

/-- Puts what arrived, in whatever order, into the order in which it was wanted. -/
def collect (wanted : List String) (arrivals : Images) : Images :=
  wanted.filterMap fun source => (arrivals.lookup source).map (source, ·)

/-- What fetching a list of sources comes to. -/
structure Haul where
  images : Images
  requests : List String
  notes : List Note

/-- The note on a source that could not be fetched. -/
def failureNote? (source : String) : Fetched → Option Note
  | .loaded _ => none
  | .failed reason => some ⟨.warning, (Fault.imageUnavailable source reason).message, none⟩

/-- Fetches every distinct source in a given way. -/
def haulBy (retrieve : Retrieval) (sources : List (Option String)) : Haul :=
  let wanted := distinct sources
  let replies := wanted.map fun source => (source, retrieve source)
  { images := collect wanted (replies.map fun r => (r.1, r.2.2))
    requests := replies.flatMap (·.2.1)
    notes := replies.filterMap fun r => failureNote? r.1 r.2.2 }

/-- Fetches every distinct source. -/
def fetchAll (f : Fetcher) (site : Site) (sources : List (Option String)) : Haul := haulBy (f.fetch site) sources

/-- Whether two values are the same source: equal texts, or equal numbers of whatever kinds. -/
def isSame : Value → Value → Bool
  | .text s, .text t => s == t
  | v, w => Scalar.eq (Quantity.ofValue v) (Quantity.ofValue w)

/-- The reason for having no image of a source that is no text. -/
def noText (v : Value) : String := Text.quoted v.fullKind ++ " object has no attribute 'lower'"

/-- What fetching values as sources comes to. -/
structure ValueHaul where
  images : List (Value × Fetched)
  requests : List String
  notes : List Note

/-- Fetches every distinct source among values that may be other than texts.  Those that can change cannot be told apart
as sources, and all others fail without a request. -/
def fetchValues (f : Fetcher) (site : Site) (sources : List Value) : Except Fault ValueHaul := do
  let given := sources.filter (·.isTruthy)
  unless given.all (·.isSearchable) do throw .wrongKind
  let wanted := (given.foldl (fun seen v => if seen.any (isSame · v) then seen else v :: seen) []).reverse
  let haul := f.fetchAll site (wanted.map Value.text?)
  let reason (v : Value) : String := if f.timeout ≤ 0.0 then Attempt.timeout.name else noText v
  return {
    images := wanted.filterMap fun v =>
      match v.text? with
      | some s => (haul.images.lookup s).map (v, ·)
      | none => some (v, .failed (reason v))
    requests := haul.requests
    notes := haul.notes ++ (wanted.filter (·.text?.isNone)).map fun v =>
      ⟨.warning, Fault.unavailable v.literal (reason v), none⟩ }

end Fetcher

end ReportCard
