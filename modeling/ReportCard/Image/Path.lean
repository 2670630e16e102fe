import ReportCard.Image.Attempt
import ReportCard.Text.Blank

/-!
# Paths

File paths as lists of names.  A path is read without empty names and without the name that means "here"; the name
that means "one up" is kept until the path is resolved, which is done on the names alone.
-/

namespace ReportCard

/-- A path: what stands before the first name (nothing, one slash or two), and the names. -/
structure Path where
  root : String
  names : List String
deriving Repr, DecidableEq

namespace Path

/-- The names between the slashes of a text that say something. -/
def namesOf (cs : List Char) : List String :=
  ((Text.splitBy (· == '/') cs).map String.ofList).filter fun name => name != "" && name != "."

/-- The path that a text writes; exactly two slashes in front are kept, more of them count as one. -/
def ofText (s : String) : Path :=
  let cs := s.toList
  let root := match (cs.takeWhile (· == '/')).length with
    | 0 => ""
    | 2 => "//"
    | _ => "/"
  ⟨root, namesOf cs⟩

/-- The text of a path; a path without names is a dot or its root. -/
def text (p : Path) : String :=
  if p.root.isEmpty && p.names.isEmpty then "."
  else p.root ++ Text.joinWith "/" p.names

/-- The path that continues with more names. -/
def append (p : Path) (names : List String) : Path := ⟨p.root, p.names ++ names⟩

/-- Goes down by one name, or up by one where the name says so; nothing is above the top. -/
def enter (names : List String) (name : String) : List String :=
  if name == ".." then names.dropLast else names ++ [name]

/-- The path without any step upwards, and with no more than one slash in front. -/
def resolve (p : Path) : Path := ⟨if p.root.isEmpty then "" else "/", p.names.foldl enter []⟩

/-- Whether a name contains the character NUL, which no file name may. -/
def hasNul (p : Path) : Bool := p.names.any fun name => name.toList.contains (Char.ofNat 0)

/-- The file under `root` that a site-relative source names, whatever slashes it begins with.  A source that leads
out of the root is refused; one that leaves it and comes back is not. -/
def locate (root : Path) (source : String) : Except Fault Path :=
  let top := root.resolve
  let inner := namesOf (source.toList.dropWhile (· == '/'))
  let whole := top.append inner
  if root.hasNul || whole.hasNul then .error .nulInPath
  else
    let path := whole.resolve
    if top.names.isPrefixOf path.names then .ok path
    else .error (Refusal.outside.fault source)

end Path

end ReportCard
