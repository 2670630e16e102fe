/-!
# Images

What the bytes of an image source turn out to be, and what fetching a source comes to.
-/

namespace ReportCard

/-- Encoded bytes: of a picture with so many pixels across and down, or of anything else. -/
inductive ImageData where
  | picture (width height : Nat)
  | other (content : String)
deriving Repr, DecidableEq

/-- What became of an image source. -/
inductive Fetched where
  | loaded (data : ImageData)
  | failed (reason : String)
deriving Repr, DecidableEq

/-- What became of each image source. -/
abbrev Images := List (String × Fetched)

end ReportCard
