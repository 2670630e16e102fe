import ReportCard.Value.Basic

/-!
# Closed vocabularies

The symbols by which templates name the kinds of elements and of tables.  A symbol outside the vocabulary is no error:
it stands for no kind.
-/

namespace ReportCard

/-- The member of a vocabulary whose symbol the value is. -/
def Value.choose {κ : Type} (v : Value) (all : List κ) (symbol : κ → String) : Option κ :=
  all.find? fun k => v.isText (symbol k)

/-- The kinds of elements. -/
inductive ElementKind where
  | shape
  | line
  | text
  | dynamic
  | image
  | table
deriving Repr, DecidableEq

namespace ElementKind

/-- All kinds of elements. -/
def all : List ElementKind := [shape, line, text, dynamic, image, table]

/-- The symbol of a kind. -/
def symbol : ElementKind → String
  | shape => "shape"
  | line => "line"
  | text => "text"
  | dynamic => "dynamic"
  | image => "image"
  | table => "table"

/-- The kind that a value names. -/
def ofValue? (v : Value) : Option ElementKind := v.choose all symbol

end ElementKind

/-- The kinds of tables: marks by subject, or ratings of traits or of skills. -/
inductive TableKind where
  | subjects
  | affective
  | psychomotor
deriving Repr, DecidableEq

namespace TableKind

/-- All kinds of tables. -/
def all : List TableKind := [subjects, affective, psychomotor]

/-- The symbol of a kind. -/
def symbol : TableKind → String
  | subjects => "subjects"
  | affective => "affective"
  | psychomotor => "psychomotor"

/-- The kind that a value names. -/
def ofValue? (v : Value) : Option TableKind := v.choose all symbol

end TableKind

end ReportCard
