import ReportCard.Text.Blank

/-!
# Runs of character names

Characters that follow each other mostly have names that follow each other too: neighbours differ in a word.  A run
keeps the names of such characters by their differences.
-/

namespace ReportCard.Text

/-- The names of characters that follow each other, from the first code point on.  A semicolon stands between two
names of a row.  A name begins with a digit, which tells how many words of the name before it are kept; the words after
it follow them.  A tilde at its end stands for those words of the name before it whose places are not yet taken. -/
structure NameRun where
  first : Nat
  rows : List String

namespace NameRun

/-- The words of a name by those of the name before it. -/
def wordsAfter (previous : List (List Char)) : List Char → List (List Char)
  | [] => []
  | kept :: cs =>
    let kept := kept.toNat - '0'.toNat
    let words := splitBy (· == ' ') (cs.takeWhile (· != '~'))
    let front := previous.take kept ++ words
    if cs.contains '~' then front ++ previous.drop front.length else front

/-- The code point of the name with these words among names from a code point on. -/
def find? (words : List (List Char)) (point : Nat) (previous : List (List Char)) : List (List Char) → Option Nat
  | [] => none
  | name :: names =>
    let here := wordsAfter previous name
    if here == words then some point else find? words (point + 1) here names

/-- The code point of the name with these words in a run. -/
def lookup (words : List (List Char)) (run : NameRun) : Option Nat :=
  find? words run.first [] (run.rows.flatMap fun row => splitBy (· == ';') row.toList)

end NameRun

end ReportCard.Text
