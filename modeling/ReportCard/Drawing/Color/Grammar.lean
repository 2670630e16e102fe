import ReportCard.Drawing.Color.Term
import ReportCard.Drawing.Color.Token

/-!
# Reading color terms

The term that a text writes.  Each mark between two terms has a rank, and of two marks the one of higher rank binds its
terms first.  The language knows more marks than those that mean something; a term with one of the others is well-formed
but stands for nothing.
-/

namespace ReportCard.Color

namespace Term

/-- A piece between brackets. -/
inductive Item where
  | plain (t : Term)
  /-- Several terms out of one. -/
  | starred
  /-- A term that gets a name. -/
  | named
  | labelled (label : String) (t : Term)
  /-- Terms with labels out of a mapping. -/
  | spread (t : Term)
  | entry (key t : Term)

namespace Item

/-- An item as an item of a list. -/
def term? : Item → Option Term
  | plain t => some t
  | starred | named => some (.other false)
  | _ => none

/-- An item as an entry of a mapping. -/
def entry? : Item → Option (Term × Term)
  | entry key t => some (key, t)
  | spread t => some (.other false, t)
  | _ => none

/-- An item as an argument with a label. -/
def labelled? : Item → Option (String × Term)
  | labelled label t => some (label, t)
  | spread t => some (Paint.spread, t)
  | _ => none

/-- Whether an item may follow arguments with labels. -/
def mayFollowLabels : Item → Bool
  | labelled .. | spread _ | starred => true
  | _ => false

/-- Whether an item may follow arguments out of a mapping. -/
def mayFollowSpread : Item → Bool
  | labelled .. | spread _ => true
  | _ => false

/-- Whether an item is arguments out of a mapping. -/
def isSpread : Item → Bool
  | spread _ => true
  | _ => false

end Item

/-! ### Brackets -/

/-- What items between round brackets make: one item without a comma is that item itself. -/
def grouped? (items : List Item) (comma : Bool) : Option Term :=
  match items, comma with
  | [.starred], false => none
  | [item], false => item.term?
  | items, _ => (items.mapM Item.term?).map .tuple

/-- What items without brackets around them make. -/
def bare? (items : List Item) (comma : Bool) : Option Term :=
  if items.all fun
    | .plain _ => true
    | _ => false
  then grouped? items comma else none

/-- What items between braces make: with keys a mapping, without a set. -/
def braced? (items : List Item) : Option Term :=
  if items.isEmpty then some (.mapping [])
  else ((items.mapM Item.entry?).map .mapping).or ((items.mapM Item.term?).map .set)

/-- What a term with arguments makes; only names of functions stand for something then. -/
def applied? (head : Term) (items : List Item) : Option Term :=
  let behindLabel := items.dropWhile fun item => item.labelled?.isNone
  let behindSpread := items.dropWhile fun item => !item.isSpread
  let arguments := items.filter fun item => item.labelled?.isNone
  if behindLabel.all Item.mayFollowLabels && behindSpread.all Item.mayFollowSpread then
    (arguments.mapM Item.term?).map fun placed =>
      match head with
      | .name s => .apply s placed (items.filterMap Item.labelled?)
      | _ => .other false
  else none

/-- Texts of one kind that stand next to each other are one text; those of two kinds may not. -/
def joinTexts? (bytes : Bool) (s : String) : List Token → Option (String × List Token)
  | .text t :: rest => if bytes then none else joinTexts? bytes (s ++ t) rest
  | .bytes t :: rest => if bytes then joinTexts? bytes (s ++ t) rest else none
  | rest => some (s, rest)

/-- The tokens behind a bracket that closes what `depth` others have opened. -/
def afterBracket? (depth : Nat) : List Token → Option (List Token)
  | [] => none
  | .mark m :: rest =>
    if Token.depthAfter 1 m = 2 then afterBracket? (depth + 1) rest
    else if Token.depthAfter 1 m = 1 then afterBracket? depth rest
    else if depth = 0 then some rest
    else afterBracket? (depth - 1) rest
  | _ :: rest => afterBracket? depth rest

/-! ### Ranks -/

/-- What a mark between two terms makes of them. -/
inductive Joint where
  | sum (negative : Bool)
  | operation
  | relation
deriving Repr, DecidableEq

/-- What a joint makes of two terms. -/
def Joint.join (j : Joint) (left right : Term) : Term :=
  match j with
  | sum negative => .sum negative left right
  | operation => .other true
  | relation => .other false

/-- The ranks of what stands between two terms, and of signs. -/
def jointRanks : List (String × Nat × Joint) :=
  [("or", 1, .relation), ("and", 2, .relation), ("<", 4, .relation), (">", 4, .relation), ("<=", 4, .relation),
    (">=", 4, .relation), ("==", 4, .relation), ("!=", 4, .relation), ("in", 4, .relation), ("is", 4, .relation),
    ("|", 5, .operation), ("^", 6, .operation), ("&", 7, .operation), ("<<", 8, .operation), (">>", 8, .operation),
    ("+", 9, .sum false), ("-", 9, .sum true), ("*", 10, .operation), ("/", 10, .operation), ("//", 10, .operation),
    ("%", 10, .operation), ("@", 10, .operation)]

/-- The rank of what is denied. -/
def denialRank : Nat := 3

/-- The rank of what may follow a star. -/
def starRank : Nat := 5

/-- The rank of what has a sign. -/
def signRank : Nat := 11

/-- The joint at the front of tokens with its rank, and the rest. -/
def joint? : List Token → Option (Nat × Joint × List Token)
  | .word "not" true :: .word "in" true :: rest => some (4, .relation, rest)
  | .word "is" true :: .word "not" true :: rest => some (4, .relation, rest)
  | .mark m :: rest => (jointRanks.lookup m).map fun (rank, j) => (rank, j, rest)
  | .word s true :: rest => (jointRanks.lookup s).map fun (rank, j) => (rank, j, rest)
  | _ => none

mutual

/-- Reads a term of at least a rank in at most `fuel` steps; the rest of the tokens is left. -/
def read? : Nat → Nat → List Token → Option (Term × List Token)
  | 0, _, _ => none
  | fuel + 1, rank, tokens => (readFront? fuel rank tokens).bind fun (t, rest) => readMore? fuel rank t rest

/-- Reads what is joined to a term at its right, or the choice that it is part of. -/
def readMore? : Nat → Nat → Term → List Token → Option (Term × List Token)
  | 0, _, _, _ => none
  | fuel + 1, rank, left, tokens =>
    match joint? tokens, rank, tokens with
    | some (own, j, rest), _, _ =>
      if own < rank then some (left, tokens)
      else (read? fuel (own + 1) rest).bind fun (right, rest) => readMore? fuel rank (j.join left right) rest
    | none, 0, .word "if" true :: rest =>
      (read? fuel 1 rest).bind fun (_, rest) =>
        match rest with
        | .word "else" true :: rest => (read? fuel 0 rest).map fun (_, rest) => (.other false, rest)
        | _ => none
    | _, _, _ => some (left, tokens)

/-- Reads a term that nothing is joined to, with the signs before it and the power after it. -/
def readFront? : Nat → Nat → List Token → Option (Term × List Token)
  | 0, _, _ => none
  | fuel + 1, rank, tokens =>
    match tokens with
    | .word "not" true :: rest =>
      if denialRank < rank then none else (read? fuel denialRank rest).map fun (_, rest) => (.other true, rest)
    | .mark "+" :: rest => (readFront? fuel signRank rest).map fun (t, rest) => (.signed false t, rest)
    | .mark "-" :: rest => (readFront? fuel signRank rest).map fun (t, rest) => (.signed true t, rest)
    | .mark "~" :: rest => (readFront? fuel signRank rest).map fun (_, rest) => (.other true, rest)
    | tokens =>
      (readAtom? fuel tokens).bind fun (t, rest) => (readBehind? fuel t rest).bind fun (t, rest) =>
        match rest with
        | .mark "**" :: rest => (readFront? fuel signRank rest).map fun (_, rest) => (.other true, rest)
        | rest => some (t, rest)

/-- Reads the arguments, parts and items that are asked of a term. -/
def readBehind? : Nat → Term → List Token → Option (Term × List Token)
  | 0, _, _ => none
  | fuel + 1, t, tokens =>
    match tokens with
    | .mark "(" :: rest =>
      (readItems? fuel ")" rest).bind fun (items, _, rest) =>
        (applied? t items).bind fun t => readBehind? fuel t rest
    | .mark "." :: .word s isPlain :: rest =>
      if isPlain && Token.isReserved s then none else readBehind? fuel (.other false) rest
    | .mark "[" :: rest => (afterBracket? 0 rest).bind fun rest => readBehind? fuel (.other false) rest
    | rest => some (t, rest)

/-- Reads a term that no other one is part of but between brackets. -/
def readAtom? : Nat → List Token → Option (Term × List Token)
  | 0, _ => none
  | fuel + 1, tokens =>
    match tokens with
    | .number p :: rest => some (.constant p, rest)
    | .text s :: rest => (joinTexts? false s rest).map fun (s, rest) => (.constant (.plain (.text s)), rest)
    | .bytes s :: rest => (joinTexts? true s rest).map fun (s, rest) => (.constant (.bytes s), rest)
    | .word s isPlain :: rest =>
      if !(isPlain && Token.isReserved s) then some (.name s, rest)
      else (constant? s).map fun p => (.constant p, rest)
    | .mark "(" :: rest =>
      (readItems? fuel ")" rest).bind fun (items, comma, rest) => (grouped? items comma).map (·, rest)
    | .mark "[" :: rest =>
      (readItems? fuel "]" rest).bind fun (items, _, rest) =>
        (items.mapM Item.term?).map fun ts => (.list ts, rest)
    | .mark "\x7b" :: rest =>
      (readItems? fuel "\x7d" rest).bind fun (items, _, rest) => (braced? items).map (·, rest)
    | _ => none

/-- Reads items up to the bracket that closes them; also tells whether there was a comma. -/
def readItems? : Nat → String → List Token → Option (List Item × Bool × List Token)
  | 0, _, _ => none
  | fuel + 1, closing, tokens =>
    if tokens.head?.any fun
      | .mark m => m == closing
      | _ => false
    then some ([], false, tokens.tail)
    else
      (readItem? fuel tokens).bind fun (item, rest) =>
        match rest with
        | .mark m :: rest =>
          if m == "," then (readItems? fuel closing rest).map fun (items, _, rest) => (item :: items, true, rest)
          else if m == closing then some ([item], false, rest)
          else none
        | _ => none

/-- Reads an item. -/
def readItem? : Nat → List Token → Option (Item × List Token)
  | 0, _ => none
  | fuel + 1, tokens =>
    match tokens with
    | .mark "*" :: rest => (read? fuel starRank rest).map fun (_, rest) => (.starred, rest)
    | .mark "**" :: rest => (read? fuel 0 rest).map fun (t, rest) => (.spread t, rest)
    | .word s isPlain :: .mark "=" :: rest =>
      if isPlain && Token.isReserved s then none
      else (read? fuel 0 rest).map fun (t, rest) => (.labelled s t, rest)
    | .word s isPlain :: .mark ":=" :: rest =>
      if isPlain && Token.isReserved s then none
      else (read? fuel 0 rest).map fun (_, rest) => (.named, rest)
    | tokens =>
      (read? fuel 0 tokens).bind fun (t, rest) =>
        match rest with
        | .mark ":" :: rest => (read? fuel 0 rest).map fun (v, rest) => (.entry t v, rest)
        | rest => some (.plain t, rest)

end

/-- The term that a text writes; the outermost brackets may be left out. -/
def ofText? (s : String) : Option Term := do
  let tokens ← Token.ofText? s
  if tokens.isEmpty then none
  else
    let (items, comma, rest) ← readItems? (8 * tokens.length + 16) ")" (tokens ++ [.mark ")"])
    if rest.isEmpty then bare? items comma else none

end Term

end ReportCard.Color
