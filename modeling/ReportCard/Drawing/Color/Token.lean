import ReportCard.Drawing.Color.Paint
import ReportCard.Text.CharacterName
import ReportCard.Text.NamePart
import ReportCard.Text.Variant

/-!
# Tokens of color terms

The pieces that a term is written with: numbers in several bases, texts between quotes, names and marks.  A line may
end between brackets, after a backslash, and where nothing follows.
-/

namespace ReportCard.Color

/-- A piece of a term. -/
inductive Token where
  | number (p : Paint)
  | text (s : String)
  | bytes (s : String)
  /-- A name, and whether it is written in plain characters. -/
  | word (s : String) (isPlain : Bool)
  | mark (s : String)

namespace Token

/-! ### Names -/

/-- Whether a character of ASCII may stand in a name. -/
def isNamePart (c : Char) : Bool := c.isAlphanum || c == '_'

/-- The name at the front of a text, in plain characters where there are some for it, and the rest. -/
def name? (cs : List Char) : Option (Token × List Char) :=
  let isPart (c : Char) : Bool := isNamePart c || 0x80 ≤ c.toNat
  let written := cs.takeWhile isPart
  if Text.isName written then
    some (word (String.ofList (written.flatMap fun c => (Text.plainForm? c).getD [c])) (written.all isNamePart),
      cs.dropWhile isPart)
  else none

/-- The words that are no names. -/
def isReserved (s : String) : Bool :=
  ["False", "None", "True", "and", "as", "assert", "async", "await", "break", "class", "continue", "def", "del", "elif",
    "else", "except", "finally", "for", "from", "global", "if", "import", "in", "is", "lambda", "nonlocal", "not", "or",
    "pass", "raise", "return", "try", "while", "with", "yield"].contains s

/-! ### Numbers -/

/-- The base that the letter after a zero asks for. -/
def base? (c : Char) : Option Nat :=
  if c == 'x' || c == 'X' then some 16
  else if c == 'o' || c == 'O' then some 8
  else if c == 'b' || c == 'B' then some 2
  else none

/-- The whole number that digits and underscores between them stand for; only zero begins with a zero. -/
def whole? (cs : List Char) : Option Value := do
  let ds ← Numeral.ungroup? ' ' cs
  if ds.isEmpty || Numeral.maxDigits < ds.length then none
  else if ds.head? == some '0' && !ds.all (· == '0') then none
  else some (.int (Numeral.natOfDigits ds))

/-- Whether a character may stand among the digits of a number. -/
def isDigitPart (c : Char) : Bool := c.isDigit || c == '_'

/-- An exponent of ten at the front of a text, if there is one, and the rest. -/
def exponent (cs : List Char) : List Char × List Char :=
  match cs with
  | e :: r =>
    let sign := r.takeWhile fun c => c == '+' || c == '-'
    let digits := r.drop sign.length
    if (e == 'e' || e == 'E') && sign.length ≤ 1 && (digits.head?.map Char.isDigit).getD false then
      (e :: sign ++ digits.takeWhile isDigitPart, digits.dropWhile isDigitPart)
    else ([], cs)
  | [] => ([], [])

/-- A number that nothing of a name follows. -/
def ended? (p : Option Paint) (rest : List Char) : Option (Paint × List Char) :=
  if (rest.head?.map isNamePart).getD false then none else p.map (·, rest)

/-- A number in base ten at the front of a text, and the rest: a point or an exponent makes a double. -/
def decimal? (cs : List Char) : Option (Paint × List Char) :=
  let front := cs.takeWhile isDigitPart
  let (fraction, rest) := match cs.dropWhile isDigitPart with
    | '.' :: r => ('.' :: r.takeWhile isDigitPart, r.dropWhile isDigitPart)
    | r => ([], r)
  let (power, rest) := exponent rest
  let real := Numeral.float? (String.ofList (front ++ fraction ++ power))
  match rest with
  | 'j' :: rest | 'J' :: rest => ended? (real.map fun x => .complex 0.0 x) rest
  | rest =>
    if fraction.isEmpty && power.isEmpty then ended? ((whole? front).map .plain) rest
    else ended? (real.map fun x => .plain (.float x)) rest

/-- A number at the front of a text, and the rest; a letter after a zero gives the base. -/
def number? (cs : List Char) : Option (Paint × List Char) :=
  match cs with
  | '0' :: x :: r =>
    match base? x with
    | some base =>
      let digits := match r with
        | '_' :: r => r
        | r => r
      ended? ((Numeral.nat? base (digits.takeWhile isNamePart)).map fun n => .plain (.int n))
        (digits.dropWhile isNamePart)
    | none => decimal? cs
  | _ => decimal? cs

/-! ### Texts -/

/-- How the text behind a quote is read. -/
structure TextKind where
  /-- Whether it is read as it stands. -/
  raw : Bool
  /-- Whether it is made of bytes. -/
  bytes : Bool

/-- The word in front of a quote that says how the text is read; capitals are as good as small letters. -/
def textKind? (word : String) : Option TextKind :=
  [("", ⟨false, false⟩), ("r", ⟨true, false⟩), ("u", ⟨false, false⟩), ("b", ⟨false, true⟩), ("rb", ⟨true, true⟩),
    ("br", ⟨true, true⟩)].lookup word.toLower

/-- The characters up to the quote that ends a text, or up to three such quotes, and the rest.  The character behind a
backslash ends nothing; a line ends only texts between single quotes, and wrongly. -/
def body? (quote : Char) (long : Bool) (before : List Char) : List Char → Option (List Char × List Char)
  | [] => none
  | '\\' :: c :: cs => body? quote long (c :: '\\' :: before) cs
  | c :: cs =>
    if c == quote && !long then some (before.reverse, cs)
    else if c == quote && [quote, quote].isPrefixOf cs then some (before.reverse, cs.drop 2)
    else if c == '\n' && !long then none
    else body? quote long (c :: before) cs

/-- The character with a number in base sixteen. -/
def codePoint? (cs : List Char) : Option Char := do
  let n ← Numeral.nat? 16 (cs.filter (· != '_'))
  if n.isValidChar && !cs.contains '_' then some (Char.ofNat n) else none

/-- The characters that stand behind a backslash for another one. -/
def escapes : List (Char × Char) :=
  [('\\', '\\'), ('\'', '\''), ('"', '"'), ('n', '\n'), ('t', '\t'), ('r', '\r'), ('a', '\x07'), ('b', '\x08'),
    ('f', '\x0c'), ('v', '\x0b')]

/-- How many digits in base sixteen follow a letter behind a backslash, if it announces a character so. -/
def hexLength? (bytes : Bool) (c : Char) : Option Nat :=
  if c == 'x' then some 2 else if bytes then none else if c == 'u' then some 4 else if c == 'U' then some 8 else none

/-- Whether a character is a digit in base eight. -/
def isOctal (c : Char) : Bool := '0' ≤ c && c ≤ '7'

/-- The name between braces at the front of a text, and how many characters it takes with them. -/
def bracedName? (cs : List Char) : Option (String × Nat) :=
  match cs with
  | '\x7b' :: rest =>
    let name := rest.takeWhile (· != '\x7d')
    if name.length < rest.length then some (String.ofList name, name.length + 2) else none
  | _ => none

/-- What an escape means, without its backslash, and how many characters it takes.  What means nothing stands for
itself, with the backslash. -/
def escape? (bytes : Bool) (c : Char) (cs : List Char) : Option (List Char × Nat) :=
  if c == '\n' then some ([], 1)
  else match escapes.lookup c with
    | some d => some ([d], 1)
    | none =>
      if isOctal c then
        let digits := ((c :: cs).take 3).takeWhile isOctal
        let n := (Numeral.nat? 8 digits).getD 0
        some ([Char.ofNat (if bytes then n % 256 else n)], digits.length)
      else match hexLength? bytes c with
        | some n => if (cs.take n).length < n then none else (codePoint? (cs.take n)).map fun d => ([d], n + 1)
        | none =>
          if c == 'N' && !bytes then
            (bracedName? cs).bind fun (name, n) => (Text.ofName? name).map fun d => ([d], n + 1)
          else some (['\\', c], 1)

/-- The characters that a text between quotes stands for, in at most `fuel` steps. -/
def unescape? (bytes : Bool) : Nat → List Char → Option (List Char)
  | _, [] => some []
  | 0, _ => none
  | fuel + 1, '\\' :: c :: cs =>
    (escape? bytes c cs).bind fun (meaning, n) => (unescape? bytes fuel ((c :: cs).drop n)).map (meaning ++ ·)
  | fuel + 1, c :: cs => (unescape? bytes fuel cs).map (c :: ·)

/-- The text of a kind behind its first quote, and the rest. -/
def text? (kind : TextKind) (quote : Char) (cs : List Char) : Option (Token × List Char) := do
  let long := [quote, quote].isPrefixOf cs
  let (body, rest) ← if long then body? quote true [] (cs.drop 2) else body? quote false [] cs
  let meant ← if kind.raw then some body else unescape? kind.bytes body.length body
  if !kind.bytes then return (text (String.ofList meant), rest)
  else if body.all (·.toNat < 0x80) then return (bytes (String.ofList meant), rest)
  else none

/-- The text behind a word, which may be empty, if a quote follows there. -/
def quoted? (cs : List Char) : Option (Option (Token × List Char)) :=
  match cs.dropWhile isNamePart with
  | quote :: rest =>
    if quote == '"' || quote == '\'' then
      some ((textKind? (String.ofList (cs.takeWhile isNamePart))).bind fun kind => text? kind quote rest)
    else none
  | [] => none

/-! ### Lines -/

/-- Whether a character stands between tokens of one line and means nothing. -/
def isGap (c : Char) : Bool := c == ' ' || c == '\t' || c == '\x0c'

/-- A text in which every line ends in a line feed alone. -/
def withLineFeeds : List Char → List Char
  | '\r' :: '\n' :: cs => '\n' :: withLineFeeds cs
  | '\r' :: cs => '\n' :: withLineFeeds cs
  | c :: cs => c :: withLineFeeds cs
  | [] => []

mutual

/-- What follows the lines at the front that hold nothing or only a comment, and how far it is set in.  Behind a
backslash the next line goes on; how far the first of such lines is set in then counts, unless it is not set in. -/
def content? (column joined : Nat) : List Char → Option (Nat × List Char)
  | [] => some (if joined = 0 then column else joined, [])
  | ' ' :: cs => content? (column + 1) joined cs
  | '\t' :: cs => content? (column + 1) joined cs
  | '\x0c' :: cs => content? 0 joined cs
  | '\n' :: cs => content? 0 0 cs
  | '#' :: cs => afterComment? cs
  | '\\' :: '\n' :: c :: cs => content? column (if joined = 0 then column else joined) (c :: cs)
  | '\\' :: _ => none
  | cs => some (if joined = 0 then column else joined, cs)

/-- What follows the line of a comment and more such lines. -/
def afterComment? : List Char → Option (Nat × List Char)
  | [] => some (0, [])
  | '\n' :: cs => content? 0 0 cs
  | _ :: cs => afterComment? cs

end

/-- The marks that structure terms; of two marks that begin alike the longer one comes first. -/
def marks : List String :=
  ["**", "//", "<<", ">>", "<=", ">=", "==", "!=", ":=", "(", ")", "[", "]", "\x7b", "\x7d", ",", ":", "+", "-", "=",
    "*", "/", "%", "@", "&", "|", "^", "~", "<", ">", "."]

/-- The mark at the front of a text, and the rest. -/
def mark? (cs : List Char) : Option (String × List Char) :=
  marks.findSome? fun m => (m.toList.isPrefixOf? cs).map (m, ·)

/-- How deep brackets may be put into each other. -/
def maxDepth : Nat := 200

/-- How deep brackets are open after a mark. -/
def depthAfter (depth : Nat) (m : String) : Nat :=
  if ["(", "[", "\x7b"].contains m then depth + 1 else if [")", "]", "\x7d"].contains m then depth - 1 else depth

/-- The token at the front of a text, and the rest. -/
def next? (cs : List Char) : Option (Token × List Char) :=
  match cs with
  | '.' :: '.' :: '.' :: rest => some (number .dots, rest)
  | c :: d =>
    if c.isDigit || (c == '.' && (d.head?.map Char.isDigit).getD false) then
      (number? cs).map fun (p, rest) => (number p, rest)
    else (quoted? cs).getD ((name? cs).or ((mark? cs).map fun (m, rest) => (mark m, rest)))
  | [] => none

/-- The tokens of a text, in at most `fuel` steps, with `depth` brackets open. -/
def all? (depth : Nat) : Nat → List Char → Option (List Token)
  | _, [] => some []
  | 0, _ => none
  | fuel + 1, c :: cs =>
    if maxDepth < depth then none
    else if c == '\n' then
      if depth = 0 then
        (content? 0 0 cs).bind fun (column, rest) => if column = 0 && rest.isEmpty then some [] else none
      else all? depth fuel cs
    else if c == '\\' then
      match cs with
      | '\n' :: rest => if rest.isEmpty then none else all? depth fuel rest
      | _ => none
    else if isGap c then all? depth fuel cs
    else if c == '#' then all? depth fuel (cs.dropWhile (· != '\n'))
    else
      (next? (c :: cs)).bind fun (token, rest) =>
        let depth := match token with
          | mark m => depthAfter depth m
          | _ => depth
        (all? depth fuel rest).map (token :: ·)

/-- The tokens of a text, which is not set in and does not hold the character NUL. -/
def ofText? (s : String) : Option (List Token) :=
  if s.toList.contains '\x00' then none
  else
    (content? 0 0 (withLineFeeds s.toList)).bind fun (column, cs) =>
      if column = 0 then all? 0 (cs.length + 1) cs else none

end Token

end ReportCard.Color
