import ReportCard.Drawing.Color.Basic

/-!
# Paints

What a text in the language of colors stands for.  Mostly that is a color; but numbers, texts and collections are put
together in that language too, and where one of them is left at the end, it is passed on as it is.
-/

namespace ReportCard

/-- A color, or another thing that color terms are about. -/
inductive Paint where
  /-- Nothing, a truth value, a number, a text, or a value from elsewhere. -/
  | plain (v : Value)
  /-- A text of bytes, each as the character with its number. -/
  | bytes (s : String)
  /-- A number with a real and an imaginary part. -/
  | complex (re im : Float)
  /-- Three dots, which stand for nothing in particular. -/
  | dots
  /-- An operation itself, with its name. -/
  | operation (name : String)
  | color (c : Color)
  | list (items : List Paint)
  | tuple (items : List Paint)
  | mapping (entries : List (Paint × Paint))
deriving Inhabited

/-- A reading that finds something, finds nothing, or stops at a fault. -/
abbrev Reading := OptionT (Except Fault)

namespace Paint

/-- No paint. -/
def nothing : Paint := plain .null

/-- The label of arguments out of a mapping, which no operation takes. -/
def spread : String := "**"

/-- Whether the paint is a color. -/
def isColor : Paint → Bool
  | color _ => true
  | _ => false

/-- Whether the paint counts as given. -/
def isTruthy : Paint → Bool
  | plain v => v.isTruthy
  | bytes s => !s.isEmpty
  | complex re im => !(re == 0.0 && im == 0.0)
  | dots | operation _ | color _ => true
  | list items | tuple items => !items.isEmpty
  | mapping entries => !entries.isEmpty

mutual

/-- Whether the paint can be looked up: collections that can change cannot. -/
def isKey : Paint → Bool
  | list _ | mapping _ => false
  | tuple items => areKeys items
  | _ => true

/-- Whether each of the paints can be looked up. -/
def areKeys : List Paint → Bool
  | [] => true
  | p :: ps => p.isKey && areKeys ps

end

/-- A quantity as a paint. -/
def ofQuantity (q : Quantity) : Except Fault Paint := q.toValue.map plain

/-- The color that a paint has to be. -/
def asColor : Paint → Except Fault Color
  | color c => .ok c
  | _ => .error .missingAttribute

/-- The items of a collection, the characters of a text, or the keys of a mapping. -/
def items : Paint → Except Fault (List Paint)
  | list ps | tuple ps => .ok ps
  | mapping entries => .ok (entries.map (·.1))
  | plain (.text s) => .ok (s.toList.map fun c => plain (.text (String.singleton c)))
  | bytes s => .ok (s.toList.map fun c => plain (.int c.toNat))
  | plain (.list vs) | plain (.tuple vs) => .ok (vs.map plain)
  | _ => .error .wrongKind

/-- What kind of thing a paint is. -/
def kind : Paint → String
  | plain v => v.kind
  | bytes _ => "bytes"
  | complex .. => "complex"
  | dots => "ellipsis"
  | operation _ => "function"
  | color c => c.className
  | list _ => "list"
  | tuple _ => "tuple"
  | mapping _ => "dict"

/-- A double as a part of a number with two parts: a whole one has no point. -/
def complexPart (x : Float) : String :=
  let s := floatText x
  if s.endsWith ".0" then String.ofList s.toList.dropLast.dropLast else s

/-- The form of a number with two parts; a real part that is zero is left out. -/
def complexText (re im : Float) : String :=
  let imaginary := complexPart im ++ "j"
  if re.toBits == 0 then imaginary
  else "(" ++ complexPart re ++ (if imaginary.startsWith "-" then "" else "+") ++ imaginary ++ ")"

mutual

/-- The form of a paint that tells its kind. -/
def literal : Paint → Except Fault String
  | plain v => v.written v.literal
  | bytes s => .ok (Text.quotedBytes s)
  | complex re im => .ok (complexText re im)
  | dots => .ok "Ellipsis"
  | operation name => .ok ("<function " ++ name ++ ">")
  | color c => c.display
  | list items => (literals items).map fun shown => "[" ++ Text.joinWith ", " shown ++ "]"
  | tuple items => (literals items).map fun shown =>
    match shown with
    | [only] => "(" ++ only ++ ",)"
    | several => "(" ++ Text.joinWith ", " several ++ ")"
  | mapping entries => (entryLiterals entries).map fun shown => "\x7b" ++ Text.joinWith ", " shown ++ "\x7d"

/-- The literals of paints. -/
def literals : List Paint → Except Fault (List String)
  | [] => .ok []
  | p :: ps => do return (← literal p) :: (← literals ps)

/-- The literals of the entries of a mapping. -/
def entryLiterals : List (Paint × Paint) → Except Fault (List String)
  | [] => .ok []
  | (k, p) :: rest => do return ((← literal k) ++ ": " ++ (← literal p)) :: (← entryLiterals rest)

end

/-- The text of a key. -/
def keyText : Paint → Except Fault String
  | plain v => v.display
  | p => p.literal

mutual

/-- The value in which a paint is shown; a color is shown by its four parts. -/
def shown : Paint → Except Fault Value
  | plain v => .ok v
  | color c => do
    let c ← c.settle
    return .list (← [c.red, c.green, c.blue, c.alpha].mapM Quantity.toValue)
  | list items | tuple items => (shownAll items).map .list
  | mapping entries => (shownEntries entries).map .mapping
  | bytes _ | complex .. | dots | operation _ => .error .wrongKind

/-- The values in which paints are shown. -/
def shownAll : List Paint → Except Fault (List Value)
  | [] => .ok []
  | p :: ps => do return (← shown p) :: (← shownAll ps)

/-- The entries of a mapping as they are shown. -/
def shownEntries : List (Paint × Paint) → Except Fault (List (String × Value))
  | [] => .ok []
  | (k, p) :: rest => do return (← k.keyText, ← shown p) :: (← shownEntries rest)

end

/-- The number that a paint is, or what is shown of it in its place; nothing can be done with what is not shown. -/
def quantity : Paint → Quantity
  | plain v => .ofValue v
  | bytes s => .bytes s
  | p =>
    match p.shown with
    | .ok v => .other v
    | .error _ => .spoiled .wrongKind

/-- The number that a paint has to be. -/
def number (p : Paint) : Except Fault Quantity := p.quantity.checked

/-- Whether two colors of one model have the same parts, or the same inks. -/
def isSameColor (c d : Color) : Bool :=
  let areEqual (qs rs : List Quantity) : Bool := (qs.zip rs).all fun (q, r) => Scalar.eq q r
  match c.inks, d.inks with
  | none, none => areEqual [c.red, c.green, c.blue, c.alpha] [d.red, d.green, d.blue, d.alpha]
  | some i, some j =>
    areEqual [i.cyan, i.magenta, i.yellow, i.key, i.density, c.alpha]
      [j.cyan, j.magenta, j.yellow, j.key, j.density, d.alpha] && i.spotName == j.spotName
  | _, _ => false

/-- The real and the imaginary part of a number. -/
def parts? : Paint → Option (Quantity × Float)
  | complex re im => some (.real re, im)
  | p => if p.quantity.isNumber then some (p.quantity, 0.0) else none

mutual

/-- Whether two paints are the same key: equal numbers of whatever kinds, rows of the same keys, or paints that look the
same. -/
def isSameKey : Paint → Paint → Bool
  | tuple ps, tuple qs => areSameKeys ps qs
  | color c, color d => isSameColor c d
  | p, q =>
    match p.parts?, q.parts? with
    | some (x, im), some (y, im') => Scalar.eq x y && im == im'
    | none, none => p.kind == q.kind && (match p.literal, q.literal with
      | .ok s, .ok t => s == t
      | _, _ => false)
    | _, _ => false

/-- Whether the paints of two rows are the same keys. -/
def areSameKeys : List Paint → List Paint → Bool
  | [], [] => true
  | p :: ps, q :: qs => isSameKey p q && areSameKeys ps qs
  | _, _ => false

end

/-- Writes a paint at a key, in place if the key is there. -/
def put (entries : List (Paint × Paint)) (key p : Paint) : List (Paint × Paint) :=
  if entries.any (isSameKey key ·.1) then entries.map fun e => if isSameKey key e.1 then (e.1, p) else e
  else entries ++ [(key, p)]

mutual

/-- The paint with its colors by doubles, if it can be shown. -/
def settle : Paint → Except Fault Paint
  | color c => c.settle.map color
  | list items => (settleAll items).map list
  | tuple items => (settleAll items).map tuple
  | mapping entries => (settleEntries entries).map mapping
  | bytes _ | complex .. | dots | operation _ => .error .wrongKind
  | plain v => .ok (plain v)

/-- The paints with their colors by doubles. -/
def settleAll : List Paint → Except Fault (List Paint)
  | [] => .ok []
  | p :: ps => do return (← settle p) :: (← settleAll ps)

/-- The entries of a mapping with their colors by doubles. -/
def settleEntries : List (Paint × Paint) → Except Fault (List (Paint × Paint))
  | [] => .ok []
  | (k, p) :: rest => do return (plain (.text (← k.keyText)), ← settle p) :: (← settleEntries rest)

end

mutual

/-- The paint as a canvas takes it: also the whole numbers outside mappings are doubles. -/
def inked : Paint → Except Fault Paint
  | plain (.int n) => (floatOfInt n).map fun x => plain (.float x)
  | list items => (inkedAll items).map list
  | tuple items => (inkedAll items).map tuple
  | p => p.settle

/-- The paints as a canvas takes them. -/
def inkedAll : List Paint → Except Fault (List Paint)
  | [] => .ok []
  | p :: ps => do return (← inked p) :: (← inkedAll ps)

end

mutual

/-- A value as a paint. -/
def ofValue : Value → Paint
  | .list vs => list (ofValues vs)
  | .tuple vs => tuple (ofValues vs)
  | .mapping es => mapping (ofEntries es)
  | v => plain v

/-- Values as paints. -/
def ofValues : List Value → List Paint
  | [] => []
  | v :: vs => ofValue v :: ofValues vs

/-- The entries of a mapping as paints. -/
def ofEntries : List (String × Value) → List (Paint × Paint)
  | [] => []
  | (k, v) :: es => (plain (.text k), ofValue v) :: ofEntries es

end

end Paint

end ReportCard
