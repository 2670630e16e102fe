/-!
# Punycode

Texts in the letters, digits and the hyphen of ASCII.  The ASCII characters of a text come first; the others follow in
the order of their code points, each as the distance to the one before it, counted in code points and positions
together, with digits in base 36 whose weights adapt to the distances seen so far.
-/

namespace ReportCard.Text.Punycode

/-- A digit in base 36: the letters come before the digits. -/
def digit (d : Nat) : Char := if d < 26 then Char.ofNat (0x61 + d) else Char.ofNat (0x30 + (d - 26))

/-- The largest value of a last digit, by the place of the digit; at least one and at most 26. -/
def threshold (place bias : Nat) : Nat := if place ≤ bias then 1 else if bias + 26 ≤ place then 26 else place - bias

theorem one_le_threshold (place bias : Nat) : 1 ≤ threshold place bias := by
  unfold threshold
  split
  · omega
  · split <;> omega

theorem threshold_le (place bias : Nat) : threshold place bias ≤ 26 := by
  unfold threshold
  split
  · omega
  · split <;> omega

/-- The digits of a distance from a place on, the lowest first. -/
def digits (bias place q : Nat) : List Char :=
  let t := threshold place bias
  if q < t then [digit q]
  else digit (t + (q - t) % (36 - t)) :: digits bias (place + 36) ((q - t) / (36 - t))
termination_by q
decreasing_by
  have low := one_le_threshold place bias
  have high := threshold_le place bias
  exact Nat.lt_of_le_of_lt (Nat.div_le_self _ _) (by omega)

/-- Divides a distance until it is small; also counts places. -/
def shrink (delta place : Nat) : Nat × Nat :=
  if 455 < delta then shrink (delta / 35) (place + 36) else (delta, place)
termination_by delta
decreasing_by exact Nat.div_lt_self (by omega) (by omega)

/-- The bias after a distance, when `handled` characters have been placed. -/
def adapt (delta handled : Nat) (isFirst : Bool) : Nat :=
  let delta := if isFirst then delta / 700 else delta / 2
  let (delta, place) := shrink (delta + delta / handled) 0
  place + 36 * delta / (delta + 38)

/-- What has been written: the digits, the distance since the last of them, the bias, and how many characters have
been placed. -/
structure State where
  output : List Char
  delta : Nat
  bias : Nat
  handled : Nat

/-- Passes a character of the text while those with the code point `n` are placed. -/
def pass (ascii n : Nat) (s : State) (c : Char) : State :=
  if c.toNat < n then { s with delta := s.delta + 1 }
  else if c.toNat = n then
    { output := s.output ++ digits s.bias 36 s.delta, delta := 0
      bias := adapt s.delta (s.handled + 1) (s.handled == ascii), handled := s.handled + 1 }
  else s

/-- Places the characters with the given code points, when all below `n` are placed. -/
def place (cs : List Char) (ascii : Nat) : List Nat → Nat → State → State
  | [], _, s => s
  | m :: ms, n, s =>
    let s := cs.foldl (pass ascii m) { s with delta := s.delta + (m - n) * (s.handled + 1) }
    place cs ascii ms (m + 1) { s with delta := s.delta + 1 }

/-- The text in ASCII. -/
def encode (cs : List Char) : List Char :=
  let ascii := cs.filter (·.toNat < 0x80)
  let others := ((cs.map Char.toNat).filter (0x80 ≤ ·)).eraseDups.mergeSort (· ≤ ·)
  let start : State := ⟨[], 0, 72, ascii.length⟩
  ascii ++ (if ascii.isEmpty then [] else ['-']) ++ (place cs ascii.length others 0x80 start).output

/-- The value of a digit in base 36. -/
def digitValue? (c : Char) : Option Nat :=
  if 'a' ≤ c && c ≤ 'z' then some (c.toNat - 0x61)
  else if 'A' ≤ c && c ≤ 'Z' then some (c.toNat - 0x41)
  else if c.isDigit then some (c.toNat - 0x30 + 26)
  else none

/-- What has been read: the text, the last code point that was placed and the position after it, the bias, whether
nothing was placed yet, and of the distance that is being read the digits so far, with the weight and the place of the
next one. -/
structure Reading where
  text : List Nat
  code : Nat
  position : Nat
  bias : Nat
  isFirst : Bool
  delta : Nat
  weight : Nat
  place : Nat

/-- Places the code point that lies a distance after the last one. -/
def Reading.insert (r : Reading) (delta : Nat) : Option Reading :=
  let places := r.text.length + 1
  let code := r.code + (r.position + delta) / places
  let position := (r.position + delta) % places
  if 0x10FFFF < code then none
  else some {
    text := r.text.take position ++ code :: r.text.drop position
    code, position := position + 1, bias := adapt delta places r.isFirst
    isFirst := false, delta := 0, weight := 1, place := 36 }

/-- Reads a digit. -/
def Reading.read (r : Reading) (c : Char) : Option Reading := do
  let d ← digitValue? c
  let t := threshold r.place r.bias
  let delta := r.delta + d * r.weight
  if d < t then r.insert delta else some { r with delta, weight := r.weight * (36 - t), place := r.place + 36 }

/-- The code points that a text in ASCII stands for, if it is one that `encode` could have written of them; some are no
characters. -/
def decode? (cs : List Char) : Option (List Nat) := do
  let back := cs.reverse.takeWhile (· != '-')
  let ascii := cs.take (cs.length - back.length - 1)
  let start : Reading :=
    { text := ascii.map Char.toNat, code := 0x80, position := 0, bias := 72, isFirst := true
      delta := 0, weight := 1, place := 36 }
  let r ← back.reverse.foldlM Reading.read start
  if r.place == 36 then some r.text else none

end ReportCard.Text.Punycode
