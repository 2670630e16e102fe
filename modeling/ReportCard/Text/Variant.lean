/-!
# Variants of ASCII letters

Letters and digits that only differ from those of ASCII in how they are drawn or set: wide, raised, joined, or in one of
the alphabets of mathematics.  In a name they mean the same as the plain characters.
-/

namespace ReportCard.Text

/-- Runs of variants of one character each, by their first code points, with the plain characters. -/
def variantRuns : List (Nat × String) :=
  [(0xAA, "a"), (0xBA, "o"), (0x17F, "s"), (0x2B0, "h"), (0x2B2, "jr"), (0x2B7, "wy"), (0x2E1, "lsx"), (0x1D2C, "A"),
   (0x1D2E, "B"), (0x1D30, "DE"), (0x1D33, "GHIJKLMN"), (0x1D3C, "O"), (0x1D3E, "PRTUWa"), (0x1D47, "bde"),
   (0x1D4D, "g"), (0x1D4F, "km"), (0x1D52, "o"), (0x1D56, "ptu"), (0x1D5B, "v"), (0x1D62, "iruv"), (0x1D9C, "c"),
   (0x1DA0, "f"), (0x1DBB, "z"), (0x2071, "i"), (0x207F, "n"), (0x2090, "aeox"), (0x2095, "hklmnpst"), (0x2102, "C"),
   (0x210A, "gHHHh"), (0x2110, "IILl"), (0x2115, "N"), (0x2119, "PQRRR"), (0x2124, "Z"), (0x2128, "Z"),
   (0x212A, "K"), (0x212C, "BC"), (0x212F, "eEF"), (0x2133, "Mo"), (0x2139, "i"), (0x2145, "Ddeij"), (0x2160, "I"),
   (0x2164, "V"), (0x2169, "X"), (0x216C, "LCDMi"), (0x2174, "v"), (0x2179, "x"), (0x217C, "lcdm"), (0x2C7C, "jV"),
   (0xA7F2, "CFQ"), (0xFE33, "__"), (0xFE4D, "___"), (0xFF10, "0123456789"), (0xFF21, "ABCDEFGHIJKLMNOPQRSTUVWXYZ"),
   (0xFF3F, "_"), (0xFF41, "abcdefghijklmnopqrstuvwxyz"), (0x107A5, "q"), (0x1FBF0, "0123456789")]

/-- Variants of several characters, with the plain characters. -/
def variantLigatures : List (Nat × String) :=
  [(0x132, "IJ"), (0x133, "ij"), (0x1C7, "LJ"), (0x1C8, "Lj"), (0x1C9, "lj"), (0x1CA, "NJ"), (0x1CB, "Nj"),
   (0x1CC, "nj"), (0x1F1, "DZ"), (0x1F2, "Dz"), (0x1F3, "dz"), (0x2161, "II"), (0x2162, "III"), (0x2163, "IV"),
   (0x2165, "VI"), (0x2166, "VII"), (0x2167, "VIII"), (0x2168, "IX"), (0x216A, "XI"), (0x216B, "XII"),
   (0x2171, "ii"), (0x2172, "iii"), (0x2173, "iv"), (0x2175, "vi"), (0x2176, "vii"), (0x2177, "viii"),
   (0x2178, "ix"), (0x217A, "xi"), (0x217B, "xii"), (0xFB00, "ff"), (0xFB01, "fi"), (0xFB02, "fl"), (0xFB03, "ffi"),
   (0xFB04, "ffl"), (0xFB05, "st"), (0xFB06, "st")]

/-- The letter of one of the thirteen alphabets of mathematics, each with capital and small letters. -/
def mathematicalLetter (n : Nat) : Char :=
  let i := (n - 0x1D400) % 52
  if i < 26 then Char.ofNat ('A'.toNat + i) else Char.ofNat ('a'.toNat + (i - 26))

/-- The plain characters of ASCII that a character outside ASCII is a variant of. -/
def plainForm? (c : Char) : Option (List Char) :=
  let n := c.toNat
  if 0x1D400 ≤ n && n ≤ 0x1D6A3 then some [mathematicalLetter n]
  else if 0x1D7CE ≤ n && n ≤ 0x1D7FF then some [Nat.digitChar ((n - 0x1D7CE) % 10)]
  else match variantLigatures.lookup n with
    | some s => some s.toList
    | none => variantRuns.findSome? fun r => if r.1 ≤ n then (r.2.toList[n - r.1]?).map ([·]) else none

end ReportCard.Text
