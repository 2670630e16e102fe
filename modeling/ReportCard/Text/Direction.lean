import ReportCard.Text.HostPart
import ReportCard.Text.Mark

/-!
# Directions of writing

The direction in which the characters of host names are written, as far as it decides which of them may stand together.
-/

namespace ReportCard.Text

/-- How a character takes part in the direction of its text. -/
inductive Direction where
  /-- Written to the right. -/
  | rightward
  /-- Written to the left. -/
  | leftward
  /-- A digit that is common in text written to the left. -/
  | easternDigit
  /-- Any other digit that may stand in either text. -/
  | digit
  /-- A mark, which follows the character that it stands on. -/
  | mark
  /-- Written like what is around it. -/
  | neutral
deriving Repr, DecidableEq

/-- Ranges that hold, of the characters of host names other than marks and digits, those written to the left. -/
def leftwardRanges : List (Nat × Nat) :=
  [(0x5D0, 0x8C9), (0xFE73, 0xFE73), (0x10800, 0x10FF6), (0x1E800, 0x1E959)]

/-- Ranges that hold, of the characters of host names, those written like what is around them. -/
def neutralRanges : List (Nat × Nat) :=
  [(0x2D, 0x2D), (0xB7, 0xB7), (0x2B9, 0x2BA), (0x2C6, 0x2CF), (0x2EC, 0x2EC), (0x375, 0x375), (0x200C, 0x200D),
   (0x2E2F, 0x2E2F), (0x30FB, 0x30FB), (0xA67F, 0xA67F), (0xA717, 0xA71F), (0xA788, 0xA788)]

/-- The direction of a character of a host name, if it is known. -/
def direction? (n : Nat) : Option Direction :=
  if isStrange n then none
  else if isOverlay n then some .mark
  else if inRanges [(0x660, 0x669), (0x10D30, 0x10D39)] n then some .easternDigit
  else if inRanges [(0x30, 0x39), (0x6F0, 0x6F9)] n then some .digit
  else if inRanges neutralRanges n then some .neutral
  else if inRanges leftwardRanges n then some .leftward
  else some .rightward

end ReportCard.Text
