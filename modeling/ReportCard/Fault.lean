import ReportCard.Text.Quoted

/-!
# Faults

The reasons why reading, painting or fetching can stop, each a constructor, and the one place that words them.
-/

namespace ReportCard

/-- A reason to stop. -/
inductive Fault where
  /-- A template that is not a mapping; `kind` names what it is instead. -/
  | notATemplate (kind : String)
  /-- An image that could not be loaded. -/
  | imageUnavailable (source reason : String)
  /-- A page size setting that is neither a known name nor two numbers; `shown` is the setting. -/
  | invalidPageSize (shown : String)
  /-- A page size setting with a dimension that is not positive. -/
  | emptyPageSize (shown : String)
  /-- A reference width that is not positive. -/
  | nonpositiveReference (shown : String)
  /-- A text where a number is needed; `shown` is its form. -/
  | notANumeral (shown : String)
  /-- Digits without a place value where a whole number is needed. -/
  | notAWholeNumeral (text : String)
  /-- A whole number with more digits than are read. -/
  | tooManyDigits (count : Nat)
  /-- A whole number with more digits than are written. -/
  | numberTooLong
  /-- A signalling decimal where a double is needed. -/
  | signallingNumber
  /-- A comparison of a decimal that has no order. -/
  | unorderedNumber
  /-- No whole number is nearest to what is not a number. -/
  | wholeOfNaN
  /-- No whole number is nearest to an infinite number. -/
  | wholeOfInfinity
  /-- A whole number outside the range of doubles. -/
  | numberTooLarge
  /-- A quotient of whole numbers outside the range of doubles. -/
  | quotientTooLarge
  /-- A quotient by a double that is zero. -/
  | divisionByZero
  /-- A path that contains the character NUL. -/
  | nulInPath
  /-- Bytes that hold no image. -/
  | undecodableImage
  /-- An image without any pixels. -/
  | pixellessImage
  /-- Numbers in a row that are not the parts of a color. -/
  | invalidColor
  /-- A drawing that a surface turns down with a message of its own. -/
  | refused (message : String)
  /-- A drawing that a surface cannot do at all. -/
  | unsupported
  /-- A value of a kind that the operation does not take. -/
  | wrongKind
  /-- A value that lacks what the operation asks of it. -/
  | missingAttribute
  /-- A mapping without a required key. -/
  | missingKey
  /-- A position outside a list. -/
  | missingItem
  /-- A power of a double outside the range of doubles. -/
  | powerTooLarge
  /-- A name that stands for nothing. -/
  | unboundName
  /-- An encoding that nobody knows. -/
  | unknownEncoding
  /-- A collection that was changed while it was gone through. -/
  | changedMeanwhile
  /-- A term with too many signs on each other. -/
  | tooDeep
deriving Repr, DecidableEq

/-- The form that tells the kind of a text, cut off after 200 characters. -/
def Fault.excerpt (text : String) : String := String.ofList ((Text.quoted text).toList.take 200)

/-- The wording for an image that could not be loaded; `shown` is the source as it is told. -/
def Fault.unavailable (shown reason : String) : String := "Failed to load image " ++ shown ++ ": " ++ reason

/-- The wording of a fault; a fault that is told by its kind alone has none. -/
def Fault.message : Fault → String
  | notATemplate kind => "Template must be a mapping with an 'elements' list, got " ++ kind ++ "."
  | imageUnavailable source reason => unavailable (Text.quoted source) reason
  | invalidPageSize shown => "RESULT_TEMPLATE_PAGE_SIZE " ++ shown ++ " is not a valid page size."
  | emptyPageSize shown => "RESULT_TEMPLATE_PAGE_SIZE " ++ shown ++ " must have positive dimensions."
  | nonpositiveReference shown => "reference_width must be positive, got " ++ shown
  | notANumeral shown => "could not convert string to float: " ++ shown
  | notAWholeNumeral text => "invalid literal for int() with base 10: " ++ excerpt text
  | tooManyDigits count => "Exceeds the limit (4300 digits) for integer string conversion: value has " ++
      toString count ++ " digits; use sys.set_int_max_str_digits() to increase the limit"
  | numberTooLong => "Exceeds the limit (4300 digits) for integer string conversion; " ++
      "use sys.set_int_max_str_digits() to increase the limit"
  | signallingNumber => "cannot convert signaling NaN to float"
  | wholeOfNaN => "cannot convert float NaN to integer"
  | wholeOfInfinity => "cannot convert float infinity to integer"
  | numberTooLarge => "int too large to convert to float"
  | quotientTooLarge => "integer division result too large for a float"
  | divisionByZero => "float division by zero"
  | powerTooLarge => "(34, 'Numerical result out of range')"
  | nulInPath => "embedded null byte"
  | pixellessImage => "Image has no pixels"
  | refused message => message
  | unorderedNumber | undecodableImage | invalidColor | unsupported | wrongKind | missingAttribute | missingKey
  | missingItem | unboundName | unknownEncoding | changedMeanwhile | tooDeep => ""

end ReportCard
