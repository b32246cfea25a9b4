import FlowLines.Shape
import FlowLines.Text.Utf8

/-! Why and where a text is not the JSON that was wanted. -/

namespace FlowLines.Json

inductive Cause
  | endInValue
  | endInString
  | endInList
  | endInObject
  | expectedColon
  | expectedListCommaOrEnd
  | expectedObjectCommaOrEnd
  | expectedKeyword
  | expectedValue
  | invalidEscape
  | invalidNumber
  | numberOutOfRange
  | loneSurrogate
  | endOfSurrogatePair
  | controlCharacter
  | keyNoString
  | trailingComma
  | trailingCharacters
  | mismatch (found : Shape) (wanted : String)
  | outOfRange (found : Int) (wanted : String)
  | tooShort (length : Nat) (wanted : String)
  | missing (field : String)
  | duplicate (field : String)
  | refused (message : String)

/-- Numbers from `10 ^ -5` to below `10 ^ 16` are written without an exponent. -/
def floatStyle : Decimal.Style :=
  ⟨fun point => -5 < point && point ≤ 16, true, .even, "inf".toList, "NaN".toList⟩

def Cause.message : Cause → String
  | .endInValue => "EOF while parsing a value"
  | .endInString => "EOF while parsing a string"
  | .endInList => "EOF while parsing a list"
  | .endInObject => "EOF while parsing an object"
  | .expectedColon => "expected `:`"
  | .expectedListCommaOrEnd => "expected `,` or `]`"
  | .expectedObjectCommaOrEnd => "expected `,` or `\x7d`"
  | .expectedKeyword => "expected ident"
  | .expectedValue => "expected value"
  | .invalidEscape => "invalid escape"
  | .invalidNumber => "invalid number"
  | .numberOutOfRange => "number out of range"
  | .loneSurrogate => "lone leading surrogate in hex escape"
  | .endOfSurrogatePair => "unexpected end of hex escape"
  | .controlCharacter => "control character (\\u0000-\\u001F) found while parsing a string"
  | .keyNoString => "key must be a string"
  | .trailingComma => "trailing comma"
  | .trailingCharacters => "trailing characters"
  | .mismatch found wanted =>
    let shape := found.describe "null" floatStyle
    s!"invalid type: {shape}, expected {wanted}"
  | .outOfRange found wanted => s!"invalid value: integer `{found}`, expected {wanted}"
  | .tooShort length wanted => s!"invalid length {length}, expected {wanted}"
  | .missing field => s!"missing field `{field}`"
  | .duplicate field => s!"duplicate field `{field}`"
  | .refused message => message

/-- What was left of the text, and how many bytes of that had been looked at. -/
structure Stop where
  cause : Cause
  rest : List Char
  ahead : Nat := 0

/-- Lines count from one, and the column is the number of bytes since the line began. -/
structure Fault where
  cause : Cause
  line : Nat
  column : Nat

def Fault.message (f : Fault) : String :=
  s!"{f.cause.message} at line {f.line} column {f.column}"

def Stop.locate (text : List Char) (stop : Stop) : Fault :=
  let index := Text.Utf8.size text - Text.Utf8.size stop.rest + stop.ahead
  let passed := (Text.Utf8.encode text).take index
  { cause := stop.cause
    line := 1 + passed.count 10
    column := (passed.reverse.takeWhile (· != 10)).length }

abbrev Reader (α : Type) := List Char → Except Stop (α × List Char)

def isSpace (c : Char) : Bool := c = ' ' || c = '\n' || c = '\t' || c = '\r'

def skipSpace (s : List Char) : List Char := s.dropWhile isSpace

end FlowLines.Json
