import RankedRelay.Mismatch
import RankedRelay.Text.Bytes

namespace RankedRelay.Json

inductive Cause where
  | endOfList
  | endOfObject
  | endOfString
  | endOfValue
  | expectedColon
  | expectedListCommaOrEnd
  | expectedObjectCommaOrEnd
  | expectedIdent
  | expectedValue
  | invalidEscape
  | invalidNumber
  | numberOutOfRange
  | invalidCodePoint
  | controlCharacter
  | keyMustBeString
  | loneSurrogate
  | trailingComma
  | trailingCharacters
  | unexpectedEndOfEscape
  | nestedTooDeep
  | mismatch (m : Mismatch)
deriving DecidableEq, Repr

def Cause.text : Cause → String
  | endOfList => "EOF while parsing a list"
  | endOfObject => "EOF while parsing an object"
  | endOfString => "EOF while parsing a string"
  | endOfValue => "EOF while parsing a value"
  | expectedColon => "expected `:`"
  | expectedListCommaOrEnd => "expected `,` or `]`"
  | expectedObjectCommaOrEnd => "expected `,` or `\x7d`"
  | expectedIdent => "expected ident"
  | expectedValue => "expected value"
  | invalidEscape => "invalid escape"
  | invalidNumber => "invalid number"
  | numberOutOfRange => "number out of range"
  | invalidCodePoint => "invalid unicode code point"
  | controlCharacter => "control character (\\u0000-\\u001F) found while parsing a string"
  | keyMustBeString => "key must be a string"
  | loneSurrogate => "lone leading surrogate in hex escape"
  | trailingComma => "trailing comma"
  | trailingCharacters => "trailing characters"
  | unexpectedEndOfEscape => "unexpected end of hex escape"
  | nestedTooDeep => "recursion limit exceeded"
  | mismatch m => m.text

/-- A cause, and how many bytes of the text lie behind its place. -/
structure Fault where
  cause : Cause
  unread : Nat
deriving DecidableEq, Repr

/-- Line, counted from one, and bytes since its start, after `seen`. -/
def place (seen : Bytes) : Nat × Nat :=
  seen.foldl (fun p b => if b = 0x0a then (p.1 + 1, 0) else (p.1, p.2 + 1)) (1, 0)

def Fault.message (whole : Bytes) (f : Fault) : String :=
  let (line, column) := place (whole.take (whole.length - f.unread))
  f.cause.text ++ s!" at line {line} column {column}"

end RankedRelay.Json
