/-!
# Faults of a text

What is wrong with a JSON text, and how it is said. Where a text goes wrong, what is said depends
on what the reader was doing there: reading the value, passing over it, or closing the list
around it. A `Flaw` keeps what each of them meets.
-/

namespace LinkGauge

/-- What a JSON text gets wrong. -/
inductive Fault where
  | endInValue
  | endInList
  | endInObject
  | endInString
  | expectedColon
  | expectedListSeparator
  | expectedObjectSeparator
  | expectedLiteral
  | expectedValue
  | badEscape
  | badNumber
  | numberOutOfRange
  | badCodePoint
  | controlCharacter
  | keyNotString
  | loneSurrogate
  | trailingComma
  | trailingCharacters
  | endOfHexEscape
  | tooDeep
  deriving DecidableEq, Repr

def Fault.message : Fault → String
  | .endInValue => "EOF while parsing a value"
  | .endInList => "EOF while parsing a list"
  | .endInObject => "EOF while parsing an object"
  | .endInString => "EOF while parsing a string"
  | .expectedColon => "expected `:`"
  | .expectedListSeparator => "expected `,` or `]`"
  | .expectedObjectSeparator => "expected `,` or `\x7d`"
  | .expectedLiteral => "expected ident"
  | .expectedValue => "expected value"
  | .badEscape => "invalid escape"
  | .badNumber => "invalid number"
  | .numberOutOfRange => "number out of range"
  | .badCodePoint => "invalid unicode code point"
  | .controlCharacter => "control character (\\u0000-\\u001F) found while parsing a string"
  | .keyNotString => "key must be a string"
  | .loneSurrogate => "lone leading surrogate in hex escape"
  | .trailingComma => "trailing comma"
  | .trailingCharacters => "trailing characters"
  | .endOfHexEscape => "unexpected end of hex escape"
  | .tooDeep => "recursion limit exceeded"

/-- A place where a text makes no sense: the fault met by a reader that wants the value there, by
one that passes over it, and by one that wants the name of an alternative. -/
structure Flaw where
  read : Fault
  skip : Fault
  name : Fault
  deriving DecidableEq, Repr

/-- The same fault whatever the reader wants. -/
def Flaw.always (f : Fault) : Flaw := ⟨f, f, f⟩

end LinkGauge
