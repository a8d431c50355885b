/-!
# Faults of a YAML text

What is wrong with a text, and what was being read there.
-/

namespace LinkGauge.Yaml

/-- What a YAML text gets wrong. -/
inductive Fault where
  | controlCharacter (offset : Nat)
  | noToken
  | missingColon
  | valueNotAllowed
  | keyNotAllowed
  | entryNotAllowed
  | unexpectedColon
  | tabInPlain
  | tabInBlock
  | markInQuotes
  | endInQuotes
  | unknownEscape
  | badHexEscape
  | badCodePoint
  | zeroIndent
  | blockHeader
  | badAnchor
  | badAlias
  | noBlockContent
  | noFlowContent
  | noEntry
  | noKey
  | openFlowSequence
  | openFlowMapping
  | noDocumentStart
  | unknownAnchor
  | severalDocuments
  /-- The text is fine, but not what was wanted. -/
  | unwanted (description : String)
  deriving DecidableEq, Repr

def Fault.message : Fault → String
  | .controlCharacter 0 => "control characters are not allowed"
  | .controlCharacter offset =>
    "control characters are not allowed at position " ++ toString offset
  | .noToken =>
    "found character that cannot start any token, while scanning for the next token"
  | .missingColon => "could not find expected ':', while scanning a simple key"
  | .valueNotAllowed => "mapping values are not allowed in this context"
  | .keyNotAllowed => "mapping keys are not allowed in this context"
  | .entryNotAllowed => "block sequence entries are not allowed in this context"
  | .unexpectedColon => "found unexpected ':', while scanning a plain scalar"
  | .tabInPlain =>
    "found a tab character that violates indentation, while scanning a plain scalar"
  | .tabInBlock =>
    "found a tab character where an indentation space is expected, while scanning a block scalar"
  | .markInQuotes => "found unexpected document indicator, while scanning a quoted scalar"
  | .endInQuotes => "found unexpected end of stream, while scanning a quoted scalar"
  | .unknownEscape => "found unknown escape character, while parsing a quoted scalar"
  | .badHexEscape => "did not find expected hexdecimal number, while parsing a quoted scalar"
  | .badCodePoint =>
    "found invalid Unicode character escape code, while parsing a quoted scalar"
  | .zeroIndent =>
    "found an indentation indicator equal to 0, while scanning a block scalar"
  | .blockHeader =>
    "did not find expected comment or line break, while scanning a block scalar"
  | .badAnchor =>
    "did not find expected alphabetic or numeric character, while scanning an anchor"
  | .badAlias =>
    "did not find expected alphabetic or numeric character, while scanning an alias"
  | .noBlockContent => "did not find expected node content, while parsing a block node"
  | .noFlowContent => "did not find expected node content, while parsing a flow node"
  | .noEntry => "did not find expected '-' indicator, while parsing a block collection"
  | .noKey => "did not find expected key, while parsing a block mapping"
  | .openFlowSequence =>
    "did not find expected ',' or ']', while parsing a flow sequence"
  | .openFlowMapping =>
    "did not find expected ',' or '\x7d', while parsing a flow mapping"
  | .noDocumentStart => "did not find expected <document start>"
  | .unknownAnchor => "unknown anchor"
  | .severalDocuments =>
    "deserializing from YAML containing more than one document is not supported"
  | .unwanted description => description

end LinkGauge.Yaml
