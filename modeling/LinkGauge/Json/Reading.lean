import LinkGauge.Json.Scan
import LinkGauge.Document.Layout
import LinkGauge.Decimal.Written
import LinkGauge.Text.Quoted

/-!
# Reading JSON

A text is read as a value of a type by scanning it and decoding the document. Here stands how
failures of it are worded.
-/

namespace LinkGauge

/-- What a complaint calls a value. -/
def Found.jsonText : Found → String
  | .unit => "null"
  | .bool b => "boolean `" ++ (if b then "true" else "false") ++ "`"
  | .number (.natural n) => "integer `" ++ toString n.toNat ++ "`"
  | .number (.negative n) => "integer `" ++ toString n.toInt ++ "`"
  | .number (.real x) => "floating point `" ++ Decimal.Style.json.write x ++ "`"
  | .text s => "string " ++ Text.quoted s
  | .strange description => description
  | .sequence => "sequence"
  | .map => "map"

/-- The wording of a failure. -/
def Cause.jsonMessage : Cause → String
  | .malformed fault => fault.message
  | .wrongType found expected =>
    "invalid type: " ++ found.jsonText ++ ", expected " ++ expected
  | .wrongValue found expected =>
    "invalid value: " ++ found.jsonText ++ ", expected " ++ expected
  | .wrongLength length expected =>
    "invalid length " ++ toString length ++ ", expected " ++ expected
  | .unknownVariant name [] => "unknown variant `" ++ name ++ "`, there are no variants"
  | .unknownVariant name variants =>
    "unknown variant `" ++ name ++ "`, expected " ++ alternatives variants
  | .unknownField name [] => "unknown field `" ++ name ++ "`, there are no fields"
  | .unknownField name fields =>
    "unknown field `" ++ name ++ "`, expected " ++ alternatives fields
  | .missingField name => "missing field `" ++ name ++ "`"
  | .duplicateField name => "duplicate field `" ++ name ++ "`"
  | .refused message => message

/-- A failure as one line: where it is, if it is inside, and what it is. -/
def Failure.jsonText (f : Failure) : String :=
  match f.path with
  | [] => f.cause.jsonMessage
  | path => Step.pathText path ++ ": " ++ f.cause.jsonMessage

namespace Json

variable {α : Type}

/-- Decode a scanned text. What follows the value is looked at last. -/
def Scanned.decode (d : Decoder α) (s : Scanned) : Except Failure α := do
  let a ← d s.root
  if s.trailing then .error (.here (.malformed .trailingCharacters)) else .ok a

/-- Read a value from a text. -/
def read (d : Decoder α) (s : Bytes) : Except Failure α :=
  (scan s).decode d

end Json

end LinkGauge
