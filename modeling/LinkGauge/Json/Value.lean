import LinkGauge.Document.Node
import LinkGauge.Decimal.Written

/-!
# JSON values

Values to be written, and their compact text.
-/

namespace LinkGauge

/-- A JSON value. Members stand in the order in which they are written. -/
inductive Json where
  | null
  | bool (b : Bool)
  | number (n : Number)
  | text (s : String)
  | list (items : List Json)
  | object (members : List (String × Json))

namespace Json

def nat (n : Nat) : Json := .number (.natural (UInt64.ofNat n))

def int64 (n : Int64) : Json :=
  if 0 ≤ n then .number (.natural n.toUInt64) else .number (.negative n)

def int32 (n : Int32) : Json := int64 n.toInt64

def real (x : Float) : Json := .number (.real x)

/-- Null for a missing value. -/
def ofOption {α : Type} (f : α → Json) : Option α → Json
  | some a => f a
  | none => .null

/-- A member that is left out where there is no value. -/
def memberIf {α : Type} (name : String) (f : α → Json) : Option α → List (String × Json)
  | some a => [(name, f a)]
  | none => []

/-! ### Text -/

/-- The digits of a number below 16, in lower case. -/
def hexDigit (n : Nat) : Char :=
  if n < 10 then Char.ofNat (48 + n) else Char.ofNat (87 + n)

/-- A character inside a string. -/
def escapeChar (c : Char) : List Char :=
  if c = '"' then ['\\', '"']
  else if c = '\\' then ['\\', '\\']
  else if c = '\n' then ['\\', 'n']
  else if c = '\r' then ['\\', 'r']
  else if c = '\t' then ['\\', 't']
  else if c.val = 8 then ['\\', 'b']
  else if c.val = 12 then ['\\', 'f']
  else if c.val < 0x20 then
    ['\\', 'u', '0', '0', hexDigit (c.toNat / 16), hexDigit (c.toNat % 16)]
  else [c]

/-- A text in quotation marks. -/
def quote (s : String) : List Char :=
  '"' :: (s.toList.flatMap escapeChar ++ ['"'])

/-- A number. -/
def writeNumber : Number → List Char
  | .natural n => Decimal.digitChars n.toNat
  | .negative n => '-' :: Decimal.digitChars n.toInt.natAbs
  | .real x => (Decimal.Style.json.write x).toList

mutual

/-- The compact text of a value. -/
def chars : Json → List Char
  | .null => ['n', 'u', 'l', 'l']
  | .bool true => ['t', 'r', 'u', 'e']
  | .bool false => ['f', 'a', 'l', 's', 'e']
  | .number n => writeNumber n
  | .text s => quote s
  | .list items => '[' :: (itemChars items ++ [']'])
  | .object members => '\x7b' :: (memberChars members ++ ['\x7d'])

/-- Items with commas between them. -/
def itemChars : List Json → List Char
  | [] => []
  | [j] => chars j
  | j :: rest => chars j ++ ',' :: itemChars rest

/-- Members with commas between them. -/
def memberChars : List (String × Json) → List Char
  | [] => []
  | [(key, j)] => quote key ++ ':' :: chars j
  | (key, j) :: rest => quote key ++ ':' :: (chars j ++ ',' :: memberChars rest)

end

/-- The compact text of a value. -/
def render (j : Json) : String := String.ofList j.chars

end Json

end LinkGauge
