import LinkGauge.Document.Fault

/-!
# Documents

A `Node` is what reading a text found: values, and the places where the text stops making sense.
Since a text is read from left to right, a fault does not take away what stands before it. A
decoder walks the node in the order of the text, so the first fault wins, be it one of the text or
one of a value's type.
-/

namespace LinkGauge

/-- A number: a natural number of 64 bits, a negative integer of 64 bits, or a double. -/
inductive Number where
  | natural (n : UInt64)
  | negative (n : Int64)
  | real (x : Float)

/-- The double nearest to a number. -/
def Number.toFloat : Number → Float
  | .natural n => n.toFloat
  | .negative n =>
    let magnitude := (UInt64.ofNat n.toInt.natAbs).toFloat
    if n < 0 then -magnitude else magnitude
  | .real x => x

/-- What a value is, as far as a complaint about its type tells. -/
inductive Found where
  | unit
  | bool (b : Bool)
  | number (n : Number)
  | text (s : String)
  | strange (description : String)
  | sequence
  | map

/-- What opens a list or an object. -/
inductive Bracket where
  | square
  | curly

def Bracket.found : Bracket → Found
  | .square => .sequence
  | .curly => .map

/-- How a list or an object ends. -/
inductive Ending where
  /-- It is closed by a bracket, which is all that may follow what is read. -/
  | closed
  /-- It is known as a whole, and what is not read counts as surplus. -/
  | counted
  /-- It may hold more than is read. -/
  | lax
  /-- It breaks off with `flaw`; a reader that wants it closed meets `close`. A member may begin
  with a value that is no key: `key` tells which, as far as it can be read. -/
  | broken (flaw : Flaw) (close : Fault) (key : Option (Except Fault Found))

/-- A node of a document. A string, also one in the place of a key, may be well formed for a
reader that passes over it and still spell no text. -/
inductive Node where
  | null
  | bool (b : Bool)
  | number (n : Number)
  /-- A number beyond every double. -/
  | beyond
  | text (t : Except Fault String)
  /-- A value that no decoder takes; the text says what it is. -/
  | strange (description : String)
  | list (items : List Node) (ending : Ending)
  | object (members : List (Except Fault String × Node)) (ending : Ending)
  /-- A list or an object inside too many others for a reader that wants what is in it; a reader
  that passes over it meets `fault?`. -/
  | deep (bracket : Bracket) (fault? : Option Fault)
  | broken (flaw : Flaw)

namespace Node

/-- A node that spells a text. -/
def ofString (s : String) : Node := .text (.ok s)

/-! ### Faults in the order of the text -/

/-- The fault of a reader that wants another item or member. -/
def endingFault? : Ending → Option Fault
  | .closed | .counted | .lax => none
  | .broken flaw _ _ => some flaw.read

mutual

/-- The first fault met by a reader that passes over the value. -/
def skipFault? : Node → Option Fault
  | .null | .bool _ | .number _ | .beyond | .text _ | .strange _ => none
  | .deep _ fault? => fault?
  | .broken flaw => some flaw.skip
  | .list items ending => (skipItems? items).or (skipEnding? ending)
  | .object members ending => (skipMembers? members).or (skipEnding? ending)
where
  skipEnding? : Ending → Option Fault
    | .closed | .counted | .lax => none
    | .broken flaw _ _ => some flaw.skip

/-- `skipFault?` for items. -/
def skipItems? : List Node → Option Fault
  | [] => none
  | n :: rest => (skipFault? n).or (skipItems? rest)

/-- `skipFault?` for members. Keys that are passed over need not spell a text. -/
def skipMembers? : List (Except Fault String × Node) → Option Fault
  | [] => none
  | (_, n) :: rest => (skipFault? n).or (skipMembers? rest)

end

mutual

/-- The first fault met by a reader that wants the whole value, of whatever kind. -/
def readFault? : Node → Option Fault
  | .null | .bool _ | .number _ | .strange _ => none
  | .beyond => some .numberOutOfRange
  | .text (.ok _) => none
  | .text (.error f) => some f
  | .deep _ _ => some .tooDeep
  | .broken flaw => some flaw.read
  | .list items ending => (readItems? items).or (endingFault? ending)
  | .object members ending => (readMembers? members).or (endingFault? ending)

/-- `readFault?` for items. -/
def readItems? : List Node → Option Fault
  | [] => none
  | n :: rest => (readFault? n).or (readItems? rest)

/-- `readFault?` for members. -/
def readMembers? : List (Except Fault String × Node) → Option Fault
  | [] => none
  | (.error f, _) :: _ => some f
  | (.ok _, n) :: rest => (readFault? n).or (readMembers? rest)

end

/-- What a complaint about the node's type calls it, or the fault met on the way. Of a list or an
object only the opening bracket is looked at. -/
def found : Node → Except Fault Found
  | .null => .ok .unit
  | .bool b => .ok (.bool b)
  | .number n => .ok (.number n)
  | .beyond => .error .numberOutOfRange
  | .text t => t.map .text
  | .strange description => .ok (.strange description)
  | .list _ _ => .ok .sequence
  | .object _ _ => .ok .map
  | .deep bracket _ => .ok bracket.found
  | .broken flaw => .error flaw.read

/-- A list or an object as it is found where `depth` of them may still be opened. -/
def opened : (depth : Nat) → Node → Node
  | 0, .list items ending => .deep .square (skipFault? (.list items ending))
  | 0, .object members ending => .deep .curly (skipFault? (.object members ending))
  | _, n => n

end Node

end LinkGauge
