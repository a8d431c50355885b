import LinkGauge.Document.Failure
import LinkGauge.Word

/-!
# Decoders

A decoder takes a node to a value of a type or says why it cannot. Decoders of simple values live
here; those of structures are `Layout`s.
-/

namespace LinkGauge

/-- A way to read a value from a node. -/
abbrev Decoder (α : Type) := Node → Except Failure α

namespace Decoder

variable {α : Type}

/-- The complaint that a node is not what was expected. -/
def mismatch (expected : String) (n : Node) : Except Failure α :=
  match n.found with
  | .ok found => .error (.here (.wrongType found expected))
  | .error fault => .error (.here (.malformed fault))

/-- Pass over a value. -/
def skip (n : Node) : Except Failure Unit :=
  match n.skipFault? with
  | some fault => .error (.here (.malformed fault))
  | none => .ok ()

def bool : Decoder Bool
  | .bool b => .ok b
  | n => mismatch "a boolean" n

def string : Decoder String
  | .text (.ok s) => .ok s
  | n => mismatch "a string" n

/-- A double. Integers are taken for the nearest one. -/
def float : Decoder Float
  | .number n => .ok n.toFloat
  | n => mismatch "f64" n

/-- An integer of the range from `low` to `high`, called `name` in complaints. -/
def integer (name : String) (low high : Int) : Decoder Int
  | .number (.natural v) =>
    if (v.toNat : Int) ≤ high then .ok v.toNat
    else .error (.here (.wrongValue (.number (.natural v)) name))
  | .number (.negative v) =>
    if low ≤ v.toInt then .ok v.toInt
    else .error (.here (.wrongValue (.number (.negative v)) name))
  | n => mismatch name n

def int32 : Decoder Int32 := fun n =>
  (integer "i32" (-Word.half32) (Word.half32 - 1) n).map Int32.ofInt

def int64 : Decoder Int64 := fun n =>
  (integer "i64" (-Word.half64) (Word.half64 - 1) n).map Int64.ofInt

def uint16 : Decoder UInt16 := fun n =>
  (integer "u16" 0 (Word.size16 - 1) n).map fun v => UInt16.ofNat v.toNat

def uint32 : Decoder UInt32 := fun n =>
  (integer "u32" 0 (Word.size32 - 1) n).map fun v => UInt32.ofNat v.toNat

def uint64 : Decoder UInt64 := fun n =>
  (integer "u64" 0 (Word.size64 - 1) n).map fun v => UInt64.ofNat v.toNat

/-- A number of things, at most `2 ^ 64 - 1`. -/
def count : Decoder UInt64 := fun n =>
  (integer "usize" 0 (Word.size64 - 1) n).map fun v => UInt64.ofNat v.toNat

/-- A value that may be null. -/
def option (d : Decoder α) : Decoder (Option α)
  | .null => .ok none
  | n => (d n).map some

/-- A text that `parse` understands; `expected` tells what the text should be. -/
def parsed (expected : String) (parse : String → Except Cause α) : Decoder α
  | .text (.ok s) => (parse s).mapError .here
  | n => mismatch expected n

/-- An item of a list, with its place. -/
def item (d : Decoder α) (p : Node × Nat) : Except Failure α :=
  (d p.1).mapError (.within (.item p.2))

def list (d : Decoder α) : Decoder (List α)
  | .list items ending => do
    let values ← items.zipIdx.mapM d.item
    match Node.endingFault? ending with
    | some fault => .error (.here (.malformed fault))
    | none => .ok values
  | .deep .square _ => .error (.here (.malformed .tooDeep))
  | n => mismatch "a sequence" n

/-! ### Names of alternatives -/

/-- The alternative of a given name. -/
def variantOf (table : List (String × α)) (name : String) : Except Failure α :=
  match table.lookup name with
  | some a => .ok a
  | none => .error (.here (.unknownVariant name (table.map Prod.fst)))

/-- The name of an alternative that stands where a key is due. -/
def variantKey (table : List (String × α)) : Ending → Except Failure α
  | .closed | .counted | .lax => .error (.here (.malformed .expectedValue))
  | .broken flaw _ none =>
    .error (.here (.malformed (if flaw.read = .endInObject then .endInValue else flaw.read)))
  | .broken _ _ (some (.error fault)) => .error (.here (.malformed fault))
  | .broken _ _ (some (.ok (.text name))) => variantOf table name
  | .broken _ _ (some (.ok found)) => .error (.here (.wrongType found "variant identifier"))

/-- A choice between alternatives without content: its name, or an object with the name as its
only key and null as the value. -/
def variant (table : List (String × α)) : Decoder α
  | .text (.ok name) => variantOf table name
  | .text (.error fault) => .error (.here (.malformed fault))
  | .object [] ending => variantKey table ending
  | .object ((.error fault, _) :: _) _ => .error (.here (.malformed fault))
  | .object ((.ok name, value) :: rest) ending => do
    let a ← variantOf table name
    match value with
    | .null => pure ()
    | n => mismatch "unit" n
    match rest, ending with
    | [], .closed | [], .counted | [], .lax => pure a
    | [], .broken flaw _ _ =>
      .error (.here (.malformed
        (if flaw.read = .endInObject then .endInObject else .expectedValue)))
    | _ :: _, _ => .error (.here (.malformed .expectedValue))
  | .deep .curly _ => .error (.here (.malformed .tooDeep))
  | .broken flaw => .error (.here (.malformed flaw.name))
  | _ => .error (.here (.malformed .expectedValue))

end Decoder

end LinkGauge
