import LinkGauge.Host.Category
import LinkGauge.Measurement.Transport
import LinkGauge.Store.Problem
import LinkGauge.Time.Instant

/-!
# Values of the store

What stands in the columns of a row and in the parameters of a statement. Instants are kept to the
microsecond.
-/

namespace LinkGauge.Store

/-- A value in a column. -/
inductive Value where
  | null
  | bool (b : Bool)
  | integer (n : Int64)
  | real (x : Float)
  | text (s : String)
  | instant (t : Instant)

namespace Value

/-- Null for a missing value. -/
def ofOption {α : Type} (f : α → Value) : Option α → Value
  | some a => f a
  | none => .null

def ofInt32 (n : Int32) : Value := .integer n.toInt64

/-- An instant as it is kept. -/
def ofInstant (t : Instant) : Value := .instant t.stored

end Value

/-- A row of a result, by the names of the columns. -/
abbrev Row := List (String × Value)

/-! ### Reading columns -/

/-- A way to read a column, or why the value does not fit. -/
abbrev Reader (α : Type) := Value → Except String α

namespace Reader

variable {α : Type}

/-- The complaint about a value that does not fit. -/
def misfit : Value → Except String α
  | .null => .error "unexpected null; try decoding as an `Option`"
  | _ => .error "mismatched types"

def bool : Reader Bool
  | .bool b => .ok b
  | v => misfit v

def int64 : Reader Int64
  | .integer n => .ok n
  | v => misfit v

def int32 : Reader Int32
  | .integer n => .ok n.toInt32
  | v => misfit v

def real : Reader Float
  | .real x => .ok x
  | v => misfit v

def text : Reader String
  | .text s => .ok s
  | v => misfit v

def instant : Reader Instant
  | .instant t => .ok t
  | v => misfit v

/-- A column that may be null. -/
def option (read : Reader α) : Reader (Option α)
  | .null => .ok none
  | v => (read v).map some

/-- One of the alternatives of a type called `name`. -/
def variant (name : String) (table : List (String × α)) : Reader α
  | .text s =>
    match table.lookup s with
    | some a => .ok a
    | none => .error ("invalid value \"" ++ s ++ "\" for enum " ++ name)
  | v => misfit v

def category : Reader Category := variant "HostCategory" Category.named

def transport : Reader Transport := variant "Protocol" Transport.named

end Reader

/-- The problem of a column that cannot be read. -/
def unreadableColumn (name reason : String) : Problem :=
  .other ("error occurred while decoding column \"" ++ name ++ "\": " ++ reason) [reason]

/-- Read a column of a row. A column that is not there is null. -/
def Row.read {α : Type} (row : Row) (name : String) (read : Reader α) : Except Problem α :=
  (read ((List.lookup name row).getD .null)).mapError (unreadableColumn name)

end LinkGauge.Store
