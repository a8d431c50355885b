/-!
# Migrations

The steps that bring a database to the shape the program expects.
-/

namespace LinkGauge.Store

/-- A step, with the time of its making as its number. -/
structure Migration where
  version : Nat
  description : String
  deriving DecidableEq, Repr

/-- The steps in their order. -/
def migrations : List Migration := [⟨20250101000000, "initial schema"⟩]

end LinkGauge.Store
