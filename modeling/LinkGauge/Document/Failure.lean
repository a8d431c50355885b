import LinkGauge.Document.Node

/-!
# Failures of decoding

Why a node is no value of the wanted type, and where in the document. The wording belongs to the
format the document came from.
-/

namespace LinkGauge

/-- A step from a node to one inside it. -/
inductive Step where
  | member (key : String)
  | item (index : Nat)
  deriving DecidableEq, Repr

/-- The path as text, members separated by points and items in brackets. -/
def Step.pathText : List Step → String
  | [] => ""
  | steps =>
    String.intercalate "." (steps.map fun
      | .member key => key
      | .item index => "[" ++ toString index ++ "]")

/-- Why decoding failed. -/
inductive Cause where
  /-- The text makes no sense. -/
  | malformed (fault : Fault)
  | wrongType (found : Found) (expected : String)
  | wrongValue (found : Found) (expected : String)
  | wrongLength (length : Nat) (expected : String)
  | unknownVariant (name : String) (variants : List String)
  | unknownField (name : String) (fields : List String)
  | missingField (name : String)
  | duplicateField (name : String)
  /-- A value that its own type refuses, in that type's words. -/
  | refused (message : String)

/-- The text itself is at fault, not the type of a value. -/
def Cause.isMalformed : Cause → Bool
  | .malformed _ => true
  | _ => false

/-- A failure and the place where it was met. -/
structure Failure where
  path : List Step
  cause : Cause

/-- A failure at the node being decoded. -/
def Failure.here (cause : Cause) : Failure := ⟨[], cause⟩

/-- The failure seen from one step further out. -/
def Failure.within (step : Step) (f : Failure) : Failure := ⟨step :: f.path, f.cause⟩

/-- The alternatives of a choice, as complaints list them. -/
def alternatives : List String → String
  | [] => "none"
  | [a] => "`" ++ a ++ "`"
  | [a, b] => "`" ++ a ++ "` or `" ++ b ++ "`"
  | names => "one of " ++ String.intercalate ", " (names.map fun n => "`" ++ n ++ "`")

end LinkGauge
