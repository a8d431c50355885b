import LinkGauge.Environment.Value

/-!
# Environments

The variables of a process. Some name a place in a tree: levels are separated by two underscores
or by a point, and upper and lower case of ASCII letters do not differ.
-/

namespace LinkGauge

/-- Variables with their texts, in the order in which they count. -/
abbrev Environment := List (String × String)

namespace Environment

/-- The text of a variable, whose name is given in full. -/
def get? (env : Environment) (name : String) : Option String := env.lookup name

/-! ### Names of places -/

/-- Two underscores stand for a point. -/
def pointed : List Char → List Char
  | '_' :: '_' :: rest => '.' :: pointed rest
  | c :: rest => c :: pointed rest
  | [] => []

/-- A name in lower case without what it begins with, if it does begin so. -/
def strip? (beginning name : String) : Option String :=
  let beginning := beginning.toLower.toList
  let name := name.toLower.toList
  if beginning.isPrefixOf name then some (String.ofList (name.drop beginning.length)) else none

/-- The keys of the place that a name stands for. No level may be empty. -/
def place? (name : String) : Option (List String) :=
  let keys := (pointed name.toList).splitOn '.' |>.map String.ofList
  if "" ∈ keys then none else some keys

/-! ### Trees -/

/-- The tree of the variables that stand for a place. Of two with the same place the later one
counts. -/
def tree (place : String → Option (List String)) (env : Environment) : Tree :=
  env.foldl
    (fun t (name, text) =>
      match place name with
      | some keys => t.merge (.nest keys (value text))
      | none => t)
    (.map [])

end Environment

end LinkGauge
