import LinkGauge.Document.Node

/-!
# Trees

Values without a text behind them, which are put together from several sources. The members of a
map are kept in the order of their keys. Trees are merged leaf by leaf, and the later one wins.
-/

namespace LinkGauge

/-- A value put together in memory. -/
inductive Tree where
  | null
  | bool (b : Bool)
  | number (n : Number)
  | text (s : String)
  /-- A value that no decoder takes; the text says what it is. -/
  | strange (description : String)
  | list (items : List Tree)
  | map (members : List (String × Tree))

namespace Tree

/-- Members with one more among them, which comes instead of one with the same key. -/
def insert (key : String) (t : Tree) : List (String × Tree) → List (String × Tree)
  | [] => [(key, t)]
  | (k, u) :: rest =>
    if key = k then (key, t) :: rest
    else if key < k then (key, t) :: (k, u) :: rest
    else (k, u) :: insert key t rest

mutual

/-- A tree with a later one laid over it. -/
def merge : Tree → Tree → Tree
  | .map old, .map new => .map (mergeMembers old new)
  | _, new => new

/-- Members with later ones laid over them. -/
def mergeMembers (old : List (String × Tree)) : List (String × Tree) → List (String × Tree)
  | [] => old
  | (key, t) :: rest =>
    let t := match old.lookup key with
      | some before => merge before t
      | none => t
    insert key t (mergeMembers old rest)

end

/-- A value under keys inside each other. The keys end at the first that is empty. -/
def nest : List String → Tree → Tree
  | [], t => t
  | key :: keys, t => if key = "" then t else .map [(key, nest keys t)]

mutual

/-- The document of a tree. -/
def toNode : Tree → Node
  | .null => .null
  | .bool b => .bool b
  | .number n => .number n
  | .text s => .text (.ok s)
  | .strange description => .strange description
  | .list items => .list (toNodes items) .lax
  | .map members => .object (toMembers members) .lax

/-- `toNode` for items. -/
def toNodes : List Tree → List Node
  | [] => []
  | t :: rest => toNode t :: toNodes rest

/-- `toNode` for members. -/
def toMembers : List (String × Tree) → List (Except Fault String × Node)
  | [] => []
  | (key, t) :: rest => (.ok key, toNode t) :: toMembers rest

end

end Tree

end LinkGauge
