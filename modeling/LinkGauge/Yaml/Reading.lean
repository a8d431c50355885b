import LinkGauge.Decimal.Written
import LinkGauge.Text.Quoted
import LinkGauge.Yaml.Plain
import LinkGauge.Yaml.Token

/-!
# Reading YAML

The tokens of a text are read as one tree. The outermost value must be a map. A text without
content counts as an empty map, and of two members with the same key the later one counts.
-/

namespace LinkGauge.Yaml

/-- What is still to be read, and the values that have a name. -/
structure Remainder where
  tokens : List Token
  anchors : List (String × Tree)

/-- A part of reading. -/
abbrev Part := StateT Remainder (Except Fault)

/-- The next token. -/
def peek : Part Token := do
  match (← get).tokens with
  | .broken fault :: _ => throw fault
  | t :: _ => return t
  | [] => return .streamEnd

/-- Go past the next token. -/
def next : Part Unit := modify fun r => { r with tokens := r.tokens.drop 1 }

/-- What stands in front of a value: a name for it, and a type. -/
structure Properties where
  anchor : Option String
  tag : Option String

/-- The properties in front of a value. There are at most one of each. -/
def properties : Part Properties := do
  match ← peek with
  | .anchor name =>
    next
    match ← peek with
    | .tag t => next; return ⟨some name, some t⟩
    | _ => return ⟨some name, none⟩
  | .tag t =>
    next
    match ← peek with
    | .anchor name => next; return ⟨some name, some t⟩
    | _ => return ⟨none, some t⟩
  | _ => return ⟨none, none⟩

/-- The complaint about a text that is not of a type. -/
def notOfType (text expected : String) : Fault :=
  .unwanted ("invalid value: string " ++ Text.quoted text ++ ", expected " ++ expected)

/-- The value of a scalar. -/
def scalarTree (tag : Option String) (text : String) (isPlain : Bool) : Except Fault Tree :=
  match tag with
  | some "!!str" => .ok (.text text)
  | some "!!int" =>
    match integer? text.toList with
    | some n => .ok (ofInteger n)
    | none => .error (notOfType text "an integer")
  | some "!!float" =>
    match (special? text.toList).or ((Decimal.literal? text.toList).bind (·.nearest?)) with
    | some x => .ok (.number (.real x))
    | none => .error (notOfType text "a float")
  | some "!!bool" =>
    match plain text with
    | .bool b => .ok (.bool b)
    | _ => .error (notOfType text "a boolean")
  | some "!!null" =>
    match plain text with
    | .null => .ok .null
    | _ => .error (notOfType text "null")
  | _ => .ok (if isPlain then plain text else .text text)

def named (name : String) : Part Tree := do
  match (← get).anchors.lookup name with
  | some t => return t
  | none => throw .unknownAnchor

/-- Remember a value by its name. -/
def remember (p : Properties) (t : Tree) : Part Tree := do
  if let some name := p.anchor then
    modify fun r => { r with anchors := (name, t) :: r.anchors }
  return t

/-- The complaint about a key that is no text. -/
def notKey (what : String) : Fault := .unwanted ("invalid type: " ++ what ++ ", expected a string")

/-- A key as a member has it. A plain scalar counts as it is written. -/
def key (t : Tree) (written : Option String) : Part String :=
  match written, t with
  | some s, _ => return s
  | none, .text s => return s
  | none, .list _ => throw (notKey "sequence")
  | none, .map _ => throw (notKey "map")
  | none, _ => return ""

/-- The text of the scalar that comes next, if it is one. -/
def written? : Part (Option String) := do
  let content := (← get).tokens.dropWhile fun
    | .anchor _ | .tag _ => true
    | _ => false
  match content with
  | .scalar text _ :: _ => return some text
  | .alias _ :: _ => return none
  | _ => return none

mutual

/-- A value. `block` admits blocks, and `flush` also a sequence that is not further in than what is
around it. `fuel` is more than the number of tokens, four times over. -/
def node (block flush : Bool) : Nat → Part Tree
  | 0 => return .null
  | fuel + 1 => do
    if let .alias name ← peek then
      next
      return ← named name
    let p ← properties
    match ← peek, block with
    | .blockEntry, _ =>
      if flush then remember p (.list (← flushItems fuel)) else content p block fuel
    | _, _ => content p block fuel

/-- What stands behind the properties of a value. -/
def content (p : Properties) (block : Bool) : Nat → Part Tree
  | 0 => return .null
  | fuel + 1 => do
    match ← peek, block with
    | .scalar text isPlain, _ =>
      next
      remember p (← scalarTree p.tag text isPlain)
    | .flowSequence, _ => next; remember p (.list (← flowItems true fuel))
    | .flowMapping, _ => next; remember p (.map (← flowMembers true [] fuel))
    | .blockSequence, true => next; remember p (.list (← blockItems fuel))
    | .blockMapping, true => next; remember p (.map (← blockMembers [] fuel))
    | _, _ =>
      if p.anchor.isSome || p.tag.isSome then remember p .null
      else throw (if block then .noBlockContent else .noFlowContent)

def blockItems : Nat → Part (List Tree)
  | 0 => return []
  | fuel + 1 => do
    match ← peek with
    | .blockEntry =>
      next
      let t ← match ← peek with
        | .blockEntry | .blockEnd => pure .null
        | _ => node true false fuel
      return t :: (← blockItems fuel)
    | .blockEnd => next; return []
    | _ => throw .noEntry

/-- The items of a sequence that is not further in than the mapping around it. -/
def flushItems : Nat → Part (List Tree)
  | 0 => return []
  | fuel + 1 => do
    match ← peek with
    | .blockEntry =>
      next
      let t ← match ← peek with
        | .blockEntry | .key | .value | .blockEnd => pure .null
        | _ => node true false fuel
      return t :: (← flushItems fuel)
    | _ => return []

/-- The value of a member in a block. -/
def blockValue : Nat → Part Tree
  | 0 => return .null
  | fuel + 1 => do
    match ← peek with
    | .value =>
      next
      match ← peek with
      | .key | .value | .blockEnd => return .null
      | _ => node true true fuel
    | _ => return .null

def blockMembers (members : List (String × Tree)) : Nat → Part (List (String × Tree))
  | 0 => return members
  | fuel + 1 => do
    match ← peek with
    | .key =>
      next
      let written ← written?
      let k ← match ← peek with
        | .key | .value | .blockEnd => pure ""
        | _ => key (← node true true fuel) written
      let t ← blockValue fuel
      blockMembers (Tree.insert k t members) fuel
    | .value =>
      let t ← blockValue fuel
      blockMembers (Tree.insert "" t members) fuel
    | .blockEnd => next; return members
    | _ => throw .noKey

/-- The items between brackets. -/
def flowItems (first : Bool) : Nat → Part (List Tree)
  | 0 => return []
  | fuel + 1 => do
    if let .flowSequenceEnd ← peek then
      next
      return []
    unless first do
      match ← peek with
      | .flowEntry => next
      | _ => throw .openFlowSequence
    match ← peek with
    | .flowSequenceEnd => next; return []
    | .key =>
      next
      let written ← written?
      let k ← match ← peek with
        | .value | .flowEntry | .flowSequenceEnd => pure ""
        | _ => key (← node false false fuel) written
      let t ← flowValue fuel
      return .map [(k, t)] :: (← flowItems false fuel)
    | _ =>
      let t ← node false false fuel
      return t :: (← flowItems false fuel)

/-- The value of a member between brackets. -/
def flowValue : Nat → Part Tree
  | 0 => return .null
  | fuel + 1 => do
    match ← peek with
    | .value =>
      next
      match ← peek with
      | .flowEntry | .flowMappingEnd | .flowSequenceEnd => return .null
      | _ => node false false fuel
    | _ => return .null

/-- The members between braces. -/
def flowMembers (first : Bool) (members : List (String × Tree)) :
    Nat → Part (List (String × Tree))
  | 0 => return members
  | fuel + 1 => do
    if let .flowMappingEnd ← peek then
      next
      return members
    unless first do
      match ← peek with
      | .flowEntry => next
      | _ => throw .openFlowMapping
    match ← peek with
    | .flowMappingEnd => next; return members
    | .key =>
      next
      let written ← written?
      let k ← match ← peek with
        | .value | .flowEntry | .flowMappingEnd => pure ""
        | _ => key (← node false false fuel) written
      let t ← flowValue fuel
      flowMembers false (Tree.insert k t members) fuel
    | _ =>
      let written ← written?
      let k ← key (← node false false fuel) written
      flowMembers false (Tree.insert k .null members) fuel

end

/-! ### Documents -/

/-- Go past tokens that only separate documents. -/
def skipEnds (r : Remainder) : Remainder :=
  { r with
    tokens := r.tokens.dropWhile fun
      | .documentEnd => true
      | _ => false }

/-- The complaint about a value that is no map. -/
def notMap (what : String) : Fault := .unwanted ("invalid type: " ++ what ++ ", expected a map")

/-- The members of the outermost value. -/
def members (t : Tree) : Except Fault (List (String × Tree)) :=
  match t with
  | .map members => .ok members
  | .null => .error (notMap "unit value")
  | .bool b => .error (notMap ("boolean `" ++ (if b then "true" else "false") ++ "`"))
  | .number (.natural n) => .error (notMap ("integer `" ++ toString n.toNat ++ "`"))
  | .number (.negative n) => .error (notMap ("integer `" ++ toString n.toInt ++ "`"))
  | .number (.real x) => .error (notMap ("floating point `" ++ Decimal.Style.pointed.write x ++ "`"))
  | .text s => .error (notMap ("string " ++ Text.quoted s))
  | .strange description => .error (notMap description)
  | .list _ => .error (notMap "sequence")

/-- Go past what stands in front of a document. The answer tells whether there is one. -/
def openDocument (first : Bool) : Part Bool := do
  modify skipEnds
  match ← peek with
  | .streamEnd => return false
  | .documentStart => next; return true
  | .directive =>
    modify fun r => { r with
      tokens := r.tokens.dropWhile fun
        | .directive => true
        | _ => false }
    match ← peek with
    | .documentStart => next; return true
    | _ => throw .noDocumentStart
  | _ => if first then return true else throw .noDocumentStart

/-- The only document of a text. -/
def document : Part (List (String × Tree)) := do
  if !(← openDocument true) then return []
  let fuel := 4 * (← get).tokens.length + 4
  let p ← properties
  match ← peek with
  | .blockSequence | .flowSequence | .blockEntry => throw (notMap "sequence")
  | t =>
    let found ← match t with
      | .documentStart | .documentEnd | .streamEnd | .directive => pure []
      | .scalar "" _ => next; pure []
      | _ => do liftM (members (← content p true fuel))
    if ← openDocument false then throw .severalDocuments
    return found

def read (s : String) : Except Fault Tree :=
  (document.run ⟨tokens s, []⟩).map fun (found, _) => .map found

end LinkGauge.Yaml
