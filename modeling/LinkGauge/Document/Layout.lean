import LinkGauge.Document.Decoder

/-!
# Decoding structures

A structure is read from an object, member by member, or from a list, field by field. A `Layout`
describes the fields once for both. Reading an object takes two looks: the first walks the members
in the order of the text and stops at the first failure, the second finds the value of each field
by its name. So the order of members decides which failure is reported and nothing else.
-/

namespace LinkGauge

/-- The rest of a list that fields are taken from. -/
structure Supply where
  taken : Nat
  items : List Node
  ending : Ending

/-- The fields of a structure, and how to put a value together from them. -/
structure Layout (α : Type) where
  /-- The names of the fields and the decoders of their values. -/
  fields : List (String × (Node → Except Failure Unit))
  /-- The value, from the nodes found under the names. -/
  build : (String → Option Node) → Except Failure α
  /-- The value, from a list. `expected` describes the whole list. -/
  take : (expected : String) → Supply → Except Failure (α × Supply)

namespace Layout

variable {α β : Type}

/-- No field. -/
def pure (a : α) : Layout α where
  fields := []
  build := fun _ => .ok a
  take := fun _ supply => .ok (a, supply)

/-- The fields of `f`, then those of `r`. -/
def seq (f : Layout (α → β)) (r : Layout α) : Layout β where
  fields := f.fields ++ r.fields
  build := fun find => do
    let g ← f.build find
    let a ← r.build find
    .ok (g a)
  take := fun expected supply => do
    let (g, supply) ← f.take expected supply
    let (a, supply) ← r.take expected supply
    .ok (g a, supply)

/-- Put a function in front of the first field. -/
def map (g : α → β) (r : Layout α) : Layout β where
  fields := r.fields
  build := fun find => (r.build find).map g
  take := fun expected supply => (r.take expected supply).map fun (a, supply) => (g a, supply)

instance : Functor Layout where
  map := Layout.map

instance : Pure Layout where
  pure := Layout.pure

instance : Seq Layout where
  seq f r := Layout.seq f (r ())

/-- A field. `absent` is its value, or the failure, where an object lacks it, and `short` where a
list ends before it; there, `none` stands for a list that must not end. -/
def field (name : String) (d : Decoder α) (absent : Except Failure α) (short : Option α) :
    Layout α where
  fields := [(name, fun n => (d n).map fun _ => ())]
  build := fun find =>
    match find name with
    | some n => (d n).mapError (.within (.member name))
    | none => absent
  take := fun expected supply =>
    match supply.items with
    | n :: rest => do
      let a ← (d n).mapError (.within (.item supply.taken))
      .ok (a, ⟨supply.taken + 1, rest, supply.ending⟩)
    | [] =>
      match Node.endingFault? supply.ending, short with
      | some fault, _ => .error (.here (.malformed fault))
      | none, some a => .ok (a, { supply with taken := supply.taken + 1 })
      | none, none => .error (.here (.wrongLength supply.taken expected))

/-- A field that must be there. -/
def required (name : String) (d : Decoder α) : Layout α :=
  field name d (.error (.here (.missingField name))) none

/-- A field that may be missing or null in an object. -/
def optional (name : String) (d : Decoder α) : Layout (Option α) :=
  field name (Decoder.option d) (.ok none) none

/-- A field with a value of its own where it is missing. -/
def defaulted (name : String) (d : Decoder α) (a : α) : Layout α :=
  field name d (.ok a) (some a)

def names (r : Layout α) : List String := r.fields.map Prod.fst

/-! ### Objects -/

/-- The first failure among the members, in the order of the text. `seen` holds the names of the
fields met before; `closed` refuses members that are no field. -/
def check (fields : List (String × (Node → Except Failure Unit))) (closed : Bool) :
    List String → List (Except Fault String × Node) → Ending → Except Failure Unit
  | _, [], ending =>
    match Node.endingFault? ending with
    | some fault => .error (.here (.malformed fault))
    | none => .ok ()
  | _, (.error fault, _) :: _, _ => .error (.here (.malformed fault))
  | seen, (.ok key, n) :: rest, ending =>
    match fields.lookup key with
    | some d =>
      if key ∈ seen then .error (.here (.duplicateField key))
      else do
        (d n).mapError (.within (.member key))
        check fields closed (key :: seen) rest ending
    | none =>
      if closed then .error ⟨[.member key], .unknownField key (fields.map Prod.fst)⟩
      else do
        (Decoder.skip n).mapError (.within (.member key))
        check fields closed seen rest ending

/-- The node of the first member with a given key. -/
def find? (key : String) : List (Except Fault String × Node) → Option Node
  | [] => none
  | (.ok k, n) :: rest => if k = key then some n else find? key rest
  | (.error _, _) :: rest => find? key rest

/-! ### Structures -/

/-- The list that a structure called `name` can be read from. -/
def description (r : Layout α) (name : String) : String :=
  "struct " ++ name ++ " with " ++ toString r.fields.length ++
    (if r.fields.length = 1 then " element" else " elements")

/-- The length of a list, as complaints tell it. -/
def elements (n : Nat) : String :=
  toString n ++ (if n = 1 then " element in sequence" else " elements in sequence")

/-- Read a structure called `name`. With `closed`, an object may have no other members. -/
def decoder (r : Layout α) (name : String) (closed : Bool) : Decoder α
  | .object members ending => do
    check r.fields closed [] members ending
    r.build fun key => find? key members
  | .list items ending => do
    let (a, supply) ← r.take (r.description name) ⟨0, items, ending⟩
    match supply.items, supply.ending with
    | _, .lax | [], .closed | [], .counted => .ok a
    | [], .broken _ close _ => .error (.here (.malformed close))
    | _ :: _, .counted =>
      .error (.here (.wrongLength (supply.taken + supply.items.length) (elements supply.taken)))
    | _ :: _, _ => .error (.here (.malformed .trailingCharacters))
  | .deep _ _ => .error (.here (.malformed .tooDeep))
  | n => Decoder.mismatch ("struct " ++ name) n

end Layout

end LinkGauge
