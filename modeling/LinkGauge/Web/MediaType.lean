/-!
# Media types

What a message says its body is: a type, a subtype, and parameters, as in
`application/json; charset=utf-8`.
-/

namespace LinkGauge.Web

/-- A media type. Names are in lower case. -/
structure MediaType where
  type : List Char
  /-- What stands before the last plus sign of the subtype. -/
  subtype : List Char
  /-- What stands behind that sign, if there is one. -/
  suffix? : Option (List Char)
  parameters : List (List Char × List Char)
  deriving DecidableEq, Repr

namespace MediaType

/-- A character of a name. -/
def isTokenChar (c : Char) : Bool :=
  c.isAlphanum || c.val == 0x27 ||
    c ∈ ['!', '#', '$', '%', '&', '*', '+', '-', '.', '^', '_', '`', '|', '~']

/-- A character between quotation marks. Messages have only visible characters and spaces. -/
def isQuotedChar (c : Char) : Bool :=
  0x20 ≤ c.val && c.val < 0x7F

/-- A name that is not empty, and what follows it. -/
def token? (cs : List Char) : Option (List Char × List Char) :=
  let name := cs.takeWhile isTokenChar
  if name.isEmpty then none else some (name, cs.drop name.length)

/-- The value of a parameter, and what follows it. Between quotation marks there is at least one
character, of whatever kind, and behind them there may be spaces. -/
def value? : List Char → Option (List Char × List Char)
  | '"' :: c :: cs =>
    let more := cs.takeWhile fun c => c != '"' && isQuotedChar c
    match isQuotedChar c, cs.drop more.length with
    | true, '"' :: rest =>
      match rest.dropWhile (· == ' ') with
      | [] => some (c :: more, [])
      | ';' :: rest => some (c :: more, ';' :: rest)
      | _ => none
    | _, _ => none
  | cs =>
    let value := cs.takeWhile isTokenChar
    match cs.drop value.length with
    | [] => some (value, [])
    | ';' :: rest => if value.isEmpty then none else some (value, ';' :: rest)
    | _ => none

/-- The parameters behind a media type, if they make sense. `fuel` is more than their length. -/
def parameters? : (fuel : Nat) → List Char → Option (List (List Char × List Char))
  | 0, _ => none
  | fuel + 1, cs =>
    match cs with
    | [] => some []
    | ';' :: rest =>
      match rest.dropWhile (· == ' ') with
      | [] => some []
      | rest =>
        match token? rest with
        | some (name, '=' :: rest) => do
          let (value, rest) ← value? rest
          let others ← parameters? fuel rest
          some ((name.map Char.toLower, value) :: others)
        | _ => none
    | _ => none

/-- Cut a subtype at its last plus sign. One in front does not count. -/
def cutSuffix : List Char → List Char × Option (List Char)
  | [] => ([], none)
  | c :: cs =>
    if cs.contains '+' then
      let suffix := (cs.reverse.takeWhile (· != '+')).reverse
      (c :: cs.take (cs.length - suffix.length - 1), some suffix)
    else (c :: cs, none)

/-- Read a media type. -/
def parse? (s : String) : Option MediaType := do
  let (type, rest) ← token? s.toList
  match rest with
  | '/' :: rest =>
    let (whole, rest) ← token? rest
    let parameters ← parameters? (rest.length + 1) rest
    let (subtype, suffix?) := cutSuffix (whole.map Char.toLower)
    some ⟨type.map Char.toLower, subtype, suffix?, parameters⟩
  | _ => none

/-- The body is JSON. -/
def isJson (m : MediaType) : Bool :=
  let json := ['j', 's', 'o', 'n']
  m.type == "application".toList && (m.subtype == json || m.suffix? == some json)

/-- The label of the charset that a text of a media type names. The first one counts. -/
def charset? (s : String) : Option (List Char) := do
  let m ← parse? s
  m.parameters.lookup "charset".toList

end MediaType

end LinkGauge.Web
