import LinkGauge.Url.Basic
import LinkGauge.Url.Host

/-!
# Reading addresses

A text is read as an address on its own, or as one relative to another address. Blanks around it
and tabs and line ends inside do not count.
-/

namespace LinkGauge.Url

/-! ### Characters that are encoded -/

def inControls (c : Char) : Bool := c.val < 0x20 || c.val == 0x7F

def inFragment (c : Char) : Bool :=
  inControls c || c ∈ [' ', '"', '<', '>', '`']

def inPath (c : Char) : Bool :=
  inFragment c || c ∈ ['#', '?', '\x7b', '\x7d']

def inUser (c : Char) : Bool :=
  inPath c || c ∈ ['/', ':', ';', '=', '@', '[', '\\', ']', '^', '|']

def inQuery (special : Bool) (c : Char) : Bool :=
  inControls c || c ∈ [' ', '"', '#', '<', '>'] || (special && c.val == 0x27)

def encoded (must : Char → Bool) (cs : List Char) : String :=
  String.ofList (Percent.encode must cs)

/-! ### Paths -/

/-- A segment that stands for the place itself. -/
def isHere (cs : List Char) : Bool :=
  let s := cs.map Char.toLower
  s == ['.'] || s == ['%', '2', 'e']

/-- A segment that stands for the place above. -/
def isAbove (cs : List Char) : Bool :=
  let s := cs.map Char.toLower
  s == ['.', '.'] || s == ['.', '%', '2', 'e'] || s == ['%', '2', 'e', '.'] ||
    s == ['%', '2', 'e', '%', '2', 'e']

/-- Go along segments from a place. -/
def follow : List String → List (List Char) → List String
  | place, [] => place
  | place, [last] =>
    if isAbove last then place.dropLast ++ [""]
    else if isHere last then place ++ [""]
    else place ++ [encoded inPath last]
  | place, part :: rest =>
    if isAbove part then follow place.dropLast rest
    else if isHere part then follow place rest
    else follow (place ++ [encoded inPath part]) rest

/-- A slash, or what stands for one in an address whose scheme always has a host. -/
def isSlash (special : Bool) (c : Char) : Bool := c == '/' || (special && c == '\\')

/-- The parts of a text between slashes. -/
def pieces (special : Bool) (cs : List Char) : List (List Char) :=
  cs.splitOnP (isSlash special)

/-! ### Query and fragment -/

/-- A text without its fragment, and the fragment. -/
def cutFragment (cs : List Char) : List Char × Option String :=
  match cs.dropWhile (· != '#') with
  | [] => (cs, none)
  | _ :: rest => (cs.takeWhile (· != '#'), some (encoded inFragment rest))

/-- A text without its query, and the query. -/
def cutQuery (special : Bool) (cs : List Char) : List Char × Option String :=
  match cs.dropWhile (· != '?') with
  | [] => (cs, none)
  | _ :: rest => (cs.takeWhile (· != '?'), some (encoded (inQuery special) rest))

/-! ### Authority -/

/-- What stands before and behind the last `@`. -/
def cutUser (cs : List Char) : Option (List Char) × List Char :=
  let host := (cs.reverse.takeWhile (· != '@')).reverse
  if host.length < cs.length then (some (cs.take (cs.length - host.length - 1)), host)
  else (none, cs)

/-- Host and port, apart at the first colon outside of brackets. -/
def cutPort : (inside : Bool) → List Char → List Char × Option (List Char)
  | _, [] => ([], none)
  | inside, c :: rest =>
    if c == ':' && !inside then ([], some rest)
    else
      let (host, port) := cutPort (if c == '[' then true else if c == ']' then false else inside) rest
      (c :: host, port)

/-- A port, unless it is the usual one. -/
def readPort (scheme : String) (cs : List Char) : Except Fault (Option Nat) :=
  if !cs.all Char.isDigit then .error .badPort
  else if cs.isEmpty then .ok none
  else
    match number? 10 cs with
    | some n =>
      if 65535 < n then .error .badPort
      else if usualPort? scheme = some (some n) then .ok none
      else .ok (some n)
    | none => .error .badPort

/-- An address with nothing but a scheme. -/
def bare (scheme : String) : Url :=
  ⟨scheme, "", "", none, none, .segments [], none, none⟩

/-- Read the authority into an address. -/
def withAuthority (u : Url) (cs : List Char) : Except Fault Url := do
  let special := isSpecialScheme u.scheme
  let (user, rest) := cutUser cs
  if user.isSome ∧ rest.isEmpty then .error .emptyHost
  else
    let (host, port) := cutPort false rest
    if host.isEmpty ∧ (special ∨ port.isSome ∨ user.isSome) then .error .emptyHost
    else
      let host ← if special then specialHost host else otherHost host
      let port ← readPort u.scheme (port.getD [])
      let user := user.getD []
      let name := user.takeWhile (· != ':')
      .ok
        { u with
          username := encoded inUser name
          password := encoded inUser (user.drop (name.length + 1))
          host := some (String.ofList host)
          port := port }

/-! ### Addresses -/

/-- The scheme in front of a text, and what follows its colon. -/
def cutScheme (cs : List Char) : Option (String × List Char) :=
  let name := cs.takeWhile fun c => c.isAlphanum || c == '+' || c == '-' || c == '.'
  match name, cs.drop name.length with
  | first :: _, ':' :: rest =>
    if first.isAlpha then some (String.ofList (name.map Char.toLower), rest) else none
  | _, _ => none

/-- The text without what does not count. -/
def cleaned (s : String) : List Char :=
  let outer (c : Char) : Bool := c.val ≤ 0x20
  (((s.toList.dropWhile outer).reverse.dropWhile outer).reverse).filter fun c =>
    !(c == '\t' || c == '\n' || c == '\r')

/-- Read authority and path, from behind the slashes in front of the host. -/
def afterSlashes (u : Url) (cs : List Char) : Except Fault Url := do
  let special := isSpecialScheme u.scheme
  let authority := cs.takeWhile fun c => !isSlash special c
  let u ← withAuthority u authority
  match cs.drop authority.length with
  | [] => .ok { u with path := .segments (if special then [""] else []) }
  | _ :: path => .ok { u with path := .segments (follow [] (pieces special path)) }

/-- Read a file's address, from behind the colon. -/
def afterFile (u : Url) (cs : List Char) : Except Fault Url :=
  let slash := isSlash true
  match cs with
  | a :: b :: rest =>
    if slash a && slash b then do
      let host := rest.takeWhile fun c => !slash c
      let name ← if host.isEmpty then .ok [] else specialHost host
      let name := if name = "localhost".toList then [] else name
      .ok
        { u with
          host := some (String.ofList name)
          path := .segments (follow [] (pieces true (rest.drop (host.length + 1)))) }
    else
      .ok
        { u with
          host := some ""
          path := .segments (follow [] (pieces true (if slash a then b :: rest else cs))) }
  | _ =>
    .ok
      { u with
        host := some ""
        path := .segments (follow [] (pieces true (cs.filter fun c => !slash c))) }

/-- Read what follows a scheme, without query and fragment. -/
def afterScheme (u : Url) (cs : List Char) : Except Fault Url :=
  if u.scheme = "file" then afterFile u cs
  else if isSpecialScheme u.scheme then afterSlashes u (cs.dropWhile (isSlash true))
  else
    match cs with
    | '/' :: '/' :: rest => afterSlashes u rest
    | '/' :: rest => .ok { u with path := .segments (follow [] (pieces false rest)) }
    | _ => .ok { u with path := .plain (encoded inControls cs) }

/-- Read an address that stands on its own. -/
def parse (s : String) : Except Fault Url := do
  let (cs, fragment) := cutFragment (cleaned s)
  match cutScheme cs with
  | none => .error .noScheme
  | some (scheme, rest) =>
    let (rest, query) := cutQuery (isSpecialScheme scheme) rest
    let u ← afterScheme (bare scheme) rest
    .ok { u with query, fragment }

/-- Read an address seen from another one. -/
def join (base : Url) (s : String) : Except Fault Url := do
  let special := isSpecialScheme base.scheme
  let (cs, fragment) := cutFragment (cleaned s)
  match cutScheme cs with
  | some (scheme, rest) =>
    if scheme ≠ base.scheme ∨ !special ∨ (rest.head?.any (isSlash true)) then
      let (rest, query) := cutQuery (isSpecialScheme scheme) rest
      let u ← afterScheme (bare scheme) rest
      .ok { u with query, fragment }
    else relative special rest fragment
  | none => relative special cs fragment
where
  relative (special : Bool) (cs : List Char) (fragment : Option String) : Except Fault Url :=
    match base.path with
    | .plain _ =>
      if cs.isEmpty ∧ fragment.isSome then .ok { base with fragment } else .error .noBase
    | .segments parts =>
      let (path, query) := cutQuery special cs
      match path with
      | [] => .ok { base with query := if query.isSome then query else base.query, fragment }
      | a :: rest =>
        if isSlash special a then
          match rest with
          | b :: rest' =>
            if isSlash special b then do
              let u ← afterSlashes (bare base.scheme) rest'
              .ok { u with query, fragment }
            else
              .ok { base with path := .segments (follow [] (pieces special rest)), query, fragment }
          | [] => .ok { base with path := .segments [""], query, fragment }
        else
          .ok
            { base with
              path := .segments (follow parts.dropLast (pieces special path)), query, fragment }

end LinkGauge.Url
