import LinkGauge.Text.Percent

/-!
# Addresses

The parts of a URL and its text. The path of an address with a hierarchy is a list of segments;
other addresses, as `mailto:x`, have a plain path.
-/

namespace LinkGauge

inductive Url.Path where
  /-- Segments, each with a slash in front. -/
  | segments (parts : List String)
  | plain (text : String)
  deriving DecidableEq, Repr

/-- An address. -/
structure Url where
  scheme : String
  username : String
  password : String
  /-- The host as it is written, if there is one. -/
  host : Option String
  /-- The port, if it is not the usual one of the scheme. -/
  port : Option Nat
  path : Url.Path
  query : Option String
  fragment : Option String
  deriving DecidableEq, Repr

namespace Url

/-- The schemes that always have a host, with their usual ports. -/
def usualPort? (scheme : String) : Option (Option Nat) :=
  [ ("http", some 80), ("https", some 443), ("ws", some 80), ("wss", some 443),
    ("ftp", some 21), ("file", none) ].lookup scheme

/-- The scheme is one of those that always have a host. -/
def isSpecialScheme (scheme : String) : Bool := (usualPort? scheme).isSome

def Path.text : Path → String
  | .segments parts => String.join (parts.map fun p => "/" ++ p)
  | .plain text => text

/-- The name and password in front of a host. -/
def userText (u : Url) : String :=
  if u.username = "" ∧ u.password = "" then ""
  else u.username ++ (if u.password = "" then "" else ":" ++ u.password) ++ "@"

/-- Host and port, and who asks. -/
def authorityText (u : Url) : String :=
  match u.host with
  | some host =>
    "//" ++ u.userText ++ host ++
      (match u.port with
        | some port => ":" ++ toString port
        | none => "")
  | none =>
    match u.path with
    | .segments ("" :: _ :: _) => "/."
    | _ => ""

/-- The text of an optional part, behind its mark. -/
def marked (mark : String) : Option String → String
  | some s => mark ++ s
  | none => ""

def text (u : Url) : String :=
  u.scheme ++ ":" ++ u.authorityText ++ u.path.text ++ marked "?" u.query ++
    marked "#" u.fragment

/-- Path and query, as a request names what it wants. -/
def target (u : Url) : String := u.path.text ++ marked "?" u.query

/-! ### Trailing slashes -/

def Path.withSlash : Path → Path
  | .segments parts =>
    if parts.getLast? = some "" then .segments parts else .segments (parts ++ [""])
  | .plain text => if text.endsWith "/" then .plain text else .plain (text ++ "/")

/-- The address with a slash at the end of its path. -/
def withSlash (u : Url) : Url := { u with path := u.path.withSlash }

end Url

end LinkGauge
