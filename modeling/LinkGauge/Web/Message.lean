import LinkGauge.Json.Scan
import LinkGauge.Json.Value
import LinkGauge.Problem

/-!
# Requests and responses

What a service is asked and what it answers.
-/

namespace LinkGauge.Web

/-- What a service is asked. -/
structure Request where
  method : String
  /-- The path, and a question mark and a query behind it if there is one. -/
  target : String
  contentType : Option String
  body : Json.Bytes

/-- What is asked for: a fragment is of no concern to a service. -/
def Request.resource (r : Request) : List Char := r.target.toList.takeWhile (· != '#')

def Request.path (r : Request) : String :=
  String.ofList (r.resource.takeWhile (· != '?'))

/-- The query of a request, which is empty if there is none. -/
def Request.query (r : Request) : String :=
  String.ofList ((r.resource.dropWhile (· != '?')).drop 1)

inductive Body where
  | empty
  | text (s : String)
  | json (j : Json)

/-- What a service answers. -/
structure Response where
  status : Nat
  contentType : Option String
  /-- The methods that are allowed, where one was not. -/
  allow : Option String
  body : Body

namespace Response

/-- A response without a body. -/
def bare (status : Nat) : Response := ⟨status, none, none, .empty⟩

def text (status : Nat) (s : String) : Response :=
  ⟨status, some "text/plain; charset=utf-8", none, .text s⟩

def json (status : Nat) (j : Json) : Response :=
  ⟨status, some "application/json", none, .json j⟩

/-- The report of a problem. -/
def ofProblem (p : Problem) : Response := text p.status p.publicMessage

/-- The response without its body. -/
def headOnly (r : Response) : Response := { r with body := .empty }

end Response

def Body.bytes : Body → Json.Bytes
  | .empty => []
  | .text s => Utf8.encode s
  | .json j => Utf8.encode j.render

end LinkGauge.Web
