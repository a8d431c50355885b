import LinkGauge.Json.Value
import LinkGauge.Plan
import LinkGauge.Time.Span
import LinkGauge.Url.Parse
import LinkGauge.Web.Content

/-!
# Exchanges

A call is sent to an address and a reply comes back, or none does. Replies that point elsewhere are
followed.
-/

namespace LinkGauge.Web

/-- What is sent to an address. -/
structure Call where
  method : String
  url : Url
  /-- A JSON body, if there is one. -/
  body : Option Json
  /-- How long the exchange may take. -/
  timeout : Span

/-- What comes of a call. -/
inductive Reply where
  /-- An answer, which may break off while its body is read. -/
  | response (status : Nat) (location : Option String) (body : Except (List String) Content)
  /-- No answer; the messages tell why, from the outermost to the innermost. -/
  | unreached (causes : List String)

/-- Calls over a network. -/
def Exchange : Interface where
  Question := Call
  Answer := fun _ => Reply

/-- The text of a call's body. -/
def Call.content (c : Call) : Json.Bytes :=
  match c.body with
  | some j => Utf8.encode j.render
  | none => []

/-- The call that a reply asks for instead of one that was made. A call for another place loses its
body, unless the status says to repeat it. -/
def Call.redirected? (c : Call) (status : Nat) (location : Option String) : Option Call := do
  let place ← location
  let url ← (Url.join c.url place).toOption
  if status = 301 ∨ status = 302 ∨ status = 303 then
    some { c with method := if c.method = "HEAD" then "HEAD" else "GET", url, body := none }
  else if status = 307 ∨ status = 308 then some { c with url }
  else none

/-- How often a call is sent elsewhere. -/
def maxRedirects : Nat := 10

/-- An address as messages name it, without who asks. -/
def named (u : Url) : String := { u with username := "", password := "" }.text

/-- A reply for want of a network that takes the scheme. -/
def refusedScheme (u : Url) : Reply :=
  .unreached ["builder error for url (" ++ named u ++ ")", "URL scheme is not allowed"]

/-- A reply to a call that was sent elsewhere too often. -/
def tooManyRedirects (u : Url) : Reply :=
  .unreached ["error following redirect for url (" ++ named u ++ ")", "too many redirects"]

/-- Make a call. Where the reply asks for another one, go on with it. -/
def attempt (c : Call) (next : Call → Plan Exchange Reply) : Plan Exchange Reply :=
  if c.url.scheme = "http" ∨ c.url.scheme = "https" then
    .ask c fun
      | .unreached causes => .done (.unreached causes)
      | .response status location body =>
        match c.redirected? status location with
        | none => .done (.response status location body)
        | some elsewhere => next elsewhere
  else .done (refusedScheme c.url)

/-- Make a call and follow the replies so many times. -/
def follow : Nat → Call → Plan Exchange Reply
  | 0, c => attempt c fun elsewhere => .done (tooManyRedirects elsewhere.url)
  | left + 1, c => attempt c (follow left)

/-- Make a call. -/
def send (c : Call) : Plan Exchange Reply := follow maxRedirects c

end LinkGauge.Web
