/-!
# Scripts

A script stands in for a tool when runs are rehearsed. It is written in the notation of a shell,
as far as it takes to write something, to wait, and to end one way or another.
-/

namespace LinkGauge

/-- A descriptor is led to where another one leads, or nowhere. -/
structure Redirect where
  descriptor : Nat
  source : Option Nat
  deriving DecidableEq, Repr

/-- A script. -/
inductive Script where
  | nothing
  | program (words : List String)
  | redirected (s : Script) (changes : List Redirect)
  /-- In a process of its own. -/
  | inside (s : Script)
  /-- Again and again, without an end. -/
  | forever (s : Script)
  /-- What the first writes is read by the rest. -/
  | pipe (first rest : Script)
  /-- The rest only if the first succeeds. -/
  | both (first rest : Script)
  /-- The rest only if the first fails. -/
  | either (first rest : Script)
  /-- In the background. -/
  | behind (s : Script)
  | sequence (first rest : Script)
  deriving DecidableEq, Repr

end LinkGauge
