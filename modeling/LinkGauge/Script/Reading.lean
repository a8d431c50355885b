import LinkGauge.Script.Basic
import LinkGauge.Script.Token

/-!
# Reading scripts

Pipes bind tighter than conditions, and these tighter than what separates steps. Loops are read as
if they had no end.
-/

namespace LinkGauge.Script

/-- Words that close what is around them. -/
def isClosing : Token → Bool
  | .sign ")" | .word "\x7d" | .word "do" | .word "done" => true
  | _ => false

def readRedirects : List Token → List Redirect × List Token
  | .redirect d copies :: .word goal :: rest =>
    let (others, left) := readRedirects rest
    (⟨d, if copies then goal.toNat? else none⟩ :: others, left)
  | ts => ([], ts)

def readProgram : List Token → List String × List Redirect × List Token
  | .word w :: rest =>
    let (words, changes, left) := readProgram rest
    (w :: words, changes, left)
  | .redirect d copies :: .word goal :: rest =>
    let (words, changes, left) := readProgram rest
    (words, ⟨d, if copies then goal.toNat? else none⟩ :: changes, left)
  | ts => ([], [], ts)

/-- A script with redirections, if there are any. -/
def withRedirects (s : Script) (changes : List Redirect) : Script :=
  if changes.isEmpty then s else .redirected s changes

mutual

/-- Read a program or a group. `fuel` exceeds the number of tokens, six times over. -/
def readPiece : Nat → List Token → Script × List Token
  | 0, ts => (.nothing, ts)
  | fuel + 1, ts =>
    match ts with
    | .sign "(" :: rest =>
      let (s, rest) := readSteps fuel rest
      let (changes, rest) := readRedirects (rest.drop 1)
      (withRedirects (.inside s) changes, rest)
    | .word "\x7b" :: rest =>
      let (s, rest) := readSteps fuel rest
      let (changes, rest) := readRedirects (rest.drop 1)
      (withRedirects s changes, rest)
    | .word "while" :: rest =>
      let (_, rest) := readSteps fuel rest
      let (s, rest) := readSteps fuel (rest.drop 1)
      let (changes, rest) := readRedirects (rest.drop 1)
      (withRedirects (.forever s) changes, rest)
    | ts =>
      let (words, changes, rest) := readProgram ts
      (withRedirects (.program words) changes, rest)

/-- Read programs with pipes between them. -/
def readPipe : Nat → List Token → Script × List Token
  | 0, ts => (.nothing, ts)
  | fuel + 1, ts =>
    let (first, rest) := readPiece fuel ts
    match rest with
    | .sign "|" :: rest =>
      let (others, rest) := readPipe fuel rest
      (.pipe first others, rest)
    | rest => (first, rest)

/-- Read what follows a step that depends on how it ended. -/
def readConditions (before : Script) : Nat → List Token → Script × List Token
  | 0, ts => (before, ts)
  | fuel + 1, ts =>
    match ts with
    | .sign "&&" :: rest =>
      let (s, rest) := readPipe fuel rest
      readConditions (.both before s) fuel rest
    | .sign "||" :: rest =>
      let (s, rest) := readPipe fuel rest
      readConditions (.either before s) fuel rest
    | ts => (before, ts)

/-- Read steps up to what closes them. -/
def readSteps : Nat → List Token → Script × List Token
  | 0, ts => (.nothing, ts)
  | fuel + 1, ts =>
    match ts with
    | [] => (.nothing, [])
    | .sign ";" :: rest => readSteps fuel rest
    | t :: _ =>
      if isClosing t then (.nothing, ts)
      else
        let (first, rest) := readPipe fuel ts
        let (first, rest) := readConditions first fuel rest
        let (first, rest) := match rest with
          | .sign "&" :: rest => (Script.behind first, rest)
          | rest => (first, rest)
        if rest.length < ts.length then
          let (others, rest) := readSteps fuel rest
          (.sequence first others, rest)
        else (first, rest)

end

/-- Read a script that was called with `names`. -/
def read (names : List String) (s : String) : Script :=
  let ts := tokens names s
  (readSteps (6 * ts.length + 6) ts).1

end LinkGauge.Script
