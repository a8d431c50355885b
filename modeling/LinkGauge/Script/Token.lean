import LinkGauge.Decimal.Reading

/-!
# Tokens of scripts

A script is made of words, signs between them, and redirections. Quotation marks, single or double,
keep blanks and signs inside a word. What a script was called with takes the place of `$1` and its
like.
-/

namespace LinkGauge.Script

/-- A part of a script. -/
inductive Token where
  | word (s : String)
  | sign (s : String)
  /-- A redirection of a descriptor. `copies` tells that its goal is a descriptor. -/
  | redirect (descriptor : Nat) (copies : Bool)
  deriving DecidableEq, Repr

/-- The number that the process of a script has, as a script names it. -/
def ownNumber : String := "4242"

/-- A single quotation mark. -/
def singleQuote : Char := Char.ofNat 0x27

/-- What stands for a dollar sign with a character behind it, in a script that was called with
`names`. The first of them is the name of the script itself. -/
def parameter? (names : List String) (c : Char) : Option (List Char) :=
  if c = '$' then some ownNumber.toList
  else if c = '#' then some (Nat.toDigits 10 (names.length - 1))
  else if c = '@' || c = '*' then some (" ".intercalate (names.drop 1)).toList
  else if c.isDigit then some (names.getD (c.toNat - 48) "").toList
  else none

/-- Read what stands between double quotation marks. -/
def doubleQuoted (names : List String) : List Char → List Char × List Char
  | [] => ([], [])
  | '"' :: rest => ([], rest)
  | '\\' :: c :: rest =>
    let (text, left) := doubleQuoted names rest
    if c = '\n' then (text, left)
    else if c = '"' || c = '\\' || c = '$' then (c :: text, left)
    else ('\\' :: c :: text, left)
  | '$' :: c :: rest =>
    match parameter? names c with
    | some value =>
      let (text, left) := doubleQuoted names rest
      (value ++ text, left)
    | none =>
      let (text, left) := doubleQuoted names (c :: rest)
      ('$' :: text, left)
  | c :: rest =>
    let (text, left) := doubleQuoted names rest
    (c :: text, left)

/-- Words in a row, the first of which goes on with a word that was begun. The last may go on. -/
def inserted (word : Option (List Char)) : (pieces : List (List Char)) →
    List Token × Option (List Char)
  | [] => ([], word)
  | first :: others =>
    let words := (word.getD [] ++ first) :: others
    (words.dropLast.map fun w => .word (String.ofList w), words.getLast?)

/-- A sign, and what follows. The end of a line separates like a semicolon. -/
def sign? : List Char → Option (String × List Char)
  | '&' :: '&' :: rest => some ("&&", rest)
  | '|' :: '|' :: rest => some ("||", rest)
  | '\n' :: rest => some (";", rest)
  | c :: rest =>
    if c = ';' || c = '&' || c = '|' || c = '(' || c = ')' then some (String.singleton c, rest)
    else none
  | [] => none

/-- The marks of a redirection: by default it is about input or output. -/
def redirect? : List Char → Option (Nat × Bool × List Char)
  | '>' :: '>' :: rest => some (1, false, rest)
  | '>' :: '&' :: rest => some (1, true, rest)
  | '<' :: '&' :: rest => some (0, true, rest)
  | '>' :: rest => some (1, false, rest)
  | '<' :: rest => some (0, false, rest)
  | _ => none

/-- The tokens of a text. `word` is the part of a word that was read, and `fuel` exceeds the
length. -/
def tokensFrom (names : List String) (word : Option (List Char)) : Nat → List Char → List Token
  | 0, _ => []
  | fuel + 1, cs =>
    let ended (rest : List Token) : List Token :=
      match word with
      | some w => .word (String.ofList w) :: rest
      | none => rest
    let grown (more : List Char) : Option (List Char) := some (word.getD [] ++ more)
    match cs with
    | [] => ended []
    | c :: rest =>
      match redirect? cs, sign? cs with
      | some (standard, copies, rest), _ =>
        match word with
        | some w =>
          if w.all Char.isDigit then
            .redirect (Decimal.natOfDigits w) copies :: tokensFrom names none fuel rest
          else ended (.redirect standard copies :: tokensFrom names none fuel rest)
        | none => .redirect standard copies :: tokensFrom names none fuel rest
      | none, some (s, rest) => ended (.sign s :: tokensFrom names none fuel rest)
      | none, none =>
        if c = ' ' || c = '\t' then ended (tokensFrom names none fuel rest)
        else if c = '#' && word.isNone then
          tokensFrom names none fuel (rest.dropWhile (· ≠ '\n'))
        else if c = '"' then
          match rest with
          | '$' :: '@' :: '"' :: rest =>
            let (words, word) := inserted word ((names.drop 1).map String.toList)
            words ++ tokensFrom names word fuel rest
          | rest =>
            let (text, rest) := doubleQuoted names rest
            tokensFrom names (grown text) fuel rest
        else if c = singleQuote then
          let text := rest.takeWhile (· ≠ singleQuote)
          tokensFrom names (grown text) fuel (rest.drop (text.length + 1))
        else
          match c, rest with
          | '\\', d :: rest => tokensFrom names (grown [d]) fuel rest
          | '$', d :: rest =>
            match parameter? names d with
            | some value =>
              let (words, word) := inserted word ((value.splitOn ' ').filter (· ≠ []))
              words ++ tokensFrom names word fuel rest
            | none => tokensFrom names (grown ['$']) fuel (d :: rest)
          | c, rest => tokensFrom names (grown [c]) fuel rest

/-- The tokens of a text, in a script that was called with `names`. -/
def tokens (names : List String) (s : String) : List Token :=
  tokensFrom names none (s.toList.length + 1) s.toList

end LinkGauge.Script
