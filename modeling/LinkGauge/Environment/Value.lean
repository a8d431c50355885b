import LinkGauge.Decimal.Reading
import LinkGauge.Document.Tree
import LinkGauge.Text.Blank
import LinkGauge.Text.Digit
import LinkGauge.Word

/-!
# Values of environment variables

A variable holds a text. In a small notation it can stand for a truth value, a number, a list
`[a, b]` or a map `\x7bkey=a, other=b\x7d`. A text outside the notation stands for itself.
-/

namespace LinkGauge.Environment

/-! ### Words -/

/-- A gap between the parts of the notation. -/
def isGap (c : Char) : Bool :=
  c = ' ' || c = '\t' || c = '\n' || c = '\r' || c.val == 0x0C

/-- A mark that ends a word. -/
def isMark (c : Char) : Bool :=
  c = ',' || c = '[' || c = ']' || c = '\x7b' || c = '\x7d'

/-- What is left behind a gap. -/
def skipGap (cs : List Char) : List Char := cs.dropWhile isGap

/-- An integer of 64 bits. -/
def whole? (cs : List Char) : Option Number :=
  match Decimal.integer? cs with
  | none => none
  | some n =>
    if cs.head? = some '-' then
      if Word.isInt64 n then some (.negative (Int64.ofInt n)) else none
    else if n < Word.size64 then some (.natural (UInt64.ofNat n.toNat)) else none

/-- A double. Decimals beyond every double count as infinite. -/
def real? (cs : List Char) : Option Float :=
  let (negative, rest) := Decimal.cutSign cs
  let infinity : Float := if negative then -1.0 / 0.0 else 1.0 / 0.0
  let name := String.ofList (rest.map Char.toLower)
  if name = "inf" ∨ name = "infinity" then some infinity
  else if name = "nan" then some (0.0 / 0.0)
  else (Decimal.literal? cs).map fun l => l.nearest?.getD infinity

/-- What a word stands for. -/
def word (cs : List Char) : Tree :=
  let cs := trimChars cs
  if cs = "true".toList then .bool true
  else if cs = "false".toList then .bool false
  else
    match whole? cs, real? cs with
    | some n, _ => .number n
    | none, some x => .number (.real x)
    | none, none => .text (String.ofList cs)

/-! ### Quoted texts -/

/-- The character that a letter behind a backslash stands for. -/
def escaped? : Char → Option Char
  | '"' => some '"'
  | '\\' => some '\\'
  | 'b' => some (Char.ofNat 0x08)
  | 'f' => some (Char.ofNat 0x0C)
  | 'n' => some '\n'
  | 'r' => some '\r'
  | 't' => some '\t'
  | _ => none

/-- The character with a number in hexadecimal digits. -/
def numbered? (digits : List Char) : Option Char :=
  match Text.digits? 16 digits with
  | some n => if n.isValidChar then some (Char.ofNat n) else none
  | none => none

/-- A text up to its closing quotation mark, and what follows. -/
def quoted? : List Char → Option (List Char × List Char)
  | [] => none
  | '"' :: rest => some ([], rest)
  | '\\' :: 'u' :: a :: b :: c :: d :: rest => do
    let (text, rest) ← quoted? rest
    some ((← numbered? [a, b, c, d]) :: text, rest)
  | '\\' :: 'U' :: a :: b :: c :: d :: e :: f :: g :: h :: rest => do
    let (text, rest) ← quoted? rest
    some ((← numbered? [a, b, c, d, e, f, g, h]) :: text, rest)
  | '\\' :: c :: rest => do
    let (text, rest) ← quoted? rest
    some ((← escaped? c) :: text, rest)
  | c :: rest => do
    if (c.val < 0x20 && c != '\t') || c.val == 0x7F then none
    let (text, rest) ← quoted? rest
    some (c :: text, rest)

/-! ### Values -/

/-- A character of a key that is not quoted. -/
def isKeyChar (c : Char) : Bool := c.isAlphanum || c = '_' || c = '-'

def key? : List Char → Option (String × List Char)
  | '"' :: cs => (quoted? cs).map fun (text, rest) => (String.ofList text, rest)
  | cs =>
    match cs.takeWhile isKeyChar with
    | [] => none
    | key => some (String.ofList key, cs.dropWhile isKeyChar)

mutual

/-- A value, and what follows. Nothing at all is an empty text. `fuel` exceeds the length. -/
def value? : Nat → List Char → Option (Tree × List Char)
  | 0, _ => none
  | fuel + 1, cs => do
    let (t, rest) ← match skipGap cs with
      | '"' :: cs => do
        let (text, rest) ← quoted? cs
        some (.text (String.ofList text), rest)
      | '[' :: cs => do
        let (items, rest) ← items? fuel cs
        some (.list items, rest)
      | '\x7b' :: cs => do
        let (members, rest) ← members? fuel [] cs
        some (.map members, rest)
      | c :: cs =>
        if c.val = 0x27 then
          match cs with
          | inner :: close :: rest =>
            if close = c then some (.text (String.singleton inner), rest) else none
          | _ => none
        else
          some (word ((c :: cs).takeWhile fun c => !isMark c),
            (c :: cs).dropWhile fun c => !isMark c)
      | [] => some (.text "", [])
    some (t, skipGap rest)

/-- Items up to a closing bracket, and what follows. A comma may stand behind the last. -/
def items? : Nat → List Char → Option (List Tree × List Char)
  | 0, _ => none
  | fuel + 1, cs =>
    match cs with
    | ']' :: rest => some ([], rest)
    | cs => do
      let (t, rest) ← value? fuel cs
      match rest with
      | ',' :: rest =>
        let (items, rest) ← items? fuel rest
        some (t :: items, rest)
      | ']' :: rest => some ([t], rest)
      | _ => none

/-- Members up to a closing brace, and what follows. A comma may stand behind the last. -/
def members? : Nat → List (String × Tree) → List Char → Option (List (String × Tree) × List Char)
  | 0, _, _ => none
  | fuel + 1, before, cs =>
    match cs with
    | '\x7d' :: rest => some (before, rest)
    | cs => do
      let (key, rest) ← key? (skipGap cs)
      match skipGap rest with
      | '=' :: rest =>
        let (t, rest) ← value? fuel rest
        let members := Tree.insert key t before
        match rest with
        | ',' :: rest => members? fuel members rest
        | '\x7d' :: rest => some (members, rest)
        | _ => none
      | _ => none

end

/-- What the text of a variable stands for. -/
def value (s : String) : Tree :=
  match value? (2 * s.toList.length + 2) s.toList with
  | some (t, []) => t
  | _ => .text s

end LinkGauge.Environment
