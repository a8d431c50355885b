import LinkGauge.Yaml.Scalar

/-!
# Tokens of a YAML text

A text is cut into tokens from left to right. That a scalar is a key shows only when the colon
behind it is met; the token that says so, and one that opens a mapping, are then put in front of it.
Where the text goes wrong, the fault is the last token.
-/

namespace LinkGauge.Yaml

/-- A token. -/
inductive Token where
  | directive
  | documentStart
  | documentEnd
  | streamEnd
  | blockSequence
  | blockMapping
  /-- The end of a block sequence or mapping. -/
  | blockEnd
  | flowSequence
  | flowSequenceEnd
  | flowMapping
  | flowMappingEnd
  | blockEntry
  | flowEntry
  | key
  | value
  | alias (name : String)
  | anchor (name : String)
  | tag (name : String)
  | scalar (text : String) (isPlain : Bool)
  | broken (fault : Fault)

/-- Something that becomes a key if a colon follows. -/
structure Candidate where
  /-- Nothing else can stand here. -/
  required : Bool
  /-- How many tokens stand before it. -/
  position : Nat
  start : Place

/-- What is known while a text is cut into tokens. -/
structure Cutter where
  place : Place
  /-- The column of the innermost block, and those of the blocks around it. -/
  indent : Int
  outer : List Int
  /-- A key may begin here. -/
  keyAllowed : Bool
  /-- The candidate outside all brackets, and those inside, the innermost first. -/
  candidates : List (Option Candidate)
  tokens : List Token

namespace Cutter

/-- Inside brackets. -/
def inFlow (s : Cutter) : Bool := s.candidates.length > 1

/-- One more token at the end. -/
def push (s : Cutter) (t : Token) : Cutter := { s with tokens := s.tokens ++ [t] }

/-- A token in front of those from a position on. -/
def insert (s : Cutter) (position : Nat) (t : Token) : Cutter :=
  { s with tokens := s.tokens.take position ++ t :: s.tokens.drop position }

def advance (s : Cutter) (n : Nat) : Cutter := { s with place := s.place.advance n }

def allowKey (s : Cutter) (allowed : Bool) : Cutter := { s with keyAllowed := allowed }

/-- The innermost candidate. -/
def candidate? (s : Cutter) : Option Candidate := s.candidates.head?.join

def setCandidate (s : Cutter) (c : Option Candidate) : Cutter :=
  { s with candidates := c :: s.candidates.drop 1 }

/-- Nothing became of the innermost candidate. -/
def dropCandidate (s : Cutter) : Except Fault Cutter :=
  if s.candidate?.any (·.required) then .error .missingColon else .ok (s.setCandidate none)

/-- What begins here may become a key. -/
def addCandidate (s : Cutter) : Except Fault Cutter :=
  if s.keyAllowed then do
    let s ← s.dropCandidate
    .ok (s.setCandidate
      (some ⟨!s.inFlow && s.indent == s.place.column, s.tokens.length, s.place⟩))
  else .ok s

/-- Candidates on an earlier line, or too far away, become nothing. -/
def dropStale (s : Cutter) : Except Fault Cutter := do
  let candidates ← s.candidates.mapM fun
    | some c =>
      if c.start.line < s.place.line ∨ c.start.index + 1024 < s.place.index then
        if c.required then .error .missingColon else .ok none
      else .ok (some c)
    | none => .ok none
  .ok { s with candidates }

/-- Open a block in a column that is further in, with a token in front of those from a position
on. -/
def openBlock (s : Cutter) (column : Int) (position : Nat) (t : Token) : Cutter :=
  if !s.inFlow && s.indent < column then
    { s.insert position t with indent := column, outer := s.indent :: s.outer }
  else s

/-- Close the blocks that are further in than a column. -/
def closeBlocks (column : Int) : (outer : List Int) → Cutter → Cutter
  | outer, s =>
    if s.inFlow || s.indent ≤ column then s
    else
      match outer with
      | [] => s
      | before :: outer =>
        closeBlocks column outer { s.push .blockEnd with indent := before, outer }

/-- Go to the next token, past blanks, comments and line breaks. `fuel` is more than the length of
the text. -/
def skipBlanks : Nat → Cutter → Cutter
  | 0, s => s
  | fuel + 1, s =>
    let tabs := s.inFlow || !s.keyAllowed
    let blanks := s.place.rest.takeWhile fun c => c == ' ' || (tabs && c == '\t')
    let s := s.advance blanks.length
    let s :=
      if s.place.rest.head? = some '#' then
        s.advance (s.place.rest.takeWhile (· != '\n')).length
      else s
    if s.place.rest.head? = some '\n' then
      skipBlanks fuel { s.advance 1 with keyAllowed := s.keyAllowed || !s.inFlow }
    else s

/-! ### Kinds of tokens -/

def atEnd (s : Cutter) : Except Fault Cutter := do
  let s := closeBlocks (-1) s.outer s
  let s ← s.dropCandidate
  .ok (s.push .streamEnd)

/-- A token that stands between documents and takes so many characters. -/
def documentToken (s : Cutter) (t : Token) (length : Nat) : Except Fault Cutter := do
  let s := closeBlocks (-1) s.outer s
  let s ← s.dropCandidate
  .ok (((s.advance length).push t).allowKey false)

def openFlow (s : Cutter) (t : Token) : Except Fault Cutter := do
  let s ← s.addCandidate
  .ok (({ s with candidates := none :: s.candidates }.advance 1).push t |>.allowKey true)

def closeFlow (s : Cutter) (t : Token) : Except Fault Cutter := do
  let s ← s.dropCandidate
  let s := if s.inFlow then { s with candidates := s.candidates.drop 1 } else s
  .ok ((s.advance 1).push t |>.allowKey false)

/-- A comma between brackets. -/
def entryInFlow (s : Cutter) : Except Fault Cutter := do
  let s ← s.dropCandidate
  .ok ((s.advance 1).push .flowEntry |>.allowKey true)

/-- A dash in front of an item. -/
def entryInBlock (s : Cutter) : Except Fault Cutter := do
  if !s.inFlow && !s.keyAllowed then .error .entryNotAllowed
  else
    let s := s.openBlock s.place.column s.tokens.length .blockSequence
    let s ← s.dropCandidate
    .ok ((s.advance 1).push .blockEntry |>.allowKey true)

/-- A question mark in front of a key. -/
def explicitKey (s : Cutter) : Except Fault Cutter := do
  if !s.inFlow && !s.keyAllowed then .error .keyNotAllowed
  else
    let s := s.openBlock s.place.column s.tokens.length .blockMapping
    let s ← s.dropCandidate
    .ok ((s.advance 1).push .key |>.allowKey !s.inFlow)

/-- A colon in front of a value. -/
def valueMark (s : Cutter) : Except Fault Cutter :=
  match s.candidate? with
  | some c =>
    let s := s.insert c.position .key
    let s := s.openBlock c.start.column c.position .blockMapping
    .ok (((s.setCandidate none).advance 1).push .value |>.allowKey false)
  | none =>
    if !s.inFlow && !s.keyAllowed then .error .valueNotAllowed
    else
      let s := s.openBlock s.place.column s.tokens.length .blockMapping
      .ok ((s.advance 1).push .value |>.allowKey !s.inFlow)

/-- A character of an anchor's name. -/
def isNameChar (c : Char) : Bool := c.isAlphanum || c == '_' || c == '-'

/-- A name behind a mark. -/
def named (s : Cutter) (t : String → Token) (fault : Fault) : Except Fault Cutter := do
  let s ← s.addCandidate
  let name := (s.place.rest.drop 1).takeWhile isNameChar
  let next := (s.place.rest.drop (name.length + 1)).head?
  if name = [] ∨
      !(endsWord next || next.any (· ∈ ['?', ':', ',', ']', '\x7d', '%', '@', '`'])) then
    .error fault
  else .ok ((s.advance (name.length + 1)).push (t (String.ofList name)) |>.allowKey false)

/-- The name of a type behind a mark. -/
def tagged (s : Cutter) : Except Fault Cutter := do
  let s ← s.addCandidate
  let name := s.place.rest.takeWhile fun c => !endsWord (some c) && !(s.inFlow && c == ',')
  .ok ((s.advance name.length).push (.tag (String.ofList name)) |>.allowKey false)

def quoted (s : Cutter) (single : Bool) : Except Fault Cutter := do
  let s ← s.addCandidate
  let (text, place) ← quotedScalar single (s.place.advance 1)
  .ok ({ s with place }.push (.scalar text false) |>.allowKey false)

def block (s : Cutter) (literal : Bool) : Except Fault Cutter := do
  let s ← s.dropCandidate
  let (text, place) ← blockScalar literal s.indent (s.place.advance 1)
  .ok ({ s with place }.push (.scalar text false) |>.allowKey true)

def plainText (s : Cutter) : Except Fault Cutter := do
  let s ← s.addCandidate
  let (text, place, broken) ← plainScalar s.inFlow (s.indent + 1) s.place
  .ok ({ s with place }.push (.scalar text true) |>.allowKey broken)

/-- A plain scalar can begin so. -/
def beginsPlain (flow : Bool) (c : Char) (next : Option Char) : Bool :=
  if c = '-' then !next.any isBlank
  else if c = '?' ∨ c = ':' then !flow && !endsWord next
  else c ∉ [',', '[', ']', '\x7b', '\x7d', '#', '&', '*', '!', '|', '>', '"', '%', '@', '`'] &&
    c.val != 0x27 && !endsWord (some c)

/-- Cut off the next token. -/
def cut (s : Cutter) : Except Fault Cutter := do
  let s := skipBlanks (s.place.rest.length + 1) s
  let s ← s.dropStale
  let s := closeBlocks s.place.column s.outer s
  match s.place.rest with
  | [] => s.atEnd
  | c :: rest =>
    let next := rest.head?
    let start := s.place.column == 0
    if start && c == '%' then
      s.documentToken .directive (s.place.rest.takeWhile (· != '\n')).length
    else if start && isMark '-' s.place.rest then s.documentToken .documentStart 3
    else if start && isMark '.' s.place.rest then s.documentToken .documentEnd 3
    else if c = '[' then s.openFlow .flowSequence
    else if c = '\x7b' then s.openFlow .flowMapping
    else if c = ']' then s.closeFlow .flowSequenceEnd
    else if c = '\x7d' then s.closeFlow .flowMappingEnd
    else if c = ',' then s.entryInFlow
    else if c = '-' ∧ endsWord next then s.entryInBlock
    else if c = '?' ∧ (s.inFlow ∨ endsWord next) then s.explicitKey
    else if c = ':' ∧ (s.inFlow ∨ endsWord next) then s.valueMark
    else if c = '*' then s.named .alias .badAlias
    else if c = '&' then s.named .anchor .badAnchor
    else if c = '!' then s.tagged
    else if c = '|' ∧ !s.inFlow then s.block true
    else if c = '>' ∧ !s.inFlow then s.block false
    else if c.val == 0x27 then s.quoted true
    else if c = '"' then s.quoted false
    else if beginsPlain s.inFlow c next then s.plainText
    else .error .noToken

/-- Cut up the whole text. `fuel` is more than the number of tokens. -/
def cutAll : Nat → Cutter → List Token
  | 0, s => s.tokens
  | fuel + 1, s =>
    match s.cut with
    | .error fault => s.tokens ++ [.broken fault]
    | .ok s =>
      match s.tokens.getLast? with
      | some .streamEnd => s.tokens
      | _ => cutAll fuel s

end Cutter

/-! ### Texts -/

/-- The text with every line end a line feed. -/
def unifyLines : List Char → List Char
  | '\r' :: '\n' :: cs => '\n' :: unifyLines cs
  | '\r' :: cs => '\n' :: unifyLines cs
  | c :: cs => (if c.val = 0x85 then '\n' else c) :: unifyLines cs
  | [] => []

/-- A character that may stand in a text. -/
def isPrintable (c : Char) : Bool :=
  let v := c.val
  v = 9 || v = 10 || v = 13 || (0x20 ≤ v && v ≤ 0x7E) || v = 0x85 || (0xA0 ≤ v && v ≤ 0xD7FF) ||
    (0xE000 ≤ v && v ≤ 0xFFFD && v != 0xFEFF) || 0x10000 ≤ v

/-- The number of octets in front of the first character that may not stand in a text. -/
def controlOffset? : List Char → Nat → Option Nat
  | [], _ => none
  | c :: cs, offset =>
    if isPrintable c then controlOffset? cs (offset + c.utf8Size) else some offset

/-- The tokens of a text. -/
def tokens (s : String) : List Token :=
  let (cs, size) := match s.toList with
    | c :: rest => if c.val = 0xFEFF then (rest, 3) else (c :: rest, 0)
    | [] => ([], 0)
  match controlOffset? cs size with
  | some offset => [.broken (.controlCharacter offset)]
  | none =>
    let cs := unifyLines cs
    Cutter.cutAll (2 * cs.length + 2) ⟨⟨cs, 0, 0, 0⟩, -1, [], true, [none], []⟩

end LinkGauge.Yaml
