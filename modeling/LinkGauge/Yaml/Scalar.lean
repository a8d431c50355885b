import LinkGauge.Yaml.Fault

/-!
# Scalars of a YAML text

Scalars may go on over several lines. Blanks around a line break do not count, a single line break
stands for a space, and of several the first does not count.
-/

namespace LinkGauge.Yaml

/-- A place in a text: what follows, and where in the text it is. Line ends are line feeds. -/
structure Place where
  rest : List Char
  index : Nat
  line : Nat
  column : Nat

namespace Place

/-- The place after so many characters. -/
def advance (p : Place) : Nat → Place
  | 0 => p
  | n + 1 =>
    match p.rest with
    | [] => p
    | c :: rest =>
      advance
        (if c = '\n' then ⟨rest, p.index + 1, p.line + 1, 0⟩
          else ⟨rest, p.index + 1, p.line, p.column + 1⟩) n

end Place

def isBlank (c : Char) : Bool := c == ' ' || c == '\t'

/-- A blank, the end of a line, or the end of the text. -/
def endsWord : Option Char → Bool
  | none => true
  | some c => isBlank c || c == '\n'

/-- Three marks in front of a blank. -/
def isMark (c : Char) (cs : List Char) : Bool :=
  cs.take 3 == [c, c, c] && endsWord (cs.drop 3).head?

/-- The beginning or the end of a document stands here. -/
def Place.atMark (p : Place) : Bool :=
  p.column == 0 && (isMark '-' p.rest || isMark '.' p.rest)

/-- What lies between two words of a scalar. -/
inductive Gap where
  /-- Blanks, in reverse. -/
  | blanks (cs : List Char)
  /-- Line breaks, at least one. -/
  | breaks (n : Nat)
  /-- Line breaks behind one that was escaped. -/
  | escaped (n : Nat)

namespace Gap

/-- What a gap stands for, in reverse. -/
def chars : Gap → List Char
  | .blanks cs => cs
  | .breaks n => if n = 1 then [' '] else List.replicate (n - 1) '\n'
  | .escaped n => List.replicate n '\n'

/-- The gap goes on over a line break. -/
def isBroken : Gap → Bool
  | .blanks _ => false
  | _ => true

/-- The gap with one more blank. -/
def blank (c : Char) : Gap → Gap
  | .blanks cs => .blanks (c :: cs)
  | g => g

/-- The gap with one more line break. -/
def newLine : Gap → Gap
  | .blanks _ => .breaks 1
  | .breaks n => .breaks (n + 1)
  | .escaped n => .escaped (n + 1)

/-- Go along blanks and line breaks. `refused` tells in which column a tab may not stand behind a
line break. The number is that of the characters taken. -/
def scan (refused : Nat → Bool) : List Char → Nat → Gap → Nat → Except Fault (Gap × Nat)
  | ' ' :: cs, column, g, taken => scan refused cs (column + 1) (g.blank ' ') (taken + 1)
  | '\t' :: cs, column, g, taken =>
    if g.isBroken && refused column then .error .tabInPlain
    else scan refused cs (column + 1) (g.blank '\t') (taken + 1)
  | '\n' :: cs, _, g, taken => scan refused cs 0 g.newLine (taken + 1)
  | _, _, g, taken => .ok (g, taken)

end Gap

/-! ### Plain scalars -/

/-- The word of a plain scalar that begins here. Inside brackets, brackets and commas end it. -/
def plainWord (flow : Bool) : List Char → Except Fault (List Char)
  | [] => .ok []
  | c :: rest =>
    if endsWord (some c) then .ok []
    else if flow && c == ':' && rest.head?.any (· ∈ [',', '?', '[', ']', '\x7b', '\x7d']) then
      .error .unexpectedColon
    else if c == ':' && endsWord rest.head? then .ok []
    else if flow && c ∈ [',', '[', ']', '\x7b', '\x7d'] then .ok []
    else (plainWord flow rest).map (c :: ·)

/-- The words of a plain scalar from here on, in reverse, the place behind them, and the gap there.
Outside brackets a line must not begin before the column `indent`. `fuel` is more than the length
of the text. -/
def plainWords (flow : Bool) (indent : Int) : Nat → Place → Gap → List Char →
    Except Fault (List Char × Place × Gap)
  | 0, p, g, done => .ok (done, p, g)
  | fuel + 1, p, g, done => do
    if p.atMark || p.rest.head? == some '#' then .ok (done, p, g)
    else
      let word ← plainWord flow p.rest
      let p := p.advance word.length
      let (done, g) :=
        if word = [] then (done, g) else (word.reverse ++ (g.chars ++ done), .blanks [])
      if !endsWord p.rest.head? || p.rest = [] then .ok (done, p, g)
      else
        let (g, taken) ← g.scan (fun column => (column : Int) < indent) p.rest p.column 0
        let p := p.advance taken
        if !flow && (p.column : Int) < indent then .ok (done, p, g)
        else plainWords flow indent fuel p g done

/-- A plain scalar, the place behind it, and whether that is on another line. -/
def plainScalar (flow : Bool) (indent : Int) (p : Place) : Except Fault (String × Place × Bool) := do
  let (done, p, g) ← plainWords flow indent (p.rest.length + 1) p (.blanks []) []
  .ok (String.ofList done.reverse, p, g.isBroken)

/-! ### Quoted scalars -/

/-- How a word between quotation marks ends. -/
inductive WordEnd where
  | blank
  | closed
  /-- Before an escaped line break. -/
  | escaped

/-- The character of a hexadecimal escape with so many digits. -/
def hexEscape (n : Nat) (cs : List Char) : Except Fault Char :=
  let value (c : Char) : Option Nat :=
    if c.isDigit then some (c.toNat - 48)
    else if 'a' ≤ c ∧ c ≤ 'f' then some (c.toNat - 87)
    else if 'A' ≤ c ∧ c ≤ 'F' then some (c.toNat - 55)
    else none
  let digits := cs.take n
  match digits.foldlM (fun m c => (value c).map (m * 16 + ·)) 0 with
  | some m =>
    if digits.length < n then .error .badHexEscape
    else if m.isValidChar then .ok (Char.ofNat m)
    else .error .badCodePoint
  | none => .error .badHexEscape

/-- The character of an escape, and how many characters it takes behind the backslash. -/
def escape : List Char → Except Fault (Char × Nat)
  | [] => .error .unknownEscape
  | c :: rest =>
    let simple : List (Char × Nat) :=
      [ ('0', 0), ('a', 7), ('b', 8), ('t', 9), ('\t', 9), ('n', 10), ('v', 11), ('f', 12),
        ('r', 13), ('e', 27), (' ', 32), ('"', 34), ('/', 47), ('\\', 92), ('N', 0x85),
        ('_', 0xA0), ('L', 0x2028), ('P', 0x2029) ]
    match simple.lookup c with
    | some n => .ok (Char.ofNat n, 1)
    | none =>
      if c = 'x' then (hexEscape 2 rest).map (·, 3)
      else if c = 'u' then (hexEscape 4 rest).map (·, 5)
      else if c = 'U' then (hexEscape 8 rest).map (·, 9)
      else .error .unknownEscape

/-- A word between quotation marks: its characters, how many characters it takes, and its end.
`fuel` is more than the length of the text. -/
def quotedWord (single : Bool) : Nat → List Char → Except Fault (List Char × Nat × WordEnd)
  | 0, _ => .ok ([], 0, .blank)
  | fuel + 1, cs =>
    let more (c : Char) (taken : Nat) (rest : List Char) :=
      (quotedWord single fuel rest).map fun (word, n, ending) => (c :: word, n + taken, ending)
    match cs with
    | [] => .ok ([], 0, .blank)
    | c :: rest =>
      if endsWord (some c) then .ok ([], 0, .blank)
      else if single then
        if c.val == 0x27 then
          match rest with
          | d :: rest' => if d.val == 0x27 then more d 2 rest' else .ok ([], 1, .closed)
          | [] => .ok ([], 1, .closed)
        else more c 1 rest
      else if c = '"' then .ok ([], 1, .closed)
      else if c = '\\' then
        if rest.head? = some '\n' then .ok ([], 2, .escaped)
        else do
          let (d, n) ← escape rest
          more d (n + 1) (rest.drop n)
      else more c 1 rest

/-- The words up to the closing quotation mark, in reverse, and the place behind it. `fuel` is more
than the length of the text. -/
def quotedWords (single : Bool) : Nat → Place → List Char → Except Fault (List Char × Place)
  | 0, p, done => .ok (done, p)
  | fuel + 1, p, done => do
    if p.atMark then .error .markInQuotes
    else if p.rest = [] then .error .endInQuotes
    else
      let (word, taken, ending) ← quotedWord single (p.rest.length + 1) p.rest
      let done := word.reverse ++ done
      let p := p.advance taken
      match ending with
      | .closed => .ok (done, p)
      | ending =>
        let g : Gap := match ending with
          | .escaped => .escaped 0
          | _ => .blanks []
        let (g, taken) ← g.scan (fun _ => false) p.rest p.column 0
        quotedWords single fuel (p.advance taken) (g.chars ++ done)

/-- A quoted scalar, from behind its opening mark. -/
def quotedScalar (single : Bool) (p : Place) : Except Fault (String × Place) := do
  let (done, p) ← quotedWords single (p.rest.length + 1) p []
  .ok (String.ofList done.reverse, p)

/-! ### Block scalars -/

/-- What becomes of the line breaks at the end of a block scalar. -/
inductive Chomping where
  | strip
  | clip
  | keep

/-- The header of a block scalar behind its mark: what becomes of the last line breaks, an
indentation if one is given, and how many characters that takes. -/
def blockHeader (cs : List Char) : Except Fault (Chomping × Option Nat × Nat) :=
  let chomping? (c : Char) : Option Chomping :=
    if c = '+' then some .keep else if c = '-' then some .strip else none
  let indent (c : Char) : Except Fault Nat :=
    if c = '0' then .error .zeroIndent else .ok (c.toNat - 48)
  match cs with
  | c :: rest =>
    match chomping? c with
    | some chomping =>
      match rest with
      | d :: _ =>
        if d.isDigit then (indent d).map fun n => (chomping, some n, 2)
        else .ok (chomping, none, 1)
      | [] => .ok (chomping, none, 1)
    | none =>
      if c.isDigit then do
        let n ← indent c
        match rest.head?.bind chomping? with
        | some chomping => .ok (chomping, some n, 2)
        | none => .ok (.clip, some n, 1)
      else .ok (.clip, none, 0)
  | [] => .ok (.clip, none, 0)

/-- Go along empty lines and the indentation of the next one. An indentation of zero is not known
yet. The result is the number of line breaks, the deepest column, and how many characters were
taken. -/
def blockBreaks (indent : Nat) : List Char → (column deepest breaks taken : Nat) →
    Except Fault (Nat × Nat × Nat)
  | c :: cs, column, deepest, breaks, taken =>
    if c = '\n' then blockBreaks indent cs 0 (max deepest column) (breaks + 1) (taken + 1)
    else if indent = 0 ∨ column < indent then
      if c = ' ' then blockBreaks indent cs (column + 1) deepest breaks (taken + 1)
      else if c = '\t' then .error .tabInBlock
      else .ok (breaks, max deepest column, taken)
    else .ok (breaks, max deepest column, taken)
  | [], column, deepest, breaks, taken => .ok (breaks, max deepest column, taken)

/-- What is known while the lines of a block scalar are read. -/
structure BlockLines where
  place : Place
  /-- What was read, in reverse. -/
  done : List Char
  /-- A line break was met that is not yet part of the scalar. -/
  pending : Bool
  /-- So many empty lines followed it. -/
  breaks : Nat
  /-- The line before began with a blank. -/
  blankStart : Bool

/-- Read the lines of a block scalar that are indented as far as they must be. `fuel` is more than
the length of the text. -/
def blockLines (literal : Bool) (indent : Nat) : Nat → BlockLines → Except Fault BlockLines
  | 0, s => .ok s
  | fuel + 1, s => do
    if s.place.column ≠ indent ∨ s.place.rest = [] then .ok s
    else
      let blankStart := s.place.rest.head?.any isBlank
      let joined :=
        if !literal && s.pending && !s.blankStart && !blankStart then
          if s.breaks = 0 then [' '] else []
        else if s.pending then ['\n'] else []
      let line := s.place.rest.takeWhile (· != '\n')
      let p := s.place.advance line.length
      let pending := p.rest ≠ []
      let p := p.advance 1
      let (breaks, _, taken) ← blockBreaks indent p.rest p.column 0 0 0
      blockLines literal indent fuel
        { place := p.advance taken
          done := line.reverse ++ (List.replicate s.breaks '\n' ++ (joined ++ s.done))
          pending, breaks, blankStart }

/-- A block scalar, from behind its mark, inside a block with the indentation `outer`. -/
def blockScalar (literal : Bool) (outer : Int) (p : Place) : Except Fault (String × Place) := do
  let (chomping, given, taken) ← blockHeader p.rest
  let p := p.advance taken
  let p := p.advance (p.rest.takeWhile isBlank).length
  let p :=
    if p.rest.head? = some '#' then p.advance (p.rest.takeWhile (· != '\n')).length else p
  if p.rest.head?.any (· != '\n') then .error .blockHeader
  else
    let p := p.advance 1
    let known := given.map fun n => ((max outer 0) + n).toNat
    let (breaks, deepest, taken) ← blockBreaks (known.getD 0) p.rest p.column 0 0 0
    let indent := known.getD (max (max deepest (outer + 1).toNat) 1)
    let s ← blockLines literal indent (p.rest.length + 1) ⟨p.advance taken, [], false, breaks, false⟩
    let done := match chomping with
      | .strip => s.done
      | .clip => if s.pending then '\n' :: s.done else s.done
      | .keep =>
        List.replicate s.breaks '\n' ++ (if s.pending then '\n' :: s.done else s.done)
    .ok (String.ofList done.reverse, s.place)

end LinkGauge.Yaml
