import LinkGauge.Decimal.Reading
import LinkGauge.Document.Node
import LinkGauge.Text.Utf8
import LinkGauge.Word

/-!
# Scanning JSON

`Json.scan` takes any byte sequence to the document it spells, faults and all. It never fails: what
makes no sense ends the document with a flaw.
-/

namespace LinkGauge.Json

/-- Octets of a text, the form in which it is scanned. -/
abbrev Bytes := List UInt8

/-- The octets between values that mean nothing: space, tab, line feed and carriage return. -/
def isSpace (b : UInt8) : Bool :=
  b == 0x20 || b == 0x0A || b == 0x09 || b == 0x0D

def skipSpace (s : Bytes) : Bytes := s.dropWhile isSpace

def isDigit (b : UInt8) : Bool := 0x30 ≤ b && b ≤ 0x39

/-! ### Strings -/

def hexValue? (b : UInt8) : Option Nat :=
  if isDigit b then some (b.toNat - 0x30)
  else if 0x61 ≤ b ∧ b ≤ 0x66 then some (b.toNat - 0x57)
  else if 0x41 ≤ b ∧ b ≤ 0x46 then some (b.toNat - 0x37)
  else none

/-- The four digits of an escape with a code unit. -/
def hexUnit : Bytes → Except Fault (Nat × Bytes)
  | a :: b :: c :: d :: rest =>
    match hexValue? a, hexValue? b, hexValue? c, hexValue? d with
    | some a, some b, some c, some d => .ok (((a * 16 + b) * 16 + c) * 16 + d, rest)
    | _, _, _, _ => .error .badEscape
  | _ => .error .endInString

/-- The character of an escape with a single letter. -/
def simpleEscape? (b : UInt8) : Option Char :=
  if b == 0x22 then some '"'
  else if b == 0x5C then some '\\'
  else if b == 0x2F then some '/'
  else if b == 0x62 then some (Char.ofNat 8)
  else if b == 0x66 then some (Char.ofNat 12)
  else if b == 0x6E then some '\n'
  else if b == 0x72 then some '\r'
  else if b == 0x74 then some '\t'
  else none

/-- Pass over a string, from behind its opening quotation mark. The escapes are looked at, but
neither surrogates nor the encoding. -/
def skipString : Bytes → Except Fault Bytes
  | [] => .error .endInString
  | b :: rest =>
    if b == 0x22 then .ok rest
    else if b == 0x5C then
      match rest with
      | [] => .error .endInString
      | e :: rest' =>
        if e == 0x75 then
          match hexUnit rest' with
          | .error fault => .error fault
          | .ok _ =>
            match rest' with
            | _ :: _ :: _ :: _ :: rest'' => skipString rest''
            | _ => .error .endInString
        else if (simpleEscape? e).isSome then skipString rest'
        else .error .badEscape
    else if b < 0x20 then .error .controlCharacter
    else skipString rest

/-- The code point of an escape with a leading unit, which may take a second escape. -/
def codePoint (unit : Nat) (rest : Bytes) : Except Fault (Nat × Nat) :=
  if 0xDC00 ≤ unit ∧ unit ≤ 0xDFFF then .error .loneSurrogate
  else if unit < 0xD800 ∨ 0xDBFF < unit then .ok (unit, 0)
  else
    match rest with
    | [] => .error .endInString
    | b :: rest =>
      if b != 0x5C then .error .endOfHexEscape
      else
        match rest with
        | [] => .error .endInString
        | u :: rest =>
          if u != 0x75 then .error .endOfHexEscape
          else
            match hexUnit rest with
            | .error fault => .error fault
            | .ok (second, _) =>
              if second < 0xDC00 ∨ 0xDFFF < second then .error .loneSurrogate
              else .ok ((unit - 0xD800) * 0x400 + (second - 0xDC00) + 0x10000, 6)

/-- The octets that a string spells, from behind its opening quotation mark. `passed` counts
octets that belong to an escape already read. -/
def readString : (passed : Nat) → Bytes → Except Fault Bytes
  | _, [] => .error .endInString
  | passed + 1, _ :: rest => readString passed rest
  | 0, b :: rest =>
    if b == 0x22 then .ok []
    else if b == 0x5C then
      match rest with
      | [] => .error .endInString
      | e :: rest' =>
        if e == 0x75 then do
          let (unit, after) ← hexUnit rest'
          let (code, more) ← codePoint unit after
          let tail ← readString (5 + more) rest
          .ok (String.utf8EncodeChar (Char.ofNat code) ++ tail)
        else
          match simpleEscape? e with
          | some c => do
            let tail ← readString 1 rest
            .ok (String.utf8EncodeChar c ++ tail)
          | none => .error .badEscape
    else if b < 0x20 then .error .controlCharacter
    else (readString 0 rest).map (b :: ·)

/-- The text that a string spells, from behind its opening quotation mark. -/
def readText (s : Bytes) : Except Fault String :=
  match readString 0 s with
  | .error fault => .error fault
  | .ok bytes =>
    match Utf8.decode? bytes with
    | some spelled => .ok spelled
    | none => .error .badCodePoint

/-- A string from behind its opening quotation mark: what it spells, and the rest of the text. -/
def scanString (s : Bytes) : Except Flaw (Except Fault String × Bytes) :=
  match skipString s with
  | .ok rest => .ok (readText s, rest)
  | .error skip =>
    match readText s with
    | .error read => .error ⟨read, skip, read⟩
    | .ok _ => .error (Flaw.always skip)

/-! ### Numbers -/

/-- The number spelled by digits. -/
def digitsValue (ds : Bytes) : Nat :=
  ds.foldl (fun n b => n * 10 + (b.toNat - 0x30)) 0

/-- The flaw of a number that breaks off. At the end of the text a reader that wants the number
says so. -/
def numberFlaw (rest : Bytes) : Flaw :=
  match rest with
  | [] => ⟨.endInValue, .badNumber, .expectedValue⟩
  | _ :: _ => ⟨.badNumber, .badNumber, .expectedValue⟩

/-- An integer that fits 64 bits is kept as one; zero with a sign and all else are doubles. -/
def integerNode (negative : Bool) (n : Nat) : Node :=
  if !negative && n < Word.size64 then .number (.natural (UInt64.ofNat n))
  else if negative && n != 0 && n ≤ Word.half64 then .number (.negative (Int64.ofInt (-n)))
  else
    match Decimal.signed? negative n 0 with
    | some x => .number (.real x)
    | none => .beyond

/-- A number with a fraction or an exponent. -/
def realNode (negative : Bool) (n : Nat) (e : Int) : Node :=
  match Decimal.signed? negative n e with
  | some x => .number (.real x)
  | none => .beyond

/-- The exponent of a number, from behind the `e`. -/
def scanExponent (s : Bytes) : Except Flaw (Int × Bytes) :=
  let (negative, s) := match s with
    | b :: rest => if b == 0x2B then (false, rest) else if b == 0x2D then (true, rest) else (false, s)
    | [] => (false, s)
  let ds := s.takeWhile isDigit
  let rest := s.dropWhile isDigit
  if ds.isEmpty then .error (numberFlaw s)
  else
    let e : Int := digitsValue ds
    .ok (if negative then -e else e, rest)

/-- What follows the digits before the point. -/
def scanFraction (negative : Bool) (whole : Bytes) (s : Bytes) : Node × Bytes :=
  match s with
  | [] => (integerNode negative (digitsValue whole), [])
  | b :: rest =>
    if b == 0x2E then
      let ds := rest.takeWhile isDigit
      let rest' := rest.dropWhile isDigit
      if ds.isEmpty then (.broken (numberFlaw rest), rest)
      else
        let n := digitsValue (whole ++ ds)
        let places : Int := ds.length
        match rest' with
        | e :: rest'' =>
          if e == 0x65 || e == 0x45 then
            match scanExponent rest'' with
            | .ok (ex, after) => (realNode negative n (ex - places), after)
            | .error flaw => (.broken flaw, [])
          else (realNode negative n (-places), rest')
        | [] => (realNode negative n (-places), [])
    else if b == 0x65 || b == 0x45 then
      match scanExponent rest with
      | .ok (ex, after) => (realNode negative (digitsValue whole) ex, after)
      | .error flaw => (.broken flaw, [])
    else (integerNode negative (digitsValue whole), s)

/-- A number, from behind its sign. -/
def scanNumber (negative : Bool) (s : Bytes) : Node × Bytes :=
  match s with
  | [] => (.broken (numberFlaw []), [])
  | b :: rest =>
    if b == 0x30 then
      match rest with
      | d :: _ =>
        if isDigit d then (.broken (numberFlaw rest), rest)
        else scanFraction negative [b] rest
      | [] => scanFraction negative [b] rest
    else if isDigit b then
      scanFraction negative (s.takeWhile isDigit) (s.dropWhile isDigit)
    else (.broken (numberFlaw s), s)

/-! ### Literals -/

/-- The rest of a literal behind its first letter. -/
def scanLiteral (value : Node) : (letters : Bytes) → Bytes → Node × Bytes
  | [], s => (value, s)
  | _ :: _, [] => (.broken ⟨.endInValue, .endInValue, .expectedValue⟩, [])
  | l :: letters, b :: rest =>
    if l == b then scanLiteral value letters rest
    else (.broken ⟨.expectedLiteral, .expectedLiteral, .expectedValue⟩, rest)

/-- The letters of a literal behind its first one. -/
def afterFirst (s : String) : Bytes := (Utf8.encode s).drop 1

/-- A value that is neither a list nor an object, or why there is none. -/
def scanSimple (s : Bytes) : Node × Bytes :=
  match s with
  | [] => (.broken (Flaw.always .endInValue), [])
  | b :: rest =>
    if b == 0x22 then
      match scanString rest with
      | .ok (t, rest') => (.text t, rest')
      | .error flaw => (.broken flaw, [])
    else if b == 0x2D then scanNumber true rest
    else if isDigit b then scanNumber false s
    else if b == 0x6E then scanLiteral .null (afterFirst "null") rest
    else if b == 0x74 then scanLiteral (.bool true) (afterFirst "true") rest
    else if b == 0x66 then scanLiteral (.bool false) (afterFirst "false") rest
    else (.broken (Flaw.always .expectedValue), s)

/-! ### Lists and objects -/

/-- What stands where a key is due, for a reader that would take any value. -/
def keyFound (s : Bytes) : Except Fault Found :=
  match s with
  | b :: _ =>
    if b == 0x5B then .ok .sequence
    else if b == 0x7B then .ok .map
    else (scanSimple s).1.found
  | [] => .error .endInValue

/-- An ending where a key is due and something else stands. -/
def noKey (read skip close : Fault) (s : Bytes) : Ending :=
  .broken ⟨read, skip, read⟩ close (some (keyFound s))

/-- An ending without anything in the place of a key. -/
def breaksOff (read skip close : Fault) : Ending :=
  .broken ⟨read, skip, read⟩ close none

mutual

/-- A value. `depth` counts the lists and objects that may still be opened by a reader that wants
what is in them, `fuel` the calls. -/
def scanValue : (fuel depth : Nat) → Bytes → Node × Bytes
  | 0, _, _ => (.broken (Flaw.always .tooDeep), [])
  | fuel + 1, depth, s =>
    match skipSpace s with
    | [] => (.broken (Flaw.always .endInValue), [])
    | b :: rest =>
      if b == 0x5B then
        let (items, ending, rest') := scanItems fuel (depth - 1) true rest
        ((Node.list items ending).opened depth, rest')
      else if b == 0x7B then
        let (members, ending, rest') := scanMembers fuel (depth - 1) true rest
        ((Node.object members ending).opened depth, rest')
      else scanSimple (b :: rest)

/-- The items of a list from where one, or the end, is due. -/
def scanItems : (fuel depth : Nat) → (first : Bool) → Bytes → List Node × Ending × Bytes
  | 0, _, _, _ => ([], breaksOff .tooDeep .tooDeep .tooDeep, [])
  | fuel + 1, depth, first, s =>
    match skipSpace s with
    | [] => ([], breaksOff .endInList .endInList .endInList, [])
    | b :: rest =>
      if b == 0x5D then ([], .closed, rest)
      else if first then scanItem fuel depth (b :: rest)
      else if b == 0x2C then
        match skipSpace rest with
        | [] => ([], breaksOff .endInValue .endInValue .trailingCharacters, [])
        | c :: rest' =>
          if c == 0x5D then ([], breaksOff .trailingComma .expectedValue .trailingComma, [])
          else scanItem fuel depth (c :: rest')
      else
        ([], breaksOff .expectedListSeparator .expectedListSeparator .trailingCharacters, [])

/-- An item and those behind it. -/
def scanItem : (fuel depth : Nat) → Bytes → List Node × Ending × Bytes
  | 0, _, _ => ([], breaksOff .tooDeep .tooDeep .tooDeep, [])
  | fuel + 1, depth, s =>
    let (n, rest) := scanValue fuel depth s
    let (items, ending, rest') := scanItems fuel depth false rest
    (n :: items, ending, rest')

/-- The members of an object from where one, or the end, is due. -/
def scanMembers : (fuel depth : Nat) → (first : Bool) → Bytes →
    List (Except Fault String × Node) × Ending × Bytes
  | 0, _, _, _ => ([], breaksOff .tooDeep .tooDeep .tooDeep, [])
  | fuel + 1, depth, first, s =>
    match skipSpace s with
    | [] => ([], breaksOff .endInObject .endInObject .endInObject, [])
    | b :: rest =>
      if b == 0x7D then ([], .closed, rest)
      else if first then
        if b == 0x22 then scanMember fuel depth rest
        else ([], noKey .keyNotString .keyNotString .trailingCharacters (b :: rest), [])
      else if b == 0x2C then
        match skipSpace rest with
        | [] => ([], breaksOff .endInValue .endInObject .trailingComma, [])
        | c :: rest' =>
          if c == 0x22 then scanMember fuel depth rest'
          else if c == 0x7D then
            ([], breaksOff .trailingComma .keyNotString .trailingComma, [])
          else ([], noKey .keyNotString .keyNotString .trailingComma (c :: rest'), [])
      else
        ([], breaksOff .expectedObjectSeparator .expectedObjectSeparator .trailingCharacters, [])

/-- A member, from behind the quotation mark of its key, and those behind it. -/
def scanMember : (fuel depth : Nat) → Bytes →
    List (Except Fault String × Node) × Ending × Bytes
  | 0, _, _ => ([], breaksOff .tooDeep .tooDeep .tooDeep, [])
  | fuel + 1, depth, s =>
    match scanString s with
    | .error flaw => ([], .broken flaw flaw.read none, [])
    | .ok (key, rest) =>
      match skipSpace rest with
      | [] => ([(key, .broken (Flaw.always .endInObject))], .closed, [])
      | b :: rest' =>
        if b == 0x3A then
          let (n, after) := scanValue fuel depth rest'
          let (members, ending, after') := scanMembers fuel depth false after
          ((key, n) :: members, ending, after')
        else ([(key, .broken (Flaw.always .expectedColon))], .closed, [])

end

/-- A reader opens no more than so many lists and objects inside each other. What it passes over
may be nested deeper. -/
def maxDepth : Nat := 127

/-- A scanned text: the value, and whether anything but space follows it. -/
structure Scanned where
  root : Node
  trailing : Bool

/-- Scan a text. Each value takes at most three calls, and each call but the last consumes an
octet within two more. -/
def scan (s : Bytes) : Scanned :=
  let (root, rest) := scanValue (3 * s.length + 3) maxDepth s
  ⟨root, !(skipSpace rest).isEmpty⟩

end LinkGauge.Json
