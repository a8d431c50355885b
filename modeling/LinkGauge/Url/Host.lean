import LinkGauge.Text.Percent
import LinkGauge.Url.Domain

/-!
# Hosts in addresses

A host is a domain, an address of four octets or one of eight groups in brackets. Each has one
way of being written.
-/

namespace LinkGauge.Url

/-- Why a text is no address. -/
inductive Fault where
  | noScheme
  | emptyHost
  | badDomain
  | badPort
  | badIpv4
  | badIpv6
  | badHostCharacter
  | noBase
  deriving DecidableEq, Repr

def Fault.message : Fault → String
  | .noScheme => "relative URL without a base"
  | .emptyHost => "empty host"
  | .badDomain => "invalid international domain name"
  | .badPort => "invalid port number"
  | .badIpv4 => "invalid IPv4 address"
  | .badIpv6 => "invalid IPv6 address"
  | .badHostCharacter => "invalid domain character"
  | .noBase => "relative URL with a cannot-be-a-base base"

/-! ### Four octets -/

/-- The number that digits spell in a base. -/
def number? (base : Nat) (cs : List Char) : Option Nat :=
  cs.foldlM (fun n c => do
    let v ← Percent.hexValue? (UInt8.ofNat (min c.toNat 255))
    if v < base then some (n * base + v) else none) 0

/-- A part of an address of four octets: decimal, octal behind `0`, hexadecimal behind `0x`. -/
def ipv4Part? : List Char → Option Nat
  | [] => none
  | '0' :: 'x' :: rest | '0' :: 'X' :: rest => if rest = [] then some 0 else number? 16 rest
  | ['0'] => some 0
  | '0' :: rest => number? 8 rest
  | cs => number? 10 cs

/-- The labels of a domain. A dot at the end does not count. -/
def labels (cs : List Char) : List (List Char) :=
  let parts := cs.splitOn '.'
  if 1 < parts.length ∧ parts.getLast? = some [] then parts.dropLast else parts

/-- The last label is a number, so the host must be an address of four octets. -/
def endsInNumber (cs : List Char) : Bool :=
  match (labels cs).getLast? with
  | some last =>
    (!last.isEmpty && last.all Char.isDigit) ||
      ((last.take 2 == ['0', 'x'] || last.take 2 == ['0', 'X']) && (ipv4Part? last).isSome)
  | none => false

/-- The number of an address of four octets. The last part fills the octets that are left. -/
def ipv4Value? (parts : List Nat) : Option Nat :=
  match parts.reverse with
  | [] => none
  | last :: front =>
    if 3 < front.length ∨ front.any (255 < ·) ∨ Nat.pow 256 (4 - front.length) ≤ last then none
    else some (front.reverse.zipIdx.foldl (fun n (p, i) => n + p * Nat.pow 256 (3 - i)) last)

/-- The four octets of a number, as they are written. -/
def ipv4Text (n : Nat) : List Char :=
  let octets := [n / 16777216 % 256, n / 65536 % 256, n / 256 % 256, n % 256]
  ['.'].intercalate (octets.map (Nat.toDigits 10))

/-- Read an address of four octets. -/
def ipv4 (cs : List Char) : Except Fault (List Char) :=
  match (labels cs).mapM ipv4Part? with
  | some parts =>
    match ipv4Value? parts with
    | some n => .ok (ipv4Text n)
    | none => .error .badIpv4
  | none => .error .badIpv4

/-! ### Eight groups -/

/-- The groups that four octets stand for at the end of an address of eight groups. -/
def embeddedIpv4? (cs : List Char) : Option (List Nat) := do
  let octets ← (cs.splitOn '.').mapM fun part =>
    if part.isEmpty ∨ 3 < part.length ∨ (1 < part.length ∧ part.head? = some '0') then none
    else (number? 10 part).bind fun n => if n < 256 then some n else none
  match octets with
  | [a, b, c, d] => some [a * 256 + b, c * 256 + d]
  | _ => none

/-- A group of up to four hexadecimal digits. -/
def group? (cs : List Char) : Option Nat :=
  if cs.isEmpty ∨ 4 < cs.length then none else number? 16 cs

/-- Groups between colons; the last may be four octets. -/
def groups? (cs : List Char) : Option (List Nat) :=
  if cs.isEmpty then some []
  else
    let parts := cs.splitOn ':'
    match parts.getLast? with
    | some last =>
      if last.contains '.' then do
        let front ← parts.dropLast.mapM group?
        let tail ← embeddedIpv4? last
        some (front ++ tail)
      else parts.mapM group?
    | none => none

/-- What stands before and behind the first `::`. -/
def splitGap : List Char → Option (List Char × List Char)
  | [] => none
  | ':' :: ':' :: rest => some ([], rest)
  | c :: rest => (splitGap rest).map fun (front, back) => (c :: front, back)

/-- The eight groups of an address. -/
def ipv6Groups? (cs : List Char) : Option (List Nat) :=
  match splitGap cs with
  | some (front, back) => do
    let front ← if front.contains '.' then none else groups? front
    let back ← groups? back
    if 7 < front.length + back.length then none
    else some (front ++ List.replicate (8 - front.length - back.length) 0 ++ back)
  | none => do
    let gs ← groups? cs
    if gs.length = 8 then some gs else none

/-- How many groups from here on are zero. -/
def zeroRun (gs : List Nat) : Nat := (gs.takeWhile (· = 0)).length

/-- The first of the longest runs of at least two zero groups: its start and its length. -/
def longestRun (gs : List Nat) : Option (Nat × Nat) :=
  (List.range gs.length).foldl (fun best i =>
    let run := zeroRun (gs.drop i)
    match best with
    | some (_, length) => if length < run then some (i, run) else best
    | none => if 2 ≤ run then some (i, run) else none) none

/-- Eight groups as they are written, the longest run of zeros left out. -/
def ipv6Text (gs : List Nat) : List Char :=
  let hex (part : List Nat) := [':'].intercalate (part.map (Nat.toDigits 16))
  match longestRun gs with
  | some (start, length) => hex (gs.take start) ++ ':' :: ':' :: hex (gs.drop (start + length))
  | none => hex gs

/-! ### Hosts -/

/-- Characters that no host may have. -/
def forbiddenInHost (c : Char) : Bool :=
  c ∈ [Char.ofNat 0, '\t', '\n', '\r', ' ', '#', '/', ':', '<', '>', '?', '@', '[', '\\', ']', '^', '|']

/-- Characters that no domain may have. -/
def forbiddenInDomain (c : Char) : Bool :=
  forbiddenInHost c || c.val < 0x20 || c == '%' || c.val == 0x7F

/-- Read what stands between brackets. -/
def bracketed (cs : List Char) : Except Fault (List Char) :=
  match cs.reverse with
  | ']' :: inner =>
    match ipv6Groups? inner.reverse with
    | some gs => .ok ('[' :: (ipv6Text gs ++ [']']))
    | none => .error .badIpv6
  | _ => .error .badIpv6

/-- Read the host of an address whose scheme always has one. -/
def specialHost (cs : List Char) : Except Fault (List Char) :=
  match cs with
  | '[' :: rest => bracketed rest
  | _ =>
    match Utf8.decode? (Percent.decodeBytes (Utf8.encode (String.ofList cs))) with
    | none => .error .badDomain
    | some decoded =>
      match Domain.toAscii? decoded.toList with
      | none => .error .badDomain
      | some domain =>
        if domain.any forbiddenInDomain then .error .badDomain
        else if domain.isEmpty then .error .emptyHost
        else if endsInNumber domain then ipv4 domain
        else .ok domain

/-- Read the host of any other address. -/
def otherHost (cs : List Char) : Except Fault (List Char) :=
  match cs with
  | '[' :: rest => bracketed rest
  | _ =>
    if cs.any forbiddenInHost then .error .badHostCharacter
    else .ok (Percent.encode (fun c => c.val < 0x20 || c.val == 0x7F) cs)

end LinkGauge.Url
