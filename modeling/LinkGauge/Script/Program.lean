import LinkGauge.Decimal.Reading
import LinkGauge.Json.Scan
import LinkGauge.Text.Digit
import LinkGauge.Text.Utf8

/-!
# Programs of scripts

The programs that scripts are made of: they write, copy, change and count octets, and wait.
-/

namespace LinkGauge.Script

open Json (Bytes)

/-- What a program does: first it writes, then time goes by, then it ends. -/
structure Effect where
  output : Bytes
  errors : Bytes
  /-- How long it takes, in microseconds. -/
  micros : Nat
  status : Nat

/-- A time, in microseconds, that is never reached. -/
def never : Nat := 1000000000000000

namespace Effect

def ends (status : Nat) : Effect := ⟨[], [], 0, status⟩

def writes (output : Bytes) : Effect := ⟨output, [], 0, 0⟩

def complains (message : String) (status : Nat) : Effect := ⟨[], Utf8.encode message, 0, status⟩

def waits (micros : Nat) : Effect := ⟨[], [], micros, 0⟩

end Effect

/-! ### Escapes and formats -/

def octets (c : Char) : Bytes := Utf8.encode (String.singleton c)

/-- The number that octal digits spell, and how many of them there are. At most three count. -/
def octal (cs : List Char) : Nat × Nat :=
  let ds := (cs.take 3).takeWhile fun c => '0' ≤ c && c ≤ '7'
  (ds.foldl (fun n c => n * 8 + (c.toNat - 48)) 0, ds.length)

/-- What a letter behind a backslash stands for. -/
def escape? : Char → Option UInt8
  | 'a' => some 7
  | 'b' => some 8
  | 't' => some 9
  | 'n' => some 10
  | 'v' => some 11
  | 'f' => some 12
  | 'r' => some 13
  | '\\' => some 92
  | _ => none

/-- A text with its escapes resolved. With `padded`, octal digits stand behind a zero. The escape
`\c` ends the text. `fuel` is the length. -/
def escapes (padded : Bool) : Nat → List Char → Bytes
  | 0, _ | _, [] => []
  | fuel + 1, '\\' :: c :: rest =>
    match escape? c with
    | some b => b :: escapes padded fuel rest
    | none =>
      if c = 'c' then []
      else
        let digits := if padded && c = '0' then rest else c :: rest
        match octal digits with
        | (_, 0) =>
          if padded && c = '0' then 0 :: escapes padded fuel rest
          else 92 :: escapes padded fuel (c :: rest)
        | (v, n) => UInt8.ofNat v :: escapes padded fuel (digits.drop n)
  | fuel + 1, c :: rest => octets c ++ escapes padded fuel rest

/-- What `echo` writes of its words. -/
def echoed (resolve : Bool) (words : List String) : Bytes :=
  let text := (String.intercalate " " words).toList
  if resolve then escapes true text.length text else Utf8.encode (String.ofList text)

/-- A format once through, with the arguments that are left. -/
def formatted : Nat → List Char → List String → Bytes × List String
  | 0, _, args | _, [], args => ([], args)
  | fuel + 1, '%' :: c :: rest, args =>
    let (part, args) : Bytes × List String :=
      if c = 's' then (Utf8.encode (args.headD ""), args.drop 1)
      else if c = 'd' then (Utf8.encode (args.headD "0"), args.drop 1)
      else if c = 'b' then
        let text := (args.headD "").toList
        (escapes true text.length text, args.drop 1)
      else if c = '%' then ([37], args)
      else (37 :: octets c, args)
    let (others, args) := formatted fuel rest args
    (part ++ others, args)
  | fuel + 1, '\\' :: c :: rest, args =>
    let n := max 1 (octal (c :: rest)).2
    let (others, args) := formatted fuel ((c :: rest).drop n) args
    (escapes false (n + 1) ('\\' :: (c :: rest).take n) ++ others, args)
  | fuel + 1, c :: rest, args =>
    let (others, args) := formatted fuel rest args
    (octets c ++ others, args)

/-- What `printf` writes: the format as often as it takes to use up the arguments. -/
def printed (format : List Char) : Nat → List String → Bytes
  | 0, _ => []
  | fuel + 1, args =>
    let (out, left) := formatted (format.length + 1) format args
    if left.isEmpty || left.length = args.length then out else out ++ printed format fuel left

/-! ### Other parts -/

/-- Seconds with or without a fraction, in microseconds. -/
def micros (s : String) : Nat :=
  if s = "infinity" then never
  else
    match Decimal.literal? (s.toList.filter (· ≠ 's')) with
    | some l =>
      Decimal.natOfDigits l.whole * 1000000 +
        Decimal.natOfDigits ((l.fraction ++ List.replicate 6 '0').take 6)
    | none => 0

/-- The octets of a set, in which two with a dash between them stand for all from one to the
other. -/
def range : Bytes → Bytes
  | a :: 45 :: b :: rest =>
    ((List.range (b.toNat + 1 - a.toNat)).map fun i => a + UInt8.ofNat i) ++ range rest
  | a :: rest => a :: range rest
  | [] => []

/-- The octets of a written set. -/
def octetSet (s : String) : Bytes := range (escapes false s.toList.length s.toList)

/-- An octet, or what stands at its place in another set. The last one stands for all further
places. -/
def replaced (old new : Bytes) (b : UInt8) : UInt8 :=
  if old.contains b then (new[old.idxOf b]?.or new.getLast?).getD b else b

/-- What a file holds, as far as `limit`. -/
def contents? (input : Bytes) (limit : Nat) : String → Option Bytes
  | "-" => some input
  | "/dev/null" => some []
  | "/dev/zero" => some (List.replicate limit 0)
  | _ => none

/-- The complaint about a file that is not there. -/
def missingFile (program file : String) : Effect :=
  .complains (program ++ ": " ++ file ++ ": No such file or directory\n") 1

/-- What a program writes that copies files. -/
def copied (input : Bytes) (files : List String) : Effect :=
  if files.contains "/dev/zero" then .waits never
  else
    match files.find? fun f => (contents? input 0 f).isNone with
    | some file => missingFile "cat" file
    | none => .writes (files.filterMap (contents? input 0)).flatten

/-- Numbers line by line. -/
def counted (low high : Nat) : Bytes :=
  Utf8.encode (String.join ((List.range (high + 1 - low)).map fun i => toString (low + i) ++ "\n"))

/-- The name of a program without the folder it lies in. -/
def baseName (program : String) : String :=
  ((program.toList.splitOn '/').getLast?.map String.ofList).getD program

/-! ### Programs -/

/-- What a program does with its arguments and its input. In a shell, `echo` resolves escapes. With
`piped`, another program reads what is written, which ends what would go on for ever. -/
def program? (inShell piped : Bool) (input : Bytes) (name : String) (args : List String) :
    Option Effect :=
  match baseName name with
  | "true" | ":" => some (.ends 0)
  | "false" => some (.ends 1)
  | "echo" =>
    match args with
    | "-n" :: words => some (.writes (echoed inShell words))
    | words => some (.writes (echoed inShell words ++ [10]))
  | "printf" =>
    match args with
    | format :: args => some (.writes (printed format.toList (args.length + 1) args))
    | [] => some (.complains "printf: usage: printf format [arg ...]\n" 2)
  | "sleep" => some (.waits ((args.map micros).foldl (· + ·) 0))
  | "cat" => some (copied input (if args.isEmpty then ["-"] else args))
  | "head" =>
    match args with
    | "-c" :: n :: files =>
      let limit := n.toNat?.getD 0
      match contents? input limit (files.headD "-") with
      | some found => some (.writes (found.take limit))
      | none => some (missingFile "head" (files.headD "-"))
    | "-n" :: n :: _ =>
      let lines := ((Utf8.decodeLossy input).splitOn "\n").take (n.toNat?.getD 0)
      some (.writes (Utf8.encode (String.join (lines.map (· ++ "\n")))))
    | _ => some (.writes input)
  | "tr" =>
    match args with
    | ["-d", set] => some (.writes (input.filter fun b => !(octetSet set).contains b))
    | [old, new] =>
      let old := octetSet old
      let new := octetSet new
      some (.writes (input.map (replaced old new)))
    | _ => some (.complains "tr: missing operand\n" 1)
  | "seq" =>
    match args.filterMap String.toNat? with
    | [high] => some (.writes (counted 1 high))
    | [low, high] => some (.writes (counted low high))
    | _ => some (.ends 1)
  | "wc" => some (.writes (Utf8.encode (toString input.length ++ "\n")))
  | "yes" =>
    let line := Utf8.encode (String.intercalate " " (if args.isEmpty then ["y"] else args) ++ "\n")
    some (if piped then .writes (List.replicate 200000 line).flatten else .waits never)
  | _ => none

end LinkGauge.Script
