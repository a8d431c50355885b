/-!
# Grammar of command lines

A command line is read level by level. A level has parameters, at most one operand, and commands
that open a further level. A parameter is given by its name behind two dashes or by its letter
behind one; its value stands behind an equals sign, behind the letter, or in the next argument.
Two dashes alone make operands of all that follows.
-/

namespace LinkGauge.CommandLine

/-- What a parameter is for. -/
inductive Role where
  | help
  | version
  | switch
  | value
  deriving DecidableEq, Repr

/-- A parameter, or an operand. -/
structure Parameter where
  name : String
  letter : Option Char
  role : Role
  /-- Which values there are. -/
  accepts : String → Bool

/-- Why a command line was not taken. -/
inductive Complaint where
  /-- Nothing is wrong, but help was asked for. -/
  | help
  /-- Nothing is wrong, but the version was asked for. -/
  | version
  | missingValue (parameter : String)
  | surplusValue (parameter : String)
  | badValue (parameter value : String)
  | repeated (parameter : String)
  | unknown (argument : String)
  | unknownCommand (name : String)
  | missingCommand
  deriving DecidableEq, Repr

/-- The status that a process ends with. -/
def Complaint.status : Complaint → Nat
  | .help | .version => 0
  | _ => 2

def Complaint.message : Complaint → String
  | .help => "help was asked for"
  | .version => "the version was asked for"
  | .missingValue p => "'" ++ p ++ "' needs a value"
  | .surplusValue p => "'" ++ p ++ "' takes no value"
  | .badValue p v => "'" ++ v ++ "' is no value of '" ++ p ++ "'"
  | .repeated p => "'" ++ p ++ "' is given more than once"
  | .unknown a => "unexpected argument '" ++ a ++ "'"
  | .unknownCommand name => "no command is called '" ++ name ++ "'"
  | .missingCommand => "a command is missing"

/-- A level of a command line, with commands of a type. -/
structure Level (κ : Type) where
  parameters : List Parameter
  operand : Option Parameter
  commands : List (String × κ)
  /-- Whether names behind a command lead to another one that help is there for. -/
  describes : κ → List String → Bool

/-! ### Progress -/

/-- What has been read of a level. -/
structure Progress where
  /-- Values that were taken, the last one first. -/
  given : List (String × String)
  /-- A parameter that is not taken yet, and its value if it has one by now. -/
  pending : Option (Parameter × Option String)
  /-- The operand has been met. -/
  operandMet : Bool
  /-- All that follows is an operand. -/
  literal : Bool

namespace Progress

def start : Progress := ⟨[], none, false, false⟩

/-- The next argument is a value. -/
def awaitsValue (s : Progress) : Bool :=
  match s.pending with
  | some (_, none) => !s.literal
  | _ => false

/-- Take a value of a parameter. There is only one. -/
def store (s : Progress) (p : Parameter) (value : String) : Except Complaint Progress :=
  if (s.given.lookup p.name).isSome then .error (.repeated p.name)
  else if p.accepts value then .ok { s with given := (p.name, value) :: s.given }
  else .error (.badValue p.name value)

/-- Take what is pending. -/
def settle (s : Progress) : Except Complaint Progress :=
  match s.pending with
  | none => .ok s
  | some (p, none) => .error (.missingValue p.name)
  | some (p, some value) => { s with pending := none }.store p value

/-- Take a parameter with its value. -/
def give (s : Progress) (p : Parameter) (value : String) : Except Complaint Progress := do
  (← s.settle).store p value

/-- Meet a parameter whose value is still to come. -/
def await (s : Progress) (p : Parameter) (value : Option String) : Except Complaint Progress := do
  .ok { ← s.settle with pending := some (p, value) }

/-- Take a parameter that has no value. -/
def note (s : Progress) (p : Parameter) : Except Complaint Progress := do
  let s ← s.settle
  match p.role with
  | .help => .error .help
  | .version => .error .version
  | .switch | .value => s.store p ""

/-- Read a parameter given by its name. -/
def takeNamed (ps : List Parameter) (s : Progress) (body : List Char) :
    Except Complaint Progress :=
  let name := String.ofList (body.takeWhile (· ≠ '='))
  match ps.find? (·.name == name), body.dropWhile (· ≠ '=') with
  | none, _ => .error (.unknown ("--" ++ name))
  | some p, [] => if p.role = .value then s.await p none else s.note p
  | some p, _ :: value =>
    if p.role = .value then s.give p (String.ofList value) else .error (.surplusValue name)

/-- Read parameters given by their letters. The first with a value takes what is left for it. -/
def takeLetters (ps : List Parameter) (s : Progress) : List Char → Except Complaint Progress
  | [] => .ok s
  | c :: rest =>
    match ps.find? (·.letter == some c) with
    | none => .error (.unknown (String.ofList ['-', c]))
    | some p =>
      if p.role = .value then
        match rest with
        | [] => s.await p none
        | '=' :: value => s.give p (String.ofList value)
        | value => s.give p (String.ofList value)
      else do takeLetters ps (← s.note p) rest

end Progress

/-! ### Levels -/

namespace Level

variable {κ : Type}

/-- An argument is the name of a command. Where there are commands, `help` is one. -/
def hasCommand (l : Level κ) (arg : String) : Bool :=
  (l.commands.lookup arg).isSome || (!l.commands.isEmpty && arg == "help")

/-- Names lead to something that help is there for. -/
def explains (l : Level κ) : List String → Bool
  | [] => true
  | name :: rest =>
    match l.commands.lookup name with
    | some k => l.describes k rest
    | none => l.hasCommand name && rest.isEmpty

def takeOperand (l : Level κ) (s : Progress) (arg : String) : Except Complaint Progress :=
  match l.operand, s.operandMet with
  | some p, false => do .ok { ← s.await p (some arg) with operandMet := true }
  | some _, true => .error (.unknown arg)
  | none, _ =>
    if l.commands.isEmpty || (s.literal && l.hasCommand arg) then .error (.unknown arg)
    else .error (.unknownCommand arg)

/-- Read an argument that is not the name of a command. -/
def take (l : Level κ) (s : Progress) (arg : String) : Except Complaint Progress :=
  if s.literal then l.takeOperand s arg
  else
    match arg.toList with
    | ['-', '-'] => .ok { s with literal := true }
    | '-' :: '-' :: body => s.takeNamed l.parameters body
    | '-' :: c :: rest => s.takeLetters l.parameters (c :: rest)
    | _ =>
      match s.pending with
      | some (p, none) => .ok { s with pending := some (p, some arg) }
      | _ => l.takeOperand s arg

/-- Read arguments up to a command, which is returned with the arguments behind it. What is
pending then has yet to be settled. -/
def scan (l : Level κ) : Progress → List String →
    Except Complaint (Progress × Option (κ × List String))
  | s, [] => .ok (s, none)
  | s, arg :: rest =>
    if !s.literal && !s.awaitsValue && l.hasCommand arg then
      match l.commands.lookup arg with
      | some k => .ok (s, some (k, rest))
      | none => .error (if l.explains rest then .help else .unknownCommand "help")
    else do l.scan (← l.take s arg) rest

/-- Read the arguments of a level without commands. -/
def values (l : Level Empty) (args : List String) :
    Except Complaint (List (String × String)) := do
  let (s, _) ← l.scan .start args
  let s ← s.settle
  .ok s.given

end Level

end LinkGauge.CommandLine
