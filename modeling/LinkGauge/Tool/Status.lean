/-!
# Exit statuses

How a process ended: by itself with a code, or by a signal.
-/

namespace LinkGauge

/-- How a process ended. -/
inductive ExitStatus where
  | code (n : Nat)
  /-- Ended by a signal; `dumped` tells that the system kept its memory. -/
  | signal (n : Nat) (dumped : Bool)
  deriving DecidableEq, Repr

namespace ExitStatus

/-- The process did what it was to do. -/
def isSuccess (s : ExitStatus) : Bool := s == .code 0

/-- The names of the signals from number 1 on. -/
def signalNames : List String :=
  [ "HUP", "INT", "QUIT", "ILL", "TRAP", "ABRT", "BUS", "FPE", "KILL", "USR1", "SEGV", "USR2",
    "PIPE", "ALRM", "TERM", "STKFLT", "CHLD", "CONT", "STOP", "TSTP", "TTIN", "TTOU", "URG",
    "XCPU", "XFSZ", "VTALRM", "PROF", "WINCH", "IO", "PWR", "SYS" ]

/-- The name of a signal in brackets, if it has one. -/
def signalText (n : Nat) : String :=
  match n with
  | 0 => ""
  | n + 1 =>
    match signalNames[n]? with
    | some name => " (SIG" ++ name ++ ")"
    | none => ""

/-- The status in words. -/
def text : ExitStatus → String
  | .code n => "exit status: " ++ toString n
  | .signal n dumped =>
    "signal: " ++ toString n ++ signalText n ++ (if dumped then " (core dumped)" else "")

end ExitStatus

end LinkGauge
