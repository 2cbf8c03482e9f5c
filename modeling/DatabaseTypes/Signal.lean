import DatabaseTypes.Text.Basic

/-!
# Signals

A program can be ended by a signal.

* `Signal.names`      the names of the signals from the first on
* `Signal.phrase`     what is told about a program that a signal has ended
* `Signal.commonName`, `Signal.ofCommonName?`   the names that shells know
* `Signal.isHarmless`, `Signal.isStop`   what a signal does by itself
* `Signal.ending`     the end by a signal in words
-/

namespace DatabaseTypes.Signal

/-- the names of the signals from the first on -/
def names : List Text := [
  "HUP", "INT", "QUIT", "ILL", "TRAP", "ABRT", "BUS", "FPE", "KILL", "USR1", "SEGV", "USR2", "PIPE",
  "ALRM", "TERM", "STKFLT", "CHLD", "CONT", "STOP", "TSTP", "TTIN", "TTOU", "URG", "XCPU", "XFSZ",
  "VTALRM", "PROF", "WINCH", "IO", "PWR", "SYS"]

/-- what is told about a program that a signal has ended, for the signals from the first on; nothing
is told about an interruption and about an output that nobody reads -/
def phrases : List Text := [
  "Hangup", [], "Quit", "Illegal instruction", "Trace/breakpoint trap", "Aborted", "Bus error",
  "Floating point exception", "Killed", "User defined signal 1", "Segmentation fault",
  "User defined signal 2", [], "Alarm clock", "Terminated", "Stack fault", "Child exited", "Continued",
  "Stopped (signal)", "Stopped", "Stopped (tty input)", "Stopped (tty output)",
  "Urgent I/O condition", "CPU time limit exceeded", "File size limit exceeded",
  "Virtual timer expired", "Profiling timer expired", "Window changed", "I/O possible",
  "Power failure", "Bad system call"]

/-- what is told about a program that a signal has ended -/
def phrase (n : Nat) : Text :=
  if n = 0 then []
  else (phrases[n - 1]?).getD ("Real-time signal " ++ Text.ofNat (n - 34))

/-- the first and the last of the signals that have no purpose of their own -/
def free : List (Text × Nat) := [("RTMIN", 34), ("RTMAX", 64)]

/-- the greatest number of a signal -/
def greatest : Nat := 64

/-- the name of a number -/
def name? (n : Nat) : Option Text :=
  if n = 0 then none
  else names[n - 1]? <|> (free.find? (·.2 == n)).map (·.1)

/-- the name of a number where shells name signals: the ones without a purpose are counted from the
nearer end, and some have no name but their number -/
def commonName (n : Nat) : Text :=
  if 34 < n ∧ n < 50 then "RTMIN+" ++ Text.ofNat (n - 34)
  else if 50 ≤ n ∧ n < greatest then "RTMAX-" ++ Text.ofNat (greatest - n)
  else if n = 16 then Text.ofNat n
  else (name? n).getD (Text.ofNat n)

/-- the number of a name that shells know -/
def ofCommonName? (name : Text) : Option Nat :=
  ((List.range greatest).map (· + 1)).find? fun n => commonName n == name

theorem name?_zero : name? 0 = none := rfl

/-- does nothing happen at a signal? -/
def isHarmless (n : Nat) : Bool := [17, 18, 23, 28].contains n

/-- does a signal stop a program without ending it? -/
def isStop (n : Nat) : Bool := 19 ≤ n && n ≤ 22

/-- the end by a signal in words -/
def ending (n : Nat) : Text :=
  match name? n with
  | some name => "died with <Signals.SIG" ++ name ++ ": " ++ Text.ofNat n ++ ">."
  | none => "died with unknown signal " ++ Text.ofNat n ++ "."

end DatabaseTypes.Signal
