import CompileOrder.Shell.Octets

/-!
# Signals

Signals have numbers, and most have names. Unless a process has made other
arrangements, a signal ends it; a few do nothing.
-/

namespace CompileOrder.Shell.Signal

/-- The greatest number of a signal. -/
def last : Nat := 64

/-- The names of the signals below the numbered ones, in order. -/
def names : List String :=
  ["EXIT", "HUP", "INT", "QUIT", "ILL", "TRAP", "ABRT", "BUS", "FPE", "KILL", "USR1", "SEGV",
    "USR2", "PIPE", "ALRM", "TERM", "16", "CHLD", "CONT", "STOP", "TSTP", "TTIN", "TTOU", "URG",
    "XCPU", "XFSZ", "VTALRM", "PROF", "WINCH", "IO", "PWR", "SYS", "32", "33"]

/-- The name of the signal with a number. -/
def name (n : Nat) : String :=
  if n == 34 then "RTMIN"
  else if 34 < n && n < 50 then "RTMIN+" ++ toString (n - 34)
  else if 50 ≤ n && n < 64 then "RTMAX-" ++ toString (64 - n)
  else if n == 64 then "RTMAX"
  else names.getD n ""

/-- The number of the signal that a number or a name, in any case, stands for. -/
def ofText? (text : String) : Option Nat :=
  match Octets.number? text with
  | some n => if n ≤ last then some n else none
  | none => (List.range (last + 1)).find? fun n => (name n).toLower == text.toLower

/-- What is said of a process that a signal has ended. -/
def descriptions : List (Nat × String) :=
  [(1, "Hangup"), (2, "Interrupt"), (3, "Quit"), (4, "Illegal instruction"),
    (5, "Trace/breakpoint trap"), (6, "Aborted"), (7, "Bus error"), (8, "Floating point exception"),
    (9, "Killed"), (10, "User defined signal 1"), (11, "Segmentation fault"),
    (12, "User defined signal 2"), (13, "Broken pipe"), (14, "Alarm clock"), (15, "Terminated"),
    (16, "Stack fault"), (24, "CPU time limit exceeded"), (25, "File size limit exceeded"),
    (26, "Virtual timer expired"), (27, "Profiling timer expired"), (29, "I/O possible"),
    (30, "Power failure"), (31, "Bad system call")]

/-- What is said of a process that the signal has ended. -/
def description (n : Nat) : String :=
  match descriptions.find? fun d => d.1 == n with
  | some (_, text) => text
  | none =>
    if 34 ≤ n then "Real-time signal " ++ toString (n - 34)
    else "Unknown signal " ++ toString n

/-- Whether the signal ends a process that has made no arrangements. -/
def isFatal (n : Nat) : Bool := n != 0 && !([17, 18, 19, 20, 21, 22, 23, 28].contains n)

/-- Whether no arrangements can be made for the signal. -/
def isFinal (n : Nat) : Bool := n == 9 || n == 19

end CompileOrder.Shell.Signal
