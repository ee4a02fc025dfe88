import CompileOrder.Failure
import CompileOrder.FileTree

/-!
# Effects of a run

A run reads and changes a file tree and writes to three streams: the list it
prints, and the output and error streams it shares with the commands it starts.
What was written is kept in order. A run that fails keeps what it did before.
-/

namespace CompileOrder

/-- Where something is written. -/
inductive Stream where
  /-- The printed list. -/
  | list
  /-- The output of commands. -/
  | output
  /-- Status lines and the errors of commands. -/
  | error
  deriving DecidableEq, Repr

/-- The state that a run acts on. -/
structure World where
  /-- The file tree. -/
  tree : FileTree
  /-- What was written, in order. -/
  written : List (Stream × Text.Bytes)

/-- An action that may fail; what it did before failing stays. -/
abbrev Run := ExceptT Failure (StateM World)

namespace World

/-- Bytes are written to a stream. -/
def write (w : World) (s : Stream) (bytes : Text.Bytes) : World :=
  { w with written := w.written ++ [(s, bytes)] }

/-- Everything written to some streams, in order. -/
def transcript (w : World) (streams : List Stream) : Text.Bytes :=
  (w.written.filter fun e => streams.contains e.1).flatMap fun e => e.2

end World

namespace Run

/-- A text is written to a stream. -/
def write (s : Stream) (text : String) : Run Unit :=
  modify fun w => w.write s (Text.encode text)

/-- The width that labels of status lines are filled up to. -/
def labelWidth : Nat := 12

/-- A line on the error stream: a label, flush right, and a message. -/
def status (label message : String) : Run Unit :=
  let padding := String.ofList (List.replicate (labelWidth - label.length) ' ')
  write .error (padding ++ label ++ " " ++ message ++ "\n")

/-- A question to the file tree that may fail. -/
def query {α : Type} (f : FileTree → Except Failure α) : Run α := do
  match f (← get).tree with
  | .ok a => return a
  | .error failure => throw failure

/-- A change of the file tree. -/
def changeTree (f : FileTree → FileTree) : Run Unit :=
  modify fun w => { w with tree := f w.tree }

end Run

/-- How a command ended. -/
inductive ExitStatus where
  /-- By itself, with a code. -/
  | exited (code : Nat)
  /-- By a signal. -/
  | signalled (number : Nat)
  deriving DecidableEq, Repr

namespace ExitStatus

/-- Whether the command succeeded. -/
def isSuccess (s : ExitStatus) : Bool := s == .exited 0

/-- The signals that end a command, with their names. -/
def signals : List (Nat × String) :=
  [(1, "SIGHUP"), (2, "SIGINT"), (3, "SIGQUIT"), (4, "SIGILL"), (5, "SIGTRAP"), (6, "SIGABRT"),
    (7, "SIGBUS"), (8, "SIGFPE"), (9, "SIGKILL"), (10, "SIGUSR1"), (11, "SIGSEGV"),
    (12, "SIGUSR2"), (13, "SIGPIPE"), (14, "SIGALRM"), (15, "SIGTERM"), (16, "SIGSTKFLT"),
    (24, "SIGXCPU"), (25, "SIGXFSZ"), (26, "SIGVTALRM"), (27, "SIGPROF"), (29, "SIGIO"),
    (30, "SIGPWR"), (31, "SIGSYS")]

/-- The name of a signal, with a blank before it and in parentheses, if it has one. -/
def signalName (number : Nat) : String :=
  match signals.find? fun s => s.1 == number with
  | some (_, name) => " (" ++ name ++ ")"
  | none => ""

/-- The status in words. -/
def display : ExitStatus → String
  | .exited code => "exit status: " ++ toString code
  | .signalled n => "signal: " ++ toString n ++ signalName n

end ExitStatus

/-- What runs a command line: given variables and the line, how the command ends and
what it does. -/
abbrev Shell := List (String × String) → String → World → ExitStatus × World

end CompileOrder
