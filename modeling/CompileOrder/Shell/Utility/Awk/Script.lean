import CompileOrder.Shell.Octets

/-!
# Scripts for records

A script says what is done with each record of the input. It is made of rules, each
with a condition and actions, and of functions.
-/

namespace CompileOrder.Shell.Awk

/-- An operation on two numbers. -/
inductive Operation where
  | add | subtract | multiply | divide | remainder | power
  deriving DecidableEq, Repr

/-- A comparison of two values. -/
inductive Relation where
  | less | lessOrEqual | equal | different | greater | greaterOrEqual
  deriving DecidableEq, Repr

/-- An expression. -/
inductive Expr where
  /-- A number. -/
  | number (x : Float)
  /-- A text. -/
  | text (s : String)
  /-- Whether the record has a stretch that a regular expression describes. -/
  | pattern (s : String)
  /-- A variable. -/
  | name (s : String)
  /-- A field of the record. -/
  | field (place : Expr)
  /-- An element of a table. -/
  | element (table : String) (keys : List Expr)
  /-- A value is assigned, perhaps after an operation with the old one. -/
  | assign (operation : Option Operation) (target value : Expr)
  /-- One is added or taken away, before or after the value is taken. -/
  | step (isBefore isUp : Bool) (target : Expr)
  /-- The negative of a number. -/
  | negative (e : Expr)
  /-- A value as a number. -/
  | positive (e : Expr)
  /-- An operation. -/
  | operate (operation : Operation) (a b : Expr)
  /-- One text after the other. -/
  | join (a b : Expr)
  /-- A comparison. -/
  | compare (relation : Relation) (a b : Expr)
  /-- Whether a text has a stretch that a regular expression describes, or has none. -/
  | matching (isWanted : Bool) (a b : Expr)
  /-- Whether a table has an element. -/
  | isIn (keys : List Expr) (table : String)
  /-- Whether something does not hold. -/
  | not (e : Expr)
  /-- Whether both hold. -/
  | and (a b : Expr)
  /-- Whether one holds. -/
  | or (a b : Expr)
  /-- One of two values. -/
  | choose (condition a b : Expr)
  /-- A function of the script. -/
  | call (name : String) (args : List Expr)
  /-- A function that every script has. -/
  | builtin (name : String) (args : List Expr)
  /-- The next record of the input is read. -/
  | readInput (target : Option Expr)
  /-- The next record of a file is read. -/
  | readFile (target : Option Expr) (path : Expr)
  /-- The next record of the output of a command is read. -/
  | readCommand (target : Option Expr) (command : Expr)

/-- Whether something can be assigned to the expression. -/
def Expr.isTarget : Expr → Bool
  | .name _ | .field _ | .element _ _ => true
  | _ => false

/-- Where output goes. -/
inductive Destination where
  /-- To the output of the script. -/
  | output
  /-- To a file, which is made anew. -/
  | file (path : Expr)
  /-- To the end of a file. -/
  | endOf (path : Expr)
  /-- To the input of a command. -/
  | command (command : Expr)

/-- An action. -/
inductive Statement where
  /-- An expression is evaluated. -/
  | evaluate (e : Expr)
  /-- Values are written. -/
  | print (args : List Expr) (destination : Destination)
  /-- Values are written by a format. -/
  | printf (args : List Expr) (destination : Destination)
  /-- Actions one after the other. -/
  | block (body : List Statement)
  /-- One of two actions. -/
  | branch (condition : Expr) (body : Statement) (otherwise : Option Statement)
  /-- As long as a condition holds. -/
  | while (condition : Expr) (body : Statement)
  /-- Once, and as long as a condition holds. -/
  | repeat (body : Statement) (condition : Expr)
  /-- With a start, a condition and a step. -/
  | loop (start : Option Statement) (condition : Option Expr) (step : Option Statement)
      (body : Statement)
  /-- For each key of a table. -/
  | forEach (name table : String) (body : Statement)
  /-- The loop is left. -/
  | leave
  /-- The pass of the loop is over. -/
  | again
  /-- The record is done. -/
  | next
  /-- The file is done. -/
  | nextFile
  /-- The script ends. -/
  | exit (code : Option Expr)
  /-- The function ends. -/
  | return (value : Option Expr)
  /-- An element or all elements are removed. -/
  | delete (table : String) (keys : List Expr)

/-- When a rule applies. -/
inductive Condition where
  /-- Before the input. -/
  | start
  /-- After the input. -/
  | finish
  /-- For every record. -/
  | always
  /-- For records for which an expression holds. -/
  | holds (e : Expr)
  /-- For records from one to another. -/
  | between (first last : Expr)

/-- A rule; without actions the record is written. -/
structure Rule where
  /-- When it applies. -/
  condition : Condition
  /-- What is done. -/
  body : Option Statement

/-- A function. -/
structure Procedure where
  /-- The parameters. -/
  parameters : List String
  /-- What it does. -/
  body : Statement

/-- A script. -/
structure Script where
  /-- The rules. -/
  rules : List Rule := []
  /-- The functions. -/
  procedures : List (String × Procedure) := []

end CompileOrder.Shell.Awk
