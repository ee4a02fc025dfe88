/-!
# Commands

The commands that a script is made of, as they are read and before anything in them
is expanded. A word is a list of pieces; a piece remembers whether it stood between
quotes. The text of a here-document is read after the line that asks for it and is
kept apart, under a number.
-/

namespace CompileOrder.Shell

/-- What the value of a parameter is used for. -/
inductive Use where
  /-- It is put in as it is. -/
  | value
  /-- Its length is put in. -/
  | length
  /-- A word takes its place if it is not set. -/
  | fallback
  /-- A word is assigned to it if it is not set. -/
  | assign
  /-- A word takes its place if it is set. -/
  | alternative
  /-- It is an error if it is not set. -/
  | demand
  /-- A pattern is cut off its start. -/
  | trimStart (longest : Bool)
  /-- A pattern is cut off its end. -/
  | trimEnd (longest : Bool)
  /-- The braces do not hold anything that has a meaning. -/
  | malformed
  deriving DecidableEq, Repr

/-- How a file is opened for a redirection. -/
inductive Opening where
  /-- For reading. -/
  | read
  /-- For writing, from its start. -/
  | write
  /-- For writing from its start even if files are protected. -/
  | overwrite
  /-- For writing at its end. -/
  | append
  /-- For reading and writing. -/
  | both
  deriving DecidableEq, Repr

mutual

/-- A piece of a word. -/
inductive Piece where
  /-- Characters as they are. -/
  | text (chars : String) (quoted : Bool)
  /-- A quotation mark, which makes a word even of nothing. -/
  | quotes
  /-- A parameter; `orEmpty` tells whether an empty value counts as none. -/
  | parameter (name : String) (use : Use) (orEmpty quoted : Bool) (word : List Piece)
  /-- The output of a command. -/
  | substitution (body : Option Command) (quoted : Bool)
  /-- The value of an expression. -/
  | arithmetic (expression : List Piece) (quoted : Bool)

/-- A redirection of a descriptor. -/
inductive Redirect where
  /-- To a file. -/
  | file (descriptor : Nat) (opening : Opening) (target : List Piece)
  /-- To what another descriptor leads to, or to nothing. -/
  | duplicate (descriptor : Nat) (source : List Piece)
  /-- To a here-document, known by its number. -/
  | document (descriptor number : Nat)

/-- A command. -/
inductive Command where
  /-- Assignments and words, at a line. -/
  | simple (line : Nat) (assignments words : List (List Piece)) (redirects : List Redirect)
  /-- Commands joined by pipes. -/
  | pipeline (commands : List Command) (background : Bool)
  /-- A command whose outcome is turned around. -/
  | negation (body : Command)
  /-- The second command is run if the first succeeds. -/
  | both (first second : Command)
  /-- The second command is run if the first fails. -/
  | either (first second : Command)
  /-- One command after the other. -/
  | sequence (first second : Command)
  /-- A command with redirections. -/
  | redirected (line : Nat) (body : Command) (redirects : List Redirect)
  /-- A command in a shell of its own. -/
  | subshell (line : Nat) (body : Command) (redirects : List Redirect)
  /-- A command that is not waited for. -/
  | background (line : Nat) (body : Command) (redirects : List Redirect)
  /-- A choice. -/
  | branch (condition : Command) (body : Command) (otherwise : Option Command)
  /-- A loop for as long as the condition succeeds, or fails. -/
  | loop (whileFails : Bool) (condition body : Command)
  /-- A loop over words. -/
  | iteration (line : Nat) (name : String) (words : List (List Piece)) (body : Command)
  /-- A choice by patterns. -/
  | selection (line : Nat) (subject : List Piece)
      (arms : List (List (List Piece) × Option Command))
  /-- The definition of a function. -/
  | definition (line : Nat) (name : String) (body : Command)

end

/-- A word of a command. -/
abbrev Word := List Piece

instance : Inhabited Command := ⟨.simple 0 [] [] []⟩

/-- The word for all positional parameters, each a word of its own. -/
def Word.allParameters : Word :=
  [.quotes, .parameter "@" .value false true [], .quotes]

/-- The characters of a word in which nothing is quoted or expanded. -/
def Word.plain? : Word → Option String
  | [] => some ""
  | [.text chars false] => some chars
  | _ => none

/-- The name and the value of a word that is an assignment. -/
def Word.assignment? : Word → Option (String × Word)
  | .text chars false :: rest =>
    let cs := chars.toList
    let name := cs.takeWhile fun c => c != '='
    let text := String.ofList name
    let isName := match name with
      | [] => false
      | c :: cs => (c.isAlpha || c == '_') && cs.all fun c => c.isAlphanum || c == '_'
    match cs.drop name.length with
    | _ :: value =>
      let rest := if value.isEmpty then rest else .text (String.ofList value) false :: rest
      if isName then some (text, rest) else none
    | [] => none
  | _ => none

end CompileOrder.Shell
