import CompileOrder.Shell.Utility.Tool

/-!
# Options of utilities

Options are letters after a hyphen or words after two hyphens, and may stand between
other arguments. An option can take an argument, which follows the letter or the word
or is an argument of its own. A word may be shortened as long as it is clear.
-/

namespace CompileOrder.Shell

/-- Whether an option takes an argument. -/
inductive Takes where
  | nothing | required | optional
  deriving DecidableEq, Repr

/-- An option: its letter, its word, and whether it takes an argument. -/
structure Flag where
  /-- The letter; options without one have a control character. -/
  letter : Char
  /-- The word. -/
  word : String := ""
  /-- Whether it takes an argument. -/
  takes : Takes := .nothing
  deriving DecidableEq, Repr

/-- What the arguments of a utility are. -/
structure Parsed where
  /-- The options with their arguments. -/
  options : List (Char × String) := []
  /-- The other arguments. -/
  operands : List String := []
  deriving DecidableEq, Repr

namespace Parsed

/-- Whether an option was given. -/
def has (p : Parsed) (letter : Char) : Bool := p.options.any fun o => o.1 == letter

/-- The last argument of an option. -/
def get? (p : Parsed) (letter : Char) : Option String :=
  (p.options.reverse.find? fun o => o.1 == letter).map fun o => o.2

/-- The last option among some. -/
def last? (p : Parsed) (letters : String) : Option Char :=
  (p.options.reverse.find? fun o => letters.toList.contains o.1).map fun o => o.1

/-- An option is added at the front. -/
def add (p : Parsed) (letter : Char) (argument : String) : Parsed :=
  { p with options := (letter, argument) :: p.options }

end Parsed

namespace Flag

/-- The flags with these letters; a colon after a letter tells that it takes an argument. -/
def ofLetters (letters : String) : List Flag :=
  go letters.toList
where
  /-- The flags with these letters. -/
  go : List Char → List Flag
    | c :: ':' :: cs => { letter := c, takes := .required } :: go cs
    | c :: cs => { letter := c } :: go cs
    | [] => []

/-- The flag that a word, perhaps shortened, stands for. -/
def ofWord (flags : List Flag) (word : String) : Except String Flag :=
  match flags.find? fun f => f.word == word with
  | some f => .ok f
  | none =>
    match flags.filter fun f => !f.word.isEmpty && word.toList.isPrefixOf f.word.toList with
    | [f] => .ok f
    | [] => .error ("unrecognized option '--" ++ word ++ "'")
    | fs =>
      .error ("option '--" ++ word ++ "' is ambiguous; possibilities:" ++
        String.join (fs.map fun f => " '--" ++ f.word ++ "'"))

/-- The option that the letters after a hyphen begin with. -/
def letters (flags : List Flag) (rest : List String) : List Char → List (Char × String) →
    Except String (List (Char × String) × List String)
  | [], found => .ok (found.reverse, rest)
  | c :: cs, found =>
    match flags.find? fun f => f.letter == c with
    | none => .error ("invalid option -- '" ++ String.singleton c ++ "'")
    | some f =>
      match f.takes with
      | .nothing => letters flags rest cs ((c, "") :: found)
      | .optional => .ok (((c, String.ofList cs) :: found).reverse, rest)
      | .required =>
        match cs, rest with
        | [], [] => .error ("option requires an argument -- '" ++ String.singleton c ++ "'")
        | [], arg :: rest => .ok (((c, arg) :: found).reverse, rest)
        | cs, rest => .ok (((c, String.ofList cs) :: found).reverse, rest)

/-- The arguments of a utility, read in at most `n` steps. With `isStrict` the first
argument that is no option ends the options. -/
def parseFrom (flags : List Flag) (isStrict : Bool) : Nat → List String → Except String Parsed
  | 0, words => .ok { operands := words }
  | _ + 1, [] => .ok {}
  | n + 1, word :: rest => do
    match word.toList with
    | ['-', '-'] => return { operands := rest }
    | '-' :: '-' :: cs =>
      let name := cs.takeWhile fun c => c != '='
      let value := cs.drop name.length
      let f ← ofWord flags (String.ofList name)
      let quoted := "'--" ++ f.word ++ "'"
      match f.takes, value, rest with
      | .nothing, [], rest => return (← parseFrom flags isStrict n rest).add f.letter ""
      | .nothing, _, _ => .error ("option " ++ quoted ++ " doesn't allow an argument")
      | .required, [], [] => .error ("option " ++ quoted ++ " requires an argument")
      | .required, [], arg :: rest => return (← parseFrom flags isStrict n rest).add f.letter arg
      | _, value, rest =>
        return (← parseFrom flags isStrict n rest).add f.letter (String.ofList (value.drop 1))
    | '-' :: c :: cs =>
      let (found, rest) ← letters flags rest (c :: cs) []
      let p ← parseFrom flags isStrict n rest
      return { p with options := found ++ p.options }
    | _ =>
      if isStrict then return { operands := word :: rest }
      let p ← parseFrom flags isStrict n rest
      return { p with operands := word :: p.operands }

/-- The arguments of a utility. -/
def parse (flags : List Flag) (words : List String) (isStrict : Bool := false) :
    Except String Parsed :=
  parseFrom flags isStrict (words.length + 1) words

end Flag

namespace Tool

/-- The utility does something with its arguments, unless they cannot be read. -/
def withOptions (flags : List Flag) (code : Nat) (action : Parsed → Tool Nat) : Tool Nat := do
  match Flag.parse flags (← args) with
  | .ok p => action p
  | .error message => misuse code message

/-- The utility does something with its arguments, where the first one that is no option
ends the options. -/
def withLeadingOptions (flags : List Flag) (code : Nat) (action : Parsed → Tool Nat) :
    Tool Nat := do
  match Flag.parse flags (← args) true with
  | .ok p => action p
  | .error message => misuse code message

end Tool

end CompileOrder.Shell
