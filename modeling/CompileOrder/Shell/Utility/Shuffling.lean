import CompileOrder.Shell.Utility.Reading

/-!
# Lines in any order

Shows lines, arguments or numbers in an order that does not matter. The order is a fixed
one here: every order is as good as any other.
-/

namespace CompileOrder.Shell.Utility

open Tool

/-- The numbers of a range. -/
def numberRange? (text : String) : Option (List String) :=
  match (text.splitOn "-").map Octets.number? with
  | [some low, some high] =>
    if high + 1 < low then none
    else some ((List.range (high + 1 - low)).map fun i => toString (low + i))
  | _ => none

/-- Some of the items, as many as are asked for; items may come again if that is said. -/
def drawn (repeats : Bool) (count : Option Nat) (items : List String) : List String :=
  match repeats, count with
  | true, some n => (List.range n).map fun i => items.getD (i % items.length) ""
  | _, some n => items.take n
  | _, none => items

/-- Shows lines in any order. -/
def shuf : Tool Nat :=
  withOptions [{ letter := 'e', word := "echo" },
      { letter := 'i', word := "input-range", takes := .required },
      { letter := 'n', word := "head-count", takes := .required },
      { letter := 'o', word := "output", takes := .required },
      { letter := '\x01', word := "random-source", takes := .required },
      { letter := 'r', word := "repeat" }, { letter := 'z', word := "zero-terminated" }] 1
    fun p => do
      let ranges := p.options.filter fun o => o.1 == 'i'
      let counts := (p.options.filter fun o => o.1 == 'n').map fun o => (o.2, Octets.number? o.2)
      if let some (text, _) := counts.find? fun c => c.2.isNone then
        return ← fail 1 ("invalid line count: " ++ Quote.inWords text)
      if 1 < ranges.length then return ← fail 1 "multiple -i options specified"
      let count := (counts.filterMap fun c => c.2).min?
      let ending := if p.has 'z' then "\x00" else "\n"
      let range := ranges.head?.map fun o => (o.2, numberRange? o.2)
      if let some (text, none) := range then
        return ← fail 1 ("invalid input range: " ++ Quote.inWords text)
      if p.has 'e' && range.isSome then return ← misuse 1 "cannot combine -e and -i options"
      let extra := if p.has 'e' then none else p.operands[if range.isSome then 0 else 1]?
      if let some word := extra then return ← misuse 1 ("extra operand " ++ Quote.inWords word)
      let items : Except String (List String) ← match range.bind fun r => r.2 with
        | some numbers => pure (.ok numbers)
        | none =>
          if p.has 'e' then pure (.ok p.operands)
          else
            let path := p.operands.headD "-"
            match ← contents path with
            | .error .isDirectory => pure (.error ("read error: " ++ FileFault.isDirectory.words))
            | .error fault => pure (.error (Quote.ifNeeded path ++ ": " ++ fault.words))
            | .ok text =>
              let parts := text.splitOn ending
              pure (.ok (if parts.getLast? == some "" then parts.dropLast else parts))
      match items with
      | .error message => fail 1 message
      | .ok items =>
        if p.has 'r' && items.isEmpty && count != some 0 then
          return ← fail 1 "no lines to repeat"
        let text := String.join ((drawn (p.has 'r') count items).map fun l => l ++ ending)
        match p.get? 'o' with
        | none =>
          out text
          return 0
        | some path =>
          match (← get).writeFile path (Octets.toBytes text) with
          | .ok m =>
            set m
            return 0
          | .error fault => fail 1 (Quote.ifNeeded path ++ ": " ++ fault.words)

end CompileOrder.Shell.Utility
