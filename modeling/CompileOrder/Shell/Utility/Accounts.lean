import CompileOrder.Shell.Utility.Options
import CompileOrder.Shell.Utility.Quote

/-!
# Users and groups

The users and groups that a system has by itself, by name and number, and the utilities
that show them.
-/

namespace CompileOrder.Shell.Accounts

/-- The users. -/
def users : List (String × Nat) :=
  [("root", 0), ("daemon", 1), ("bin", 2), ("sys", 3), ("sync", 4), ("games", 5), ("man", 6),
    ("lp", 7), ("mail", 8), ("news", 9), ("uucp", 10), ("proxy", 13), ("www-data", 33),
    ("backup", 34), ("list", 38), ("irc", 39), ("_apt", 42), ("nobody", 65534)]

/-- The groups. -/
def groups : List (String × Nat) :=
  [("root", 0), ("daemon", 1), ("bin", 2), ("sys", 3), ("adm", 4), ("tty", 5), ("disk", 6),
    ("lp", 7), ("mail", 8), ("news", 9), ("uucp", 10), ("man", 12), ("proxy", 13), ("kmem", 15),
    ("dialout", 20), ("fax", 21), ("voice", 22), ("cdrom", 24), ("floppy", 25), ("tape", 26),
    ("sudo", 27), ("audio", 29), ("dip", 30), ("www-data", 33), ("backup", 34), ("operator", 37),
    ("list", 38), ("irc", 39), ("src", 40), ("shadow", 42), ("utmp", 43), ("video", 44),
    ("sasl", 45), ("plugdev", 46), ("staff", 50), ("games", 60), ("users", 100),
    ("nogroup", 65534)]

/-- The group that a user belongs to. -/
def groupOf (user : Nat) : Nat :=
  match user with
  | 4 | 42 | 65534 => 65534
  | 5 => 60
  | 6 => 12
  | n => n

/-- The number of a name. -/
def number? (all : List (String × Nat)) (name : String) : Option Nat :=
  (all.find? fun a => a.1 == name).map fun a => a.2

/-- The name of a number. -/
def name? (all : List (String × Nat)) (number : Nat) : Option String :=
  (all.find? fun a => a.2 == number).map fun a => a.1

/-- The name of a number, or its digits. -/
def nameOrDigits (all : List (String × Nat)) (number : Nat) : String :=
  (name? all number).getD (toString number)

/-- The number that a name or digits stand for. -/
def read? (all : List (String × Nat)) (text : String) : Option Nat :=
  match number? all text with
  | some n => some n
  | none => Octets.number? (match text.toList with
    | '+' :: cs => String.ofList cs
    | _ => text)

end CompileOrder.Shell.Accounts

namespace CompileOrder.Shell.Utility

open Tool Accounts

/-- Shows who a user is. -/
def identity : Tool Nat :=
  withOptions ([{ letter := 'g', word := "group" }, { letter := 'G', word := "groups" },
      { letter := 'n', word := "name" }, { letter := 'r', word := "real" },
      { letter := 'u', word := "user" }, { letter := 'z', word := "zero" }, { letter := 'a' },
      { letter := 'Z', word := "context" }]) 1 fun p => do
    let kinds := "gGu".toList.filter p.has
    if 1 < kinds.length then return ← fail 1 "cannot print \"only\" of more than one choice"
    if kinds.isEmpty && (p.has 'n' || p.has 'r') then
      return ← fail 1 "printing only names or real IDs requires -u, -g, or -G"
    let operands := if p.operands.isEmpty then ["root"] else p.operands
    each operands fun name => do
      match read? users name with
      | none => fail 1 (Quote.inWords name ++ ": no such user")
      | some user =>
        let group := groupOf user
        let text (all : List (String × Nat)) (n : Nat) : String :=
          if p.has 'n' then nameOrDigits all n else toString n
        let both (all : List (String × Nat)) (n : Nat) : String :=
          toString n ++ match name? all n with
            | some name => "(" ++ name ++ ")"
            | none => ""
        let line := match kinds with
          | ['u'] => text users user
          | [_] => text groups group
          | _ => "uid=" ++ both users user ++ " gid=" ++ both groups group ++ " groups=" ++
              both groups group
        out (line ++ if p.has 'z' && !kinds.isEmpty then "\x00" else "\n")
        return 0

/-- Shows the groups of users. -/
def userGroups : Tool Nat :=
  withOptions [] 1 fun p => do
    if p.operands.isEmpty then
      outLines ["root"]
      return 0
    each p.operands fun name => do
      match number? users name with
      | none => fail 1 (Quote.inWords name ++ ": no such user")
      | some user =>
        outLines [name ++ " : " ++ nameOrDigits groups (groupOf user)]
        return 0

/-- Shows the name of the user. -/
def whoami : Tool Nat :=
  withOptions [] 1 fun p => do
    match p.operands with
    | extra :: _ => misuse 1 ("extra operand " ++ Quote.inWords extra)
    | [] =>
      outLines ["root"]
      return 0

/-- Shows the name under which the user has come; there is none. -/
def logname : Tool Nat :=
  withOptions [] 1 fun p => do
    match p.operands with
    | extra :: _ => misuse 1 ("extra operand " ++ Quote.inWords extra)
    | [] => fail 1 "no login name"

/-- Shows the terminal; there is none. -/
def tty : Tool Nat :=
  withOptions [{ letter := 's', word := "silent" }, { letter := 's', word := "quiet" }] 2
    fun p => do
      match p.operands with
      | extra :: _ => misuse 2 ("extra operand " ++ Quote.inWords extra)
      | [] =>
        if !p.has 's' then outLines ["not a tty"]
        return 1

end CompileOrder.Shell.Utility
