import CompileOrder.Toml.Value
import CompileOrder.Toml.Text

/-!
# TOML dates and times

A calendar date, a time of day, or a date and a time with an optional offset. Each
part is checked against the calendar and the clock.
-/

namespace CompileOrder.Toml

/-- A number of exactly two digits within bounds. -/
def readTwo (low high : Nat) : List Char → Option (Nat × List Char)
  | a :: b :: cs =>
    let n := (a.toNat - 48) * 10 + (b.toNat - 48)
    if a.isDigit && b.isDigit && decide (low ≤ n) && decide (n ≤ high) then some (n, cs) else none
  | _ => none

/-- The characters after `c`. -/
def expect (c : Char) : List Char → Option (List Char)
  | x :: cs => if x == c then some cs else none
  | [] => none

/-- The number of days of a month. -/
def daysIn (year month : Nat) : Nat :=
  if month = 2 then
    if year % 4 = 0 && (year % 100 != 0 || year % 400 = 0) then 29 else 28
  else if month = 4 || month = 6 || month = 9 || month = 11 then 30
  else 31

/-- The characters after a calendar date. -/
def afterDate (cs : List Char) : Option (List Char) := do
  let (century, rest) ← readTwo 0 99 cs
  let (years, rest) ← readTwo 0 99 rest
  let (month, rest) ← readTwo 1 12 (← expect '-' rest)
  let (day, rest) ← readTwo 1 31 (← expect '-' rest)
  if day ≤ daysIn (century * 100 + years) month then some rest else none

/-- The characters after the decimals of a second, if there are any. -/
def afterDecimals : List Char → List Char
  | '.' :: cs =>
    if (cs.takeWhile Char.isDigit).isEmpty then '.' :: cs else cs.dropWhile Char.isDigit
  | cs => cs

/-- The characters after a time of day. -/
def afterTime (cs : List Char) : Option (List Char) := do
  let (_, rest) ← readTwo 0 23 cs
  let (_, rest) ← readTwo 0 59 (← expect ':' rest)
  let (_, rest) ← readTwo 0 60 (← expect ':' rest)
  return afterDecimals rest

/-- The characters after an offset from universal time. -/
def afterOffset : List Char → Option (List Char)
  | c :: cs =>
    if c == 'Z' || c == 'z' then some cs
    else if c == '+' || c == '-' then do
      let (_, rest) ← readTwo 0 23 cs
      let (_, rest) ← readTwo 0 59 (← expect ':' rest)
      return rest
    else none
  | [] => none

/-- The characters after a time that follows a date, with its offset. -/
def afterDayTime : List Char → Option (List Char)
  | c :: cs =>
    if c == 'T' || c == 't' || c == ' ' then do
      let rest ← afterTime cs
      return (afterOffset rest).getD rest
    else none
  | [] => none

/-- The characters after a date, a time, or both. -/
def afterDatetime (cs : List Char) : Option (List Char) :=
  match afterDate cs with
  | some rest => some ((afterDayTime rest).getD rest)
  | none => afterTime cs

/-- A date, a time, or both. -/
def readDatetime (cs : List Char) : Option (Value × List Char) :=
  (afterDatetime cs).map fun rest =>
    (.datetime (String.ofList (cs.take (cs.length - rest.length))), rest)

end CompileOrder.Toml
