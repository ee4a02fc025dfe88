import CompileOrder.FileTree.Node
import CompileOrder.Shell.Octets

/-!
# Dates and times

A time as a date and a time of day, both in universal time, and its text by a format in
which letters after percent signs stand for its parts. Between the sign and the letter
there may be marks that say how the part is filled up or spelled, and a width.
-/

namespace CompileOrder.Shell

/-- A date and a time of day. -/
structure Moment where
  /-- The year. -/
  year : Int
  /-- The month, from 1. -/
  month : Nat
  /-- The day of the month, from 1. -/
  day : Nat
  /-- The hour. -/
  hour : Nat := 0
  /-- The minute. -/
  minute : Nat := 0
  /-- The second. -/
  second : Nat := 0
  /-- The nanosecond. -/
  nanosecond : Nat := 0
  deriving DecidableEq, Repr

namespace Moment

/-- The number of days from the start of 1970 to a date. Years are counted from March, so
that the day a leap year has more is the last one. -/
def daysTo (year : Int) (month day : Nat) : Int :=
  let year := if month ≤ 2 then year - 1 else year
  let age := year.fdiv 400
  let yearOfAge := (year - age * 400).toNat
  let monthFromMarch := if month ≤ 2 then month + 9 else month - 3
  let dayOfYear := (153 * monthFromMarch + 2) / 5 + day - 1
  let dayOfAge := yearOfAge * 365 + yearOfAge / 4 - yearOfAge / 100 + dayOfYear
  age * 146097 + dayOfAge - 719468

/-- The date that is a number of days after the start of 1970. -/
def ofDays (days : Int) : Int × Nat × Nat :=
  let days := days + 719468
  let age := days.fdiv 146097
  let dayOfAge := (days - age * 146097).toNat
  let yearOfAge := (dayOfAge - dayOfAge / 1460 + dayOfAge / 36524 - dayOfAge / 146096) / 365
  let dayOfYear := dayOfAge - (365 * yearOfAge + yearOfAge / 4 - yearOfAge / 100)
  let monthFromMarch := (5 * dayOfYear + 2) / 153
  let day := dayOfYear - (153 * monthFromMarch + 2) / 5 + 1
  let month := if monthFromMarch < 10 then monthFromMarch + 3 else monthFromMarch - 9
  let year := (yearOfAge : Int) + age * 400
  (if month ≤ 2 then year + 1 else year, month, day)

/-- The moment of a time. -/
def ofTime (time : Time) : Moment :=
  let seconds := time.fdiv Time.second
  let days := seconds.fdiv 86400
  let rest := (seconds - days * 86400).toNat
  let (year, month, day) := ofDays days
  { year := year, month := month, day := day, hour := rest / 3600, minute := rest / 60 % 60
    second := rest % 60, nanosecond := (time - seconds * Time.second).toNat }

/-- The number of seconds from the start of 1970 to a moment. -/
def seconds (m : Moment) : Int :=
  daysTo m.year m.month m.day * 86400 + m.hour * 3600 + m.minute * 60 + m.second

/-- The time of a moment. -/
def toTime (m : Moment) : Time := m.seconds * Time.second + m.nanosecond

/-- The day of the week, from 0 for Sunday. -/
def weekday (m : Moment) : Nat := ((daysTo m.year m.month m.day + 4) % 7).toNat

/-- The day of the year, from 1. -/
def yearDay (m : Moment) : Nat :=
  (daysTo m.year m.month m.day - daysTo m.year 1 1).toNat + 1

/-- The names of the months. -/
def months : List String :=
  ["January", "February", "March", "April", "May", "June", "July", "August", "September", "October",
    "November", "December"]

/-- The names of the days of the week. -/
def weekdays : List String :=
  ["Sunday", "Monday", "Tuesday", "Wednesday", "Thursday", "Friday", "Saturday"]

/-- The name of the month. -/
def monthName (m : Moment) : String := months.getD (m.month - 1) ""

/-- The name of the day of the week. -/
def weekdayName (m : Moment) : String := weekdays.getD m.weekday ""

/-- The year that the week of a moment belongs to, and the number of the week in it: weeks
begin on Monday and belong to the year of their Thursday. -/
def week (m : Moment) : Int × Nat :=
  let days := daysTo m.year m.month m.day
  let thursday := days - ((m.weekday + 6) % 7 : Nat) + 3
  let (year, _, _) := ofDays thursday
  (year, ((thursday - daysTo year 1 1) / 7).toNat + 1)

end Moment

/-- How a part of a moment is filled up and spelled. -/
structure Spelling where
  /-- What it is filled up with, if that is said. -/
  padding : Option Char := none
  /-- Whether letters are made large. -/
  isLarge : Bool := false
  /-- Whether the size of letters is turned. -/
  isTurned : Bool := false
  /-- The number of colons before the letter. -/
  colons : Nat := 0
  /-- The width, if one is given. -/
  width : Option Nat := none
  deriving DecidableEq, Repr

namespace Spelling

/-- A number, filled up with a character to a number of digits unless something else is
said. -/
def number (s : Spelling) (usual : Char) (digits : Nat) (n : Int) : String :=
  let width := s.width.getD digits
  let sign := if n < 0 then "-" else ""
  let text := toString n.natAbs
  match s.padding.getD usual with
  | '-' => sign ++ text
  | '_' => Octets.padLeft width (sign ++ text)
  | _ => sign ++ String.ofList (List.replicate (width - sign.length - text.length) '0') ++ text

/-- A text, filled up with blanks unless something else is said. -/
def text (s : Spelling) (t : String) : String :=
  let t := if s.isLarge then t.map Char.toUpper else t
  let width := s.width.getD 0
  if s.padding == some '0' then
    String.ofList (List.replicate (width - t.length) '0') ++ t
  else if s.padding == some '-' then t
  else Octets.padLeft width t

end Spelling

namespace Moment

/-- The part of a moment that a letter stands for, unless it stands for a format. -/
def part? (m : Moment) (s : Spelling) : Char → Option String
  | '%' => some "%"
  | 'n' => some "\n"
  | 't' => some "\t"
  | 'Y' => some (s.number '0' (if m.year < 0 then 5 else 4) m.year)
  | 'C' => some (s.number '0' 2 (m.year.fdiv 100))
  | 'y' => some (s.number '0' 2 (m.year % 100))
  | 'G' => some (s.number '0' 4 m.week.1)
  | 'g' => some (s.number '0' 2 (m.week.1 % 100))
  | 'm' => some (s.number '0' 2 m.month)
  | 'd' => some (s.number '0' 2 m.day)
  | 'e' => some (s.number '_' 2 m.day)
  | 'H' => some (s.number '0' 2 m.hour)
  | 'k' => some (s.number '_' 2 m.hour)
  | 'I' => some (s.number '0' 2 ((m.hour + 11) % 12 + 1 : Nat))
  | 'l' => some (s.number '_' 2 ((m.hour + 11) % 12 + 1 : Nat))
  | 'M' => some (s.number '0' 2 m.minute)
  | 'S' => some (s.number '0' 2 m.second)
  | 'N' =>
    let digits := String.ofList (List.replicate (9 - (toString m.nanosecond).length) '0') ++
      toString m.nanosecond
    let width := s.width.getD 9
    let kept := digits.toList.take width ++ List.replicate (width - 9) '0'
    let first := kept.take 1
    let short := first ++ (kept.tail.reverse.dropWhile fun c => c == '0').reverse
    some (match s.padding, s.width with
      | some '-', some _ => String.ofList short
      | some '_', _ => Octets.padRight width (String.ofList short)
      | _, _ => String.ofList kept)
  | 's' => some (s.number '0' 1 m.seconds)
  | 'j' => some (s.number '0' 3 m.yearDay)
  | 'q' => some (s.number '0' 1 ((m.month + 2) / 3 : Nat))
  | 'u' => some (s.number '0' 1 ((m.weekday + 6) % 7 + 1 : Nat))
  | 'w' => some (s.number '0' 1 m.weekday)
  | 'U' => some (s.number '0' 2 ((m.yearDay + 6 - m.weekday) / 7 : Nat))
  | 'W' => some (s.number '0' 2 ((m.yearDay + 6 - (m.weekday + 6) % 7) / 7 : Nat))
  | 'V' => some (s.number '0' 2 m.week.2)
  | 'a' => some ({ s with isLarge := s.isLarge || s.isTurned }.text
      (String.ofList (m.weekdayName.toList.take 3)))
  | 'A' => some ({ s with isLarge := s.isLarge || s.isTurned }.text m.weekdayName)
  | 'b' | 'h' => some ({ s with isLarge := s.isLarge || s.isTurned }.text
      (String.ofList (m.monthName.toList.take 3)))
  | 'B' => some ({ s with isLarge := s.isLarge || s.isTurned }.text m.monthName)
  | 'p' =>
    let t := if m.hour < 12 then "AM" else "PM"
    some (s.text (if s.isTurned then t.map Char.toLower else t))
  | 'P' => some (s.text (if m.hour < 12 then "am" else "pm"))
  | 'Z' => some (s.text (if s.isTurned then "utc" else "UTC"))
  | 'z' => some (match s.colons with
    | 0 => "+0000"
    | 1 => "+00:00"
    | 2 => "+00:00:00"
    | _ => "+00")
  | _ => none

/-- The format that a letter stands for. -/
def format? : Char → Option String
  | 'c' => some "%a %b %e %H:%M:%S %Y"
  | 'D' | 'x' => some "%m/%d/%y"
  | 'F' => some "%Y-%m-%d"
  | 'r' => some "%I:%M:%S %p"
  | 'R' => some "%H:%M"
  | 'T' | 'X' => some "%H:%M:%S"
  | _ => none

/-- The marks and the width after a percent sign, and the characters after them. -/
def spelling : List Char → Spelling → Spelling × List Char
  | [], s => (s, [])
  | c :: cs, s =>
    match c with
    | '-' | '_' | '+' => spelling cs { s with padding := some c }
    | '^' => spelling cs { s with isLarge := true }
    | '#' => spelling cs { s with isTurned := true }
    | ':' => spelling cs { s with colons := s.colons + 1 }
    | 'E' | 'O' => spelling cs s
    | c =>
      if c == '0' && s.width.isNone then spelling cs { s with padding := some '0' }
      else if c.isDigit then
        spelling cs { s with width := some (s.width.getD 0 * 10 + (c.toNat - 48)) }
      else (s, c :: cs)

/-- The text of a moment by a format, in at most `n` steps. -/
def textBy (m : Moment) : Nat → List Char → String
  | 0, _ => ""
  | _ + 1, [] => ""
  | n + 1, '%' :: cs =>
    match spelling cs {} with
    | (_, []) => "%" ++ String.ofList cs
    | (s, c :: rest) =>
      let text := match m.part? s c, format? c with
        | some text, _ => text
        | none, some format => s.text (m.textBy n format.toList)
        | none, none => "%" ++ String.ofList (cs.take (cs.length - rest.length))
      text ++ m.textBy n rest
  | n + 1, c :: cs => String.singleton c ++ m.textBy n cs

/-- The text of a moment by a format. -/
def text (m : Moment) (format : String) : String := m.textBy (format.length + 30) format.toList

end Moment

end CompileOrder.Shell
