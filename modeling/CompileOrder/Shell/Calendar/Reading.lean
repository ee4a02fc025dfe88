import CompileOrder.Shell.Calendar

/-!
# Times in words

A time is described by items in any order: a date, a time of day with an offset, a day of
the week, and distances from there such as `2 days ago` or `next month`. An item that is
missing is taken from the present, except that a date or a day of the week without a time
of day means its start. A number after the sign `@` counts seconds.
-/

namespace CompileOrder.Shell.Calendar

/-- A word, number or sign of a description. -/
inductive Item where
  /-- A word in small letters, without points. -/
  | word (text : String)
  /-- The digits of a number. -/
  | number (digits : List Char)
  /-- Any other character. -/
  | sign (c : Char)
  deriving DecidableEq, Repr

/-- The items of a text, in at most `n` steps; blanks are kept as signs. -/
def itemsFrom : Nat → List Char → List Item
  | 0, _ => []
  | _ + 1, [] => []
  | n + 1, c :: cs =>
    if c.isDigit then
      let more := cs.takeWhile Char.isDigit
      .number (c :: more) :: itemsFrom n (cs.drop more.length)
    else if c.isAlpha then
      let more := cs.takeWhile fun c => c.isAlpha || c == '.'
      .word (String.ofList (((c :: more).filter fun c => c != '.').map Char.toLower)) ::
        itemsFrom n (cs.drop more.length)
    else if Octets.isSpace c then
      .sign ' ' :: itemsFrom n (cs.dropWhile Octets.isSpace)
    else .sign c :: itemsFrom n cs

/-- The items of a text. -/
def items (text : String) : List Item := itemsFrom (text.length + 1) text.toList

/-- What has been read of a description. -/
structure Draft where
  /-- Year, month and day. -/
  date : Option (Option Int × Nat × Nat) := none
  /-- Hour, minute, second and nanosecond. -/
  time : Option (Nat × Nat × Nat × Nat) := none
  /-- The offset from universal time in seconds. -/
  zone : Option Int := none
  /-- How many times a day of the week comes, and the day. -/
  weekday : Option (Int × Nat) := none
  /-- Whether there are distances. -/
  hasDistance : Bool := false
  /-- A distance in months. -/
  months : Int := 0
  /-- A distance in days. -/
  days : Int := 0
  /-- A distance in seconds. -/
  seconds : Int := 0
  deriving DecidableEq, Repr

namespace Draft

/-- The day, month, year or part of a day that a distance is counted in: months, days and
seconds of one. -/
def unit? (word : String) : Option (Int × Int × Int) :=
  let word := if word.length > 3 && word.toList.getLast? == some 's' then
      String.ofList word.toList.dropLast else word
  match word with
  | "year" => some (12, 0, 0)
  | "month" => some (1, 0, 0)
  | "fortnight" => some (0, 14, 0)
  | "week" => some (0, 7, 0)
  | "day" => some (0, 1, 0)
  | "hour" => some (0, 0, 3600)
  | "minute" | "min" => some (0, 0, 60)
  | "second" | "sec" => some (0, 0, 1)
  | _ => none

/-- The month that a word names, from 1. -/
def month? (word : String) : Option Nat :=
  let names := Moment.months.map fun m => m.map Char.toLower
  (names.findIdx? fun m => m == word || String.ofList (m.toList.take 3) == word ||
    (word == "sept" && m == "september")).map (· + 1)

/-- The day of the week that a word names. -/
def weekday? (word : String) : Option Nat :=
  let names := Moment.weekdays.map fun d => d.map Char.toLower
  names.findIdx? fun d => d == word || String.ofList (d.toList.take 3) == word ||
    (word == "tues" && d == "tuesday") || (word == "wednes" && d == "wednesday") ||
    (word == "thur" && d == "thursday") || (word == "thurs" && d == "thursday")

/-- The number that a word such as `next` stands for. -/
def ordinal? : String → Option Int
  | "last" => some (-1)
  | "this" => some 0
  | "next" | "first" => some 1
  | "third" => some 3
  | "fourth" => some 4
  | "fifth" => some 5
  | "sixth" => some 6
  | "seventh" => some 7
  | "eighth" => some 8
  | "ninth" => some 9
  | "tenth" => some 10
  | "eleventh" => some 11
  | "twelfth" => some 12
  | _ => none

/-- A distance is added. -/
def move (d : Draft) (count : Int) (unit : Int × Int × Int) : Draft :=
  { d with
    hasDistance := true
    months := d.months + count * unit.1
    days := d.days + count * unit.2.1
    seconds := d.seconds + count * unit.2.2 }

/-- A date is set, unless there is one. -/
def setDate? (d : Draft) (year : Option Int) (month day : Nat) : Option Draft :=
  if d.date.isSome then none else some { d with date := some (year, month, day) }

/-- A time of day is set, unless there is one. -/
def setTime? (d : Draft) (hour minute second nanosecond : Nat) : Option Draft :=
  if d.time.isSome || 23 < hour || 59 < minute || 60 < second then none
  else some { d with time := some (hour, minute, second, nanosecond) }

end Draft

/-- The year that digits spell; two of them mean one of the hundred years up to 2068. -/
def yearOf (digits : List Char) : Int :=
  let n : Int := Octets.number digits
  if digits.length ≤ 2 then if n < 69 then n + 2000 else n + 1900 else n

/-- The nanoseconds that decimals of a second spell. -/
def nanosecondsOf (digits : List Char) : Nat :=
  Octets.number (digits.take 9 ++ List.replicate (9 - digits.length) '0')

/-- The hour of a clock with twelve hours. -/
def hourOf? (hour : Nat) (half : String) : Option Nat :=
  if hour == 0 || 12 < hour then none
  else some (hour % 12 + if half == "pm" then 12 else 0)

/-- The items without blanks and commas at their start. -/
def skip (is : List Item) : List Item := is.dropWhile fun i => i == .sign ' ' || i == .sign ','

/-- The offset from universal time after a sign, and the items after it. -/
def zoneAfter (sign : Int) (ds : List Char) (rest : List Item) : Int × List Item :=
  match rest with
  | .sign ':' :: .number ms :: rest =>
    (sign * (Octets.number ds * 3600 + Octets.number ms * 60 : Nat), rest)
  | rest =>
    let n := Octets.number ds
    (sign * (if ds.length ≤ 2 then n * 3600 else (n / 100) * 3600 + (n % 100) * 60 : Nat), rest)

/-- What may stand right after a time of day: one of its halves or an offset. -/
def afterTime? (d : Draft) (hour minute second nanosecond : Nat) (is : List Item) :
    Option (Draft × List Item) :=
  match skip is with
  | .word "am" :: rest => do
    return (← d.setTime? (← hourOf? hour "am") minute second nanosecond, rest)
  | .word "pm" :: rest => do
    return (← d.setTime? (← hourOf? hour "pm") minute second nanosecond, rest)
  | .sign '+' :: .number ds :: rest => do
    let (zone, rest) := zoneAfter 1 ds rest
    return ({ ← d.setTime? hour minute second nanosecond with zone := some zone }, rest)
  | .sign '-' :: .number ds :: rest => do
    let (zone, rest) := zoneAfter (-1) ds rest
    return ({ ← d.setTime? hour minute second nanosecond with zone := some zone }, rest)
  | _ => do return (← d.setTime? hour minute second nanosecond, is)

/-- A number that belongs to no other item: a year after a date without one, a date of
eight digits, or a time of day. -/
def bareNumber? (d : Draft) (ds : List Char) : Option Draft :=
  let n := Octets.number ds
  match d.date with
  | some (none, month, day) =>
    if !d.hasDistance && (d.time.isSome || 2 < ds.length) then
      some { d with date := some (some (yearOf ds), month, day) }
    else if ds.length ≤ 2 then d.setTime? n 0 0 0
    else if ds.length ≤ 4 then d.setTime? (n / 100) (n % 100) 0 0
    else none
  | date =>
    if 4 < ds.length then
      if date.isSome then none
      else d.setDate? (some (yearOf (ds.take (ds.length - 4)))) (n / 100 % 100) (n % 100)
    else if ds.length ≤ 2 then d.setTime? n 0 0 0
    else d.setTime? (n / 100) (n % 100) 0 0

/-- What begins with a number is read. -/
def readNumber? (d : Draft) (ds : List Char) (rest : List Item) : Option (Draft × List Item) :=
  let n := Octets.number ds
  match rest with
  | .sign ':' :: .number ms :: .sign ':' :: .number ss :: .sign '.' :: .number fs :: rest
  | .sign ':' :: .number ms :: .sign ':' :: .number ss :: .sign ',' :: .number fs :: rest =>
    afterTime? d n (Octets.number ms) (Octets.number ss) (nanosecondsOf fs) rest
  | .sign ':' :: .number ms :: .sign ':' :: .number ss :: rest =>
    afterTime? d n (Octets.number ms) (Octets.number ss) 0 rest
  | .sign ':' :: .number ms :: rest => afterTime? d n (Octets.number ms) 0 0 rest
  | .sign '-' :: .number ms :: .sign '-' :: .number days :: rest => do
    return (← d.setDate? (some (yearOf ds)) (Octets.number ms) (Octets.number days), rest)
  | .sign '-' :: .word w :: .sign '-' :: .number ys :: rest => do
    return (← d.setDate? (some (yearOf ys)) (← Draft.month? w) n, rest)
  | .sign '/' :: .number ms :: .sign '/' :: .number ys :: rest => do
    if 4 ≤ ds.length then
      return (← d.setDate? (some n) (Octets.number ms) (Octets.number ys), rest)
    else return (← d.setDate? (some (yearOf ys)) n (Octets.number ms), rest)
  | .sign '/' :: .number ms :: rest => do
    return (← d.setDate? none n (Octets.number ms), rest)
  | rest =>
    match skip rest with
    | .word w :: after =>
      match Draft.unit? w, Draft.month? w with
      | some unit, _ => some (d.move n unit, after)
      | none, some month =>
        match skip after with
        | .number ys :: .sign ':' :: more => do
          return (← d.setDate? none month n, .number ys :: .sign ':' :: more)
        | .number ys :: more => do
          return (← d.setDate? (some (yearOf ys)) month n, more)
        | _ => do return (← d.setDate? none month n, after)
      | none, none =>
        if w == "am" || w == "pm" then do
          return (← d.setTime? (← hourOf? n w) 0 0 0, after)
        else do return (← bareNumber? d ds, rest)
    | _ => do return (← bareNumber? d ds, rest)

/-- What begins with a word is read. -/
def readWord? (d : Draft) (w : String) (rest : List Item) : Option (Draft × List Item) :=
  match w with
  | "now" | "today" => some ({ d with hasDistance := true }, rest)
  | "yesterday" => some (d.move (-1) (0, 1, 0), rest)
  | "tomorrow" => some (d.move 1 (0, 1, 0), rest)
  | "ago" =>
    some ({ d with months := -d.months, days := -d.days, seconds := -d.seconds }, rest)
  | "z" | "utc" | "gmt" | "ut" =>
    if d.zone.isSome then none else some ({ d with zone := some 0 }, rest)
  | "t" =>
    match rest with
    | .number ds :: rest => if d.date.isSome then readNumber? d ds rest else none
    | _ => none
  | w =>
    match Draft.ordinal? w, Draft.month? w, Draft.weekday? w, Draft.unit? w with
    | some count, _, _, _ =>
      match skip rest with
      | .word u :: after =>
        match Draft.unit? u, Draft.weekday? u with
        | some unit, _ => some (d.move count unit, after)
        | none, some day =>
          if d.weekday.isSome then none else some ({ d with weekday := some (count, day) }, after)
        | none, none => none
      | _ => none
    | none, some month, _, _ =>
      match skip rest with
      | .number ds :: .sign ':' :: more => do
        return (← d.setDate? none month 1, .number ds :: .sign ':' :: more)
      | .number ds :: after =>
        match after with
        | .sign ',' :: more =>
          match skip more with
          | .number ys :: more => do
            return (← d.setDate? (some (yearOf ys)) month (Octets.number ds), more)
          | _ => do return (← d.setDate? none month (Octets.number ds), more)
        | _ => do return (← d.setDate? none month (Octets.number ds), after)
      | _ => none
    | none, none, some day, _ =>
      if d.weekday.isSome then none else some ({ d with weekday := some (0, day) }, rest)
    | none, none, none, some unit => some (d.move 1 unit, rest)
    | none, none, none, none => none

/-- The items are read, in at most `n` steps. -/
def readItems? : Nat → Draft → List Item → Option Draft
  | 0, d, is => if (skip is).isEmpty then some d else none
  | n + 1, d, is =>
    match skip is with
    | [] => some d
    | .number ds :: rest => do
      let (d, rest) ← readNumber? d ds rest
      readItems? n d rest
    | .word w :: rest => do
      let (d, rest) ← readWord? d w rest
      readItems? n d rest
    | .sign c :: rest =>
      match skip rest with
      | .number ds :: more =>
        if c == '+' || c == '-' then
          let count : Int := if c == '-' then -(Octets.number ds : Int) else Octets.number ds
          match skip more with
          | .word w :: after =>
            match Draft.unit? w with
            | some unit => readItems? n (d.move count unit) after
            | none => none
          | _ => none
        else none
      | _ => none

/-- The time that a draft means at present. -/
def Draft.time? (now : Time) (d : Draft) : Option Time := do
  let here := Moment.ofTime now
  let keepsTime := d.hasDistance && d.date.isNone && d.weekday.isNone
  let (year, month, day) := match d.date with
    | some (year, month, day) => (year.getD here.year, month, day)
    | none => (here.year, here.month, here.day)
  let (hour, minute, second, nanosecond) := match d.time with
    | some t => t
    | none =>
      if keepsTime then (here.hour, here.minute, here.second, here.nanosecond) else (0, 0, 0, 0)
  if month == 0 || 12 < month || Moment.ofDays (Moment.daysTo year month day) != (year, month, day)
  then none
  let months := year * 12 + (month - 1 : Nat) + d.months
  let year := months.fdiv 12
  let month := (months - year * 12).toNat + 1
  let start := Moment.daysTo year month 1 + (day - 1 : Nat) + d.days
  let ahead : Int := match d.weekday, d.date with
    | some (count, wanted), none =>
      let current := ((start + 4) % 7).toNat
      ((wanted + 7 - current) % 7 : Nat) +
        7 * (count - if 0 < count && current != wanted then 1 else 0)
    | _, _ => 0
  let seconds := (start + ahead) * 86400 + (hour * 3600 + minute * 60 + second : Nat) +
    d.seconds - d.zone.getD 0
  return seconds * Time.second + nanosecond

/-- The time of a number of seconds. -/
def secondsTime? (text : String) : Option Time :=
  let (isNegative, cs) := match text.toList with
    | '-' :: cs => (true, cs)
    | '+' :: cs => (false, cs)
    | cs => (false, cs)
  let whole := cs.takeWhile Char.isDigit
  let decimals? := match cs.drop whole.length with
    | [] => some []
    | c :: ds => if (c == '.' || c == ',') && !ds.isEmpty && ds.all Char.isDigit then some ds
      else none
  if whole.isEmpty then none
  else decimals?.map fun ds =>
    let time : Time := Octets.number whole * Time.second + nanosecondsOf ds
    if isNegative then -time else time

/-- The time that a text describes at present. -/
def read? (now : Time) (text : String) : Option Time :=
  match text.toList.dropWhile Octets.isSpace with
  | '@' :: cs => secondsTime? (String.ofList cs)
  | cs => do
    let is := itemsFrom (cs.length + 1) cs
    let d ← readItems? (is.length + 1) {} is
    d.time? now

end CompileOrder.Shell.Calendar
