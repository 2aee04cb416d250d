import NodeVolumes.Json
import NodeVolumes.Text.Blank

/-! # Moments

Objects say when something happened: in universal time, to the second. A moment is read from a date, a
time and an offset from universal time; a fraction of a second is left out.

* `Date.dayNumber` counts the days up to a date, `Date.ofDayNumber` gives the date of a day.
* `Timestamp.ofText?` reads a moment, `Timestamp.text` writes it. -/

namespace NodeVolumes

/-! ### Dates -/

/-- A day of the Gregorian calendar, which is taken to reach back without end. -/
structure Date where
  year : Int
  month : Nat
  day : Nat
  deriving DecidableEq, Repr

namespace Date

/-- The days of a year, counted from its March, in front of a month with a number from March on. -/
def daysBefore (month : Nat) : Nat := (153 * month + 2) / 5

/-- The number of a date, counted from the first of March of the year zero. January and February count as
the last months of the year before, so that a leap day is the last day of its year. -/
def dayNumber (d : Date) : Int :=
  let year := if d.month ≤ 2 then d.year - 1 else d.year
  365 * year + year / 4 - year / 100 + year / 400 + daysBefore ((d.month + 9) % 12) + d.day - 1

/-- The date with a number. -/
def ofDayNumber (number : Int) : Date :=
  let day := (number % 146097).toNat
  let yearOfEra := (day - day / 1460 + day / 36524 - day / 146096) / 365
  let dayOfYear := day - (365 * yearOfEra + yearOfEra / 4 - yearOfEra / 100)
  let month := (5 * dayOfYear + 2) / 153
  { year := number / 146097 * 400 + yearOfEra + if month < 10 then 0 else 1
    month := if month < 10 then month + 3 else month - 9
    day := dayOfYear - daysBefore month + 1 }

/-- Tells the dates that the calendar has, within the years that a moment may lie in. -/
def isReal (d : Date) : Bool :=
  -262143 ≤ d.year && d.year ≤ 262142 && ofDayNumber d.dayNumber = d

example : (Date.mk 2024 2 29).isReal = true := by decide +kernel
example : (Date.mk 2023 2 29).isReal = false := by decide +kernel
example : ofDayNumber ((Date.mk 1999 12 31).dayNumber + 1) = ⟨2000, 1, 1⟩ := by decide +kernel

end Date

/-! ### Timestamps -/

/-- A moment in universal time, to the second. -/
structure Timestamp where
  date : Date
  /-- The second of the day. -/
  second : Nat
  /-- Whether the moment is the leap second that follows. -/
  leap : Bool
  deriving DecidableEq, Repr

namespace Timestamp

/-- A computation on the characters that are left. -/
abbrev Reader := StateT (List Char) Option

/-- Passes over blank characters. -/
def blanks : Reader Unit := modify Text.trimStart

/-- Takes the next character. -/
def next : Reader Char := do
  match ← get with
  | c :: rest => set rest; return c
  | [] => failure

/-- Takes a character that has to be one of some. -/
def oneOf (cs : List Char) : Reader Char := do
  let c ← next
  if cs.contains c then return c else failure

/-- Takes the digits in front, at most `most` of them and at least one. -/
def digits (most : Nat) : Reader Nat := do
  let ds := ((← get).take most).takeWhile Char.isDigit
  modify (List.drop ds.length)
  if ds = [] then failure else return digitsValue ds

/-- Takes a number of at most two digits, behind blanks. -/
def short : Reader Nat := do
  blanks
  digits 2

/-- Takes a year, behind blanks: four digits, or any number of them behind a sign. -/
def year : Reader Int := do
  blanks
  let cs ← get
  match cs with
  | '-' :: rest => set rest; return -((← digits cs.length) : Int)
  | '+' :: rest => set rest; return ((← digits cs.length) : Int)
  | _ => return ((← digits 4) : Int)

/-- Passes over a character between two numbers, behind blanks. -/
def between (c : Char) : Reader Unit := do
  blanks
  let _ ← oneOf [c]

/-- Passes over a fraction of a second, if there is one. -/
def fraction : Reader Unit := do
  let cs ← get
  if cs.head? = some '.' then
    set (cs.drop 1)
    let _ ← digits cs.length

/-- Takes exactly two digits. -/
def twoDigits : Reader Nat := do
  let cs := (← get).take 2
  if cs.length = 2 && cs.all Char.isDigit then digits 2 else failure

/-- Takes an offset from universal time and gives it in seconds: a sign, hours and minutes, or the name of
universal time. -/
def offset : Reader Int := do
  let cs ← get
  if (String.ofList (cs.take 3)).toUpper = "UTC" then
    set (cs.drop 3)
    return 0
  match ← next with
  | 'Z' | 'z' => return 0
  | '+' => return (← hoursAndMinutes)
  | '-' | '−' => return -(← hoursAndMinutes)
  | _ => failure
where
  /-- Takes hours and minutes, with colons and blanks between them, and gives them in seconds. -/
  hoursAndMinutes : Reader Int := do
    let hours ← twoDigits
    modify (List.dropWhile fun c => c == ':' || Text.isBlank c)
    let minutes ← twoDigits
    if hours < 24 ∧ minutes < 60 then return hours * 3600 + minutes * 60 else failure

/-- The moment at an offset from universal time that a date and the numbers of a time give. -/
def ofParts? (date : Date) (hour minute second : Nat) (offset : Int) : Option Timestamp :=
  if date.isReal ∧ hour < 24 ∧ minute < 60 ∧ second ≤ 60 then
    let total : Int := date.dayNumber * 86400 + hour * 3600 + minute * 60 + min second 59 - offset
    some ⟨.ofDayNumber (total / 86400), (total % 86400).toNat, second = 60⟩
  else none

/-- Takes a moment: a date, a mark or blank, a time and an offset. -/
def reader : Reader Timestamp := do
  let year ← year
  between '-'
  let month ← short
  between '-'
  let day ← short
  let _ ← oneOf ['T', 't', ' ']
  let hour ← short
  between ':'
  let minute ← short
  between ':'
  let second ← short
  fraction
  blanks
  let offset ← offset
  blanks
  if (← get) ≠ [] then failure
  ofParts? ⟨year, month, day⟩ hour minute second offset

/-- The moment that a text stands for. -/
def ofText? (s : String) : Option Timestamp := (reader.run s.toList).map (·.1)

/-- A number with zeros in front, so that it has at least `width` digits. -/
def padded (width n : Nat) : String :=
  String.ofList ((Nat.toDigits 10 n).leftpad width '0')

/-- A year with four digits; one that has more, or is negative, with a sign. -/
def yearText (year : Int) : String :=
  let sign := if year < 0 then "-" else if 9999 < year then "+" else ""
  sign ++ padded 4 year.natAbs

/-- The text of a moment in universal time. -/
def text (t : Timestamp) : String :=
  let seconds := t.second % 60 + if t.leap then 1 else 0
  yearText t.date.year ++ "-" ++ padded 2 t.date.month ++ "-" ++ padded 2 t.date.day ++ "T" ++
    padded 2 (t.second / 3600) ++ ":" ++ padded 2 (t.second / 60 % 60) ++ ":" ++ padded 2 seconds ++ "Z"

/-- A moment as JSON. -/
def toJson (t : Timestamp) : Json := .string t.text

example : (ofText? "2024-03-01T00:15:00+00:30").map text = some "2024-02-29T23:45:00Z" := by
  decide +kernel
example : (ofText? "9999-12-31 23:59:60.5 -01:00").map text = some "+10000-01-01T00:59:60Z" := by
  decide +kernel
example : ofText? "2024-02-30T00:00:00Z" = none := by decide +kernel

end Timestamp

/-- The moment under a key. -/
def Json.time (j : Json) (key : String) : Option Timestamp := (j.text key).bind Timestamp.ofText?

end NodeVolumes
