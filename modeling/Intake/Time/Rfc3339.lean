import Intake.Time.Instant

/-! Timestamps in the form of RFC 3339: written in one way, read with some latitude. -/

namespace Intake

namespace Rfc3339

/-- A number in two digits. -/
def twoDigits (n : Nat) : String := String.ofList (paddedDigits 2 n)

/-- Years from 0 to 9999 take four digits, all others a sign and at least four. -/
def yearText (year : Int) : String :=
  if 0 ≤ year ∧ year ≤ 9999 then String.ofList (paddedDigits 4 year.toNat)
  else (if year < 0 then "-" else "+") ++ String.ofList (paddedDigits 4 year.natAbs)

/-- The fraction of a second in the fewest of 0, 3, 6 and 9 digits that are exact. -/
def fractionText (nanos : Nat) : String :=
  if nanos = 0 then ""
  else if nanos % 1000000 = 0 then "." ++ String.ofList (paddedDigits 3 (nanos / 1000000))
  else if nanos % 1000 = 0 then "." ++ String.ofList (paddedDigits 6 (nanos / 1000))
  else "." ++ String.ofList (paddedDigits 9 nanos)

/-- The one way to write an instant: its date and time of day at Greenwich. -/
def text (t : Instant) : String :=
  let seconds := t.nanos / 1000000000
  let date := Date.ofDays (seconds / 86400)
  let ofDay := (seconds % 86400).toNat
  -- A leap second is the sixtieth of its minute, counted from zero.
  let second := if t.leap then ofDay % 60 + 1 else ofDay % 60
  s!"{yearText date.year}-{twoDigits date.month}-{twoDigits date.day}T" ++
    s!"{twoDigits (ofDay / 3600)}:{twoDigits (ofDay / 60 % 60)}:{twoDigits second}" ++
    s!"{fractionText (t.nanos % 1000000000).toNat}Z"

/-- A reader takes a value off the front of the characters, or fails. -/
abbrev Reader := StateT (List Char) Option

/-- Passes over blanks. -/
def blanks : Reader Unit := modify dropBlanks

/-- Passes over one given character. -/
def literal (expected : Char) : Reader Unit := do
  match ← get with
  | c :: rest => if c = expected then set rest else failure
  | [] => failure

/-- Reads a number of at least one digit and at most so many. -/
def digits (limit : Nat) : Reader Nat := do
  let (value, count, rest) := readDigits limit (← get) 0
  if count = 0 then failure
  set rest
  return value

/-- Reads a number, blanks before it allowed. -/
def number (limit : Nat) : Reader Nat := do
  blanks
  digits limit

/-- Reads a year: at most four digits, or a sign and any number of them. -/
def year : Reader Int := do
  blanks
  match ← get with
  | '-' :: rest => set rest; return -(← digits rest.length)
  | '+' :: rest => set rest; return ← digits rest.length
  | _ => return ← digits 4

/-- Reads a fraction of a second in nanoseconds, passing over the digits after the ninth. -/
def fraction : Reader Nat := do
  match ← get with
  | '.' :: rest =>
    let (value, count, left) := readDigits 9 rest 0
    if count = 0 then failure
    set (left.dropWhile fun c => (digitValue? c).isSome)
    return value * Nat.pow 10 (9 - count)
  | _ => return 0

/-- Reads two digits that stand together. -/
def pair : Reader Nat := do
  match ← get with
  | a :: b :: rest =>
    let high ← digitValue? a
    let low ← digitValue? b
    set rest
    return high * 10 + low
  | _ => failure

/-- Reads the seconds by which a place is ahead of Greenwich. -/
def offset : Reader Int := do
  let cs ← get
  if (cs.take 3).map Char.toUpper = ['U', 'T', 'C'] then
    set (cs.drop 3)
    return 0
  match cs with
  | [] => failure
  | c :: rest =>
    set rest
    if c = 'Z' ∨ c = 'z' then return 0
    -- The minus sign proper, U+2212, serves as well as the hyphen.
    if c ≠ '+' ∧ c ≠ '-' ∧ c ≠ '−' then failure
    let hours ← pair
    modify (·.dropWhile fun c => c = ':' || isBlank c)
    let minutes ← pair
    if 59 < minutes then failure
    let distance : Int := hours * 3600 + minutes * 60
    return if c = '+' then distance else -distance

/-- Reads a date and the character that parts it from the time of day. -/
def date : Reader Date := do
  let year ← year
  blanks
  literal '-'
  let month ← number 2
  blanks
  literal '-'
  let day ← number 2
  match ← get with
  | c :: rest => if c = 'T' ∨ c = 't' ∨ c = ' ' then set rest else failure
  | [] => failure
  return ⟨year, month, day⟩

/-- A time of day as it is written: hour, minute, second, and nanoseconds. -/
structure TimeOfDay where
  hour : Nat
  minute : Nat
  second : Nat
  nanos : Nat

/-- Reads a time of day. -/
def timeOfDay : Reader TimeOfDay := do
  let hour ← number 2
  blanks
  literal ':'
  let minute ← number 2
  blanks
  literal ':'
  let second ← number 2
  let nanos ← fraction
  blanks
  return ⟨hour, minute, second, nanos⟩

/-- The instant of a date and a time of day at a place, absent when there is none. -/
def instant? (date : Date) (time : TimeOfDay) (offset : Int) : Option Instant := do
  guard date.isValid
  guard (-262143 ≤ date.year ∧ date.year ≤ 262142)
  guard (time.hour ≤ 23 ∧ time.minute ≤ 59 ∧ time.second ≤ 60)
  guard (-86400 < offset ∧ offset < 86400)
  -- Second 60 is a leap second, kept with the nanoseconds of the second before it.
  let leap := time.second = 60
  let second := if leap then 59 else time.second
  let seconds : Int := date.toDays * 86400 + time.hour * 3600 + time.minute * 60 + second
  Instant.ofParts? ((seconds - offset) * 1000000000 + time.nanos) leap

/-- Reads a timestamp, blanks allowed between its parts and at its ends. -/
def parse? (text : String) : Option Instant := do
  let ((date, time, offset), rest) ← StateT.run
    (do let date ← date
        let time ← timeOfDay
        let offset ← offset
        return (date, time, offset) : Reader _) text.toList
  guard (dropBlanks rest).isEmpty
  instant? date time offset

end Rfc3339

end Intake
