/-!
# Dates and times as text

A moment is written as a date, one character between, a time of day and its distance from universal
time.  `isMoment` recognises such a text.  A minute has sixty seconds, but the last minute of a
month in universal time may have one more.
-/

namespace ObjectDocument.Calendar

def isLeapYear (year : Nat) : Bool :=
  year % 4 == 0 && (year % 100 != 0 || year % 400 == 0)

def daysOfMonth (year month : Nat) : Nat :=
  if month = 2 then if isLeapYear year then 29 else 28
  else if month ∈ [4, 6, 9, 11] then 30
  else 31

abbrev Scan := StateT (List Char) Option

def character (holds : Char → Bool) : Scan Char := do
  match ← get with
  | c :: rest => if holds c then set rest; return c else failure
  | [] => failure

def digits : Nat → Scan Nat
  | 0 => return 0
  | count + 1 => do
    let value ← digits count
    let c ← character Char.isDigit
    return 10 * value + (c.toNat - '0'.toNat)

def fraction : Scan Unit := do
  match ← get with
  | '.' :: rest =>
    if rest.head?.any Char.isDigit then set (rest.dropWhile Char.isDigit) else failure
  | _ => return

def distance : Scan Int := do
  let sign ← character ("Zz+-".toList.contains ·)
  if sign = 'Z' ∨ sign = 'z' then return 0
  else do
    let hours ← digits 2
    let _ ← character (· == ':')
    let minutes ← digits 2
    if hours ≤ 23 ∧ minutes ≤ 59 then
      return if sign = '-' then -(60 * hours + minutes) else (60 * hours + minutes)
    else failure

/-- Whether a moment lies in the last minute of a month in universal time: its date, its minute of
the day and the distance from universal time say so. -/
def endsMonth (year month day : Nat) (minute distance : Int) : Bool :=
  let universal := minute - distance
  universal % 1440 == 1439 &&
    match universal / 1440 with
    | 0 => day == daysOfMonth year month
    | 1 => day + 1 == daysOfMonth year month
    | _ => day == 1

def moment : Scan Unit := do
  let year ← digits 4
  let _ ← character (· == '-')
  let month ← digits 2
  let _ ← character (· == '-')
  let day ← digits 2
  let _ ← character (·.toNat < 128)
  let hour ← digits 2
  let _ ← character (· == ':')
  let minute ← digits 2
  let _ ← character (· == ':')
  let second ← digits 2
  fraction
  let distance ← distance
  let inRange := 1 ≤ month ∧ month ≤ 12 ∧ 1 ≤ day ∧ day ≤ daysOfMonth year month ∧
    hour ≤ 23 ∧ minute ≤ 59
  let extra := second = 60 ∧ endsMonth year month day (60 * hour + minute : Nat) distance
  if inRange ∧ (second ≤ 59 ∨ extra) then return else failure

def isMoment (text : List Char) : Bool :=
  match moment.run text with
  | some (_, rest) => rest.isEmpty
  | none => false

end ObjectDocument.Calendar
