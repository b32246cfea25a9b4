import FlowLines.Text.Blank
import FlowLines.Text.Digits
import FlowLines.Text.Utf8
import FlowLines.Time.Calendar

/-! Instants in universal time, to the nanosecond, with the texts they are read from and written
as. -/

namespace FlowLines.Time

/-- `second` counts within the day.  In a leap second, which lasts from the end of second 59 of
any minute, `nano` runs on from a thousand million. -/
structure Instant where
  day : Int
  second : Nat
  nano : Nat
  deriving DecidableEq, Repr

structure LocalTime where
  date : Date
  hour : Nat
  minute : Nat
  second : Nat
  nano : Nat
  deriving DecidableEq, Repr

def LocalTime.secondOfDay (t : LocalTime) : Nat := 3600 * t.hour + 60 * t.minute + t.second

/-- Minutes east of Greenwich are taken off, which leaves the second of the minute alone. -/
def Instant.ofLocal (t : LocalTime) (offsetMinutes : Int) : Instant :=
  let s := t.secondOfDay - 60 * offsetMinutes
  ⟨t.date.toDays + s / 86400, (s % 86400).toNat, t.nano⟩

def Instant.toLocal (i : Instant) : LocalTime :=
  ⟨Date.ofDays i.day, i.second / 3600, i.second / 60 % 60, i.second % 60, i.nano⟩

inductive ZeroOffset
  | letter
  | digits

def ZeroOffset.text : ZeroOffset → List Char
  | .letter => ['Z']
  | .digits => "+00:00".toList

open FlowLines.Text (decimal padLeft)

def writeYear (year : Int) : List Char :=
  let digits := padLeft 4 (decimal year.natAbs)
  if year < 0 then '-' :: digits else if 9999 < year then '+' :: digits else digits

def writeFraction (nano : Nat) : List Char :=
  if nano = 0 then []
  else if nano % 1000000 = 0 then '.' :: padLeft 3 (decimal (nano / 1000000))
  else if nano % 1000 = 0 then '.' :: padLeft 6 (decimal (nano / 1000))
  else '.' :: padLeft 9 (decimal nano)

def LocalTime.write (t : LocalTime) : List Char :=
  let leap := t.nano / 1000000000
  writeYear t.date.year ++ '-' :: padLeft 2 (decimal t.date.month) ++
    '-' :: padLeft 2 (decimal t.date.day) ++
    'T' :: padLeft 2 (decimal t.hour) ++ ':' :: padLeft 2 (decimal t.minute) ++
    ':' :: padLeft 2 (decimal (t.second + leap)) ++ writeFraction (t.nano % 1000000000)

def Instant.write (zero : ZeroOffset) (i : Instant) : List Char := i.toLocal.write ++ zero.text

namespace Instant

inductive Fault
  | invalid
  | tooShort
  | tooLong
  | outOfRange
  | impossible
  deriving DecidableEq, Repr

def Fault.message : Fault → String
  | .invalid => "input contains invalid characters"
  | .tooShort => "premature end of input"
  | .tooLong => "trailing input"
  | .outOfRange => "input is out of range"
  | .impossible => "no possible date and time matching input"

abbrev Reader (α : Type) := List Char → Except Fault (α × List Char)

open FlowLines.Text (isDigit ofDigits trimStart)

/-- At least one digit, and at most `width` of them if there is a width.  A number of more than
63 bits is out of range. -/
def readNumber (width : Option Nat) : Reader Nat := fun s =>
  let digits := ((width.map s.take).getD s).takeWhile isDigit
  if s.isEmpty then .error .tooShort
  else if digits.isEmpty then .error .invalid
  else
    let n := ofDigits digits
    if n < 0x8000000000000000 then .ok (n, s.drop digits.length) else .error .outOfRange

def readPart (low high : Nat) : Reader Nat := fun s => do
  let (n, s) ← readNumber (some 2) (trimStart s)
  if low ≤ n && n ≤ high then .ok (n, s) else .error .outOfRange

/-- With a sign a year may have any number of digits, else four. -/
def readYear : Reader Int := fun s => do
  let (n, s) ← match trimStart s with
    | '-' :: s => (fun (n, s) => (-(n : Int), s)) <$> readNumber none s
    | '+' :: s => (fun (n, s) => ((n : Int), s)) <$> readNumber none s
    | s => (fun (n, s) => ((n : Int), s)) <$> readNumber (some 4) s
  if -0x80000000 ≤ n && n < 0x80000000 then .ok (n, s) else .error .outOfRange

def readMark (mark : Char) (s : List Char) : Except Fault (List Char) :=
  match trimStart s with
  | [] => .error .tooShort
  | c :: s => if c = mark then .ok s else .error .invalid

def readBetween : List Char → Except Fault (List Char)
  | [] => .error .tooShort
  | c :: s => if c = 't' || c = 'T' || c = ' ' then .ok s else .error .invalid

/-- Digits after the ninth are passed over. -/
def readFraction : Reader Nat
  | '.' :: s => do
    let (n, r) ← readNumber (some 9) s
    .ok (n * Nat.pow 10 (9 - (s.length - r.length)), r.dropWhile isDigit)
  | s => .ok (0, s)

/-- The end of the text is told from other characters by bytes. -/
def readTwoDigits : Reader Nat := fun s =>
  if FlowLines.Text.Utf8.size (s.take 2) < 2 then .error .tooShort
  else match s with
    | a :: b :: r => if isDigit a && isDigit b then .ok (ofDigits [a, b], r) else .error .invalid
    | _ => .error .invalid

def readOffset : Reader Int := fun s => do
  let (sign, s) ← match s with
    | [] => .error .tooShort
    | '+' :: s => .ok (1, s)
    | '-' :: s => .ok (-1, s)
    | c :: s => if c = '\u2212' then .ok ((-1 : Int), s) else .error .invalid
  let (hours, s) ← readTwoDigits s
  let (minutes, s) ← readTwoDigits (s.dropWhile fun c => c = ':' || FlowLines.Text.isBlank c)
  if minutes < 60 then .ok (sign * (60 * hours + minutes), s) else .error .outOfRange

def readZone : Reader Int := fun s =>
  match s with
  | 'Z' :: s => .ok (0, s)
  | 'z' :: s => .ok (0, s)
  | s =>
    if (s.take 3).map Char.toUpper = ['U', 'T', 'C'] then .ok (0, s.drop 3)
    else readOffset s

def readLocal : Reader LocalTime := fun s => do
  let (year, s) ← readYear s
  let (month, s) ← readPart 1 12 (← readMark '-' s)
  let (day, s) ← readPart 1 31 (← readMark '-' s)
  let (hour, s) ← readPart 0 23 (← readBetween s)
  let (minute, s) ← readPart 0 59 (← readMark ':' s)
  let (second, s) ← readPart 0 60 (← readMark ':' s)
  let (nano, s) ← readFraction s
  let leap := second / 60
  .ok (⟨⟨year, month, day⟩, hour, minute, second - leap, nano + leap * 1000000000⟩, s)

def parse (text : List Char) : Except Fault Instant := do
  let (time, s) ← readLocal text
  let (offset, s) ← readZone (trimStart s)
  if !(trimStart s).isEmpty then .error .tooLong
  else if ¬ time.date.IsValid then .error .outOfRange
  else if ¬ (-1440 < offset ∧ offset < 1440) then .error .outOfRange
  else
    let instant := Instant.ofLocal time offset
    if isYear (Date.ofDays instant.day).year then .ok instant else .error .impossible

end Instant

end FlowLines.Time
