/-! The proleptic Gregorian calendar: dates, and the days between them. -/

namespace FlowLines.Time

structure Date where
  year : Int
  month : Nat
  day : Nat
  deriving DecidableEq, Repr

def isLeap (year : Int) : Bool := year % 4 = 0 && (year % 100 ≠ 0 || year % 400 = 0)

def monthLength (year : Int) (month : Nat) : Nat :=
  if month = 2 then if isLeap year then 29 else 28
  else if month = 4 || month = 6 || month = 9 || month = 11 then 30
  else 31

def isYear (year : Int) : Bool := -262143 ≤ year && year ≤ 262142

def Date.IsValid (d : Date) : Prop :=
  isYear d.year ∧ 1 ≤ d.month ∧ d.month ≤ 12 ∧ 1 ≤ d.day ∧ d.day ≤ monthLength d.year d.month

instance (d : Date) : Decidable d.IsValid := by unfold Date.IsValid; infer_instance

/-- The days before the first of March of a year, counted from the year zero.  Years that begin
in March have their leap day at the end. -/
def daysBeforeMarch (year : Int) : Int := 365 * year + year / 4 - year / 100 + year / 400

/-- The days of a year from March on that lie before a month, March being month zero. -/
def daysBeforeMonth (month : Nat) : Nat := (153 * month + 2) / 5

/-- The day number of 1970-01-01 when the first of March of the year zero is day zero. -/
def epoch : Int := 719468

def Date.toDays (d : Date) : Int :=
  let month := (d.month + 9) % 12
  let year := if d.month ≤ 2 then d.year - 1 else d.year
  daysBeforeMarch year + daysBeforeMonth month + (d.day - 1) - epoch

def Date.ofDays (days : Int) : Date :=
  let n := days + epoch
  let era := n / 146097
  let inEra := (n % 146097).toNat
  let yearOfEra := (inEra - inEra / 1460 + inEra / 36524 - inEra / 146096) / 365
  let inYear := inEra - (365 * yearOfEra + yearOfEra / 4 - yearOfEra / 100)
  let month := (5 * inYear + 2) / 153
  let year : Int := yearOfEra + era * 400
  { year := if 10 ≤ month then year + 1 else year
    month := if month < 10 then month + 3 else month - 9
    day := inYear - daysBeforeMonth month + 1 }

end FlowLines.Time
