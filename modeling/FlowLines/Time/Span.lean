import FlowLines.Text.Blank
import FlowLines.Text.Quoted
import FlowLines.Text.Utf8

/-! Lengths of time, as people write them: a sum of numbers with units, such as `1h 30m` or
`250ms`. -/

namespace FlowLines.Time

/-- Less than a thousand million nanoseconds beside fewer than `2 ^ 64` seconds. -/
structure Span where
  seconds : Nat := 0
  nanos : Nat := 0
  deriving DecidableEq, Repr, Inhabited

namespace Span

def second : Nat := 1000000000

def ofMillis (n : Nat) : Span := ⟨n / 1000, n % 1000 * 1000000⟩

def ofNanos (n : Nat) : Span := ⟨n / second, n % second⟩

def toNanos (s : Span) : Nat := s.seconds * second + s.nanos

def add (a b : Span) : Span := ofNanos (a.toNanos + b.toNanos)

instance : Add Span := ⟨add⟩

def withFraction (whole part places : Nat) : List Char :=
  let digits := Text.padLeft places (Text.decimal part)
  let kept := (digits.reverse.dropWhile (· = '0')).reverse
  Text.decimal whole ++ if part = 0 then [] else '.' :: kept

def write (s : Span) : List Char :=
  if 0 < s.seconds then withFraction s.seconds s.nanos 9 ++ ['s']
  else if 1000000 ≤ s.nanos then
    withFraction (s.nanos / 1000000) (s.nanos % 1000000) 6 ++ ['m', 's']
  else if 1000 ≤ s.nanos then withFraction (s.nanos / 1000) (s.nanos % 1000) 3 ++ ['µ', 's']
  else withFraction s.nanos 0 0 ++ ['n', 's']

inductive Unit
  | nanosecond | microsecond | millisecond | second | minute
  | hour | day | week | month | year
  deriving DecidableEq, Repr

def Unit.names : Unit → List String
  | .nanosecond => ["nanos", "nsec", "ns"]
  | .microsecond => ["usec", "us", "µs"]
  | .millisecond => ["millis", "msec", "ms"]
  | .second => ["seconds", "second", "secs", "sec", "s"]
  | .minute => ["minutes", "minute", "min", "mins", "m"]
  | .hour => ["hours", "hour", "hrs", "hr", "h"]
  | .day => ["days", "day", "d"]
  | .week => ["weeks", "week", "wks", "wk", "w"]
  | .month => ["months", "month", "M"]
  | .year => ["years", "year", "yrs", "yr", "y"]

def Unit.all : List Unit :=
  [.nanosecond, .microsecond, .millisecond, .second, .minute, .hour, .day, .week, .month, .year]

def Unit.ofName? (name : String) : Option Unit := Unit.all.find? (·.names.contains name)

/-- How many of the smaller unit, in which it is counted, a unit has.  A whole number of short
units is counted in nanoseconds, and of long units in seconds. -/
inductive Scale
  | nanos (count : Nat)
  | seconds (count : Nat)

def Unit.whole : Unit → Scale
  | .nanosecond => .nanos 1
  | .microsecond => .nanos 1000
  | .millisecond => .nanos 1000000
  | .second => .seconds 1
  | .minute => .seconds 60
  | .hour => .seconds 3600
  | .day => .seconds 86400
  | .week => .seconds 604800
  | .month => .seconds 2630016
  | .year => .seconds 31557600

/-- Fractions of seconds and minutes are counted in nanoseconds too; a nanosecond has none. -/
def Unit.parts : Unit → Option Scale
  | .nanosecond => none
  | .second => some (.nanos 1000000000)
  | .minute => some (.nanos 60000000000)
  | unit => some unit.whole

inductive Fault
  | empty
  | numberExpected (index : Nat)
  | invalidCharacter (index : Nat)
  | unknownUnit (unit : List Char) (value : Nat)
  | tooLarge
  deriving DecidableEq, Repr

def Fault.message : Fault → String
  | .empty => "value was empty"
  | .numberExpected i => s!"expected number at {i}"
  | .invalidCharacter i => s!"invalid character at {i}"
  | .unknownUnit unit value =>
    if unit.isEmpty then s!"time unit needed, for example {value}sec or {value}ms"
    else
      let name := String.ofList (Text.quoted unit)
      s!"unknown time unit {name}, supported units: ns, us/µs, ms, sec, min, hours, days, weeks, months, years (and few variations)"
  | .tooLarge => "number is too large or cannot be represented without a lack of precision (values below 1ns are not supported)"

open FlowLines.Text (isBlank isDigit digitValue)

def isUnitLetter (c : Char) : Bool := c.isAlpha || c = 'µ'

def fits (n : Nat) : Except Fault Nat := if n < UInt64.size then .ok n else .error .tooLarge

def addScaled (total : Span) (count : Nat) : Scale → Except Fault Span
  | .nanos k => do
    let nanos ← fits (total.nanos + (← fits (count * k)))
    return ⟨← fits (total.seconds + nanos / Span.second), nanos % Span.second⟩
  | .seconds k => do return ⟨← fits (total.seconds + (← fits (count * k))), total.nanos⟩

structure Fraction where
  numerator : Nat
  denominator : Nat

/-- A fraction of a unit has to be a whole number of the smaller one. -/
def addFraction (total : Span) (f : Fraction) (unit : Unit) : Except Fault Span := do
  let some scale := unit.parts | .error .tooLarge
  let k := match scale with
    | .nanos k => k
    | .seconds k => k
  let parts ← fits (f.numerator * k)
  if parts % f.denominator ≠ 0 then .error .tooLarge
  else match scale with
    | .nanos _ => addScaled total (parts / f.denominator) (.nanos 1)
    | .seconds _ => addScaled total (parts / f.denominator) (.seconds 1)

structure Amount where
  whole : Nat
  fraction : Option Fraction
  rest : List Char

def addAmount (total : Span) (a : Amount) (name : List Char) : Except Fault Span := do
  let some unit := Unit.ofName? (String.ofList name) | .error (.unknownUnit name a.whole)
  let total ← addScaled total a.whole unit.whole
  match a.fraction with
  | none => return total
  | some f => addFraction total f unit

section

variable (text : List Char)

def indexOf (rest : List Char) : Nat := Text.Utf8.size text - Text.Utf8.size rest

/-- A fault tells where the blanks before the number began. -/
def nextNumber (s : List Char) : Except Fault (Option (Nat × List Char)) :=
  match s.dropWhile isBlank with
  | [] => .ok none
  | c :: r =>
    if isDigit c then .ok (some (digitValue c, r)) else .error (.numberExpected (indexOf text s))

/-- A fault tells the character after the last that fitted, or the point when none did. -/
def readFraction (f : Fraction) (mark : List Char) : List Char → Except Fault (Fraction × List Char)
  | [] =>
    if f.denominator = 1 then .error (.invalidCharacter (indexOf text mark)) else .ok (f, [])
  | c :: r =>
    if isDigit c then do
      let denominator ← fits (10 * f.denominator)
      readFraction ⟨← fits (10 * f.numerator + digitValue c), denominator⟩ r r
    else if isBlank c then readFraction f r r
    else if isUnitLetter c && f.denominator ≠ 1 then .ok (f, c :: r)
    else .error (.invalidCharacter (indexOf text mark))

def readAmount (whole : Nat) : List Char → Except Fault Amount
  | [] => .ok ⟨whole, none, []⟩
  | c :: r =>
    if isDigit c then do readAmount (← fits (10 * whole + digitValue c)) r
    else if isBlank c then readAmount whole r
    else if isUnitLetter c then .ok ⟨whole, none, c :: r⟩
    else if c = '.' then do
      let (f, s) ← readFraction text ⟨0, 1⟩ (c :: r) r
      return ⟨whole, some f, s⟩
    else .error (.invalidCharacter (indexOf text (c :: r)))

def sumFrom : (fuel : Nat) → (total : Span) → (digit : Nat) → List Char → Except Fault Span
  | 0, total, _, _ => .ok total
  | fuel + 1, total, digit, s => do
    let amount ← readAmount text digit s
    let name := amount.rest.takeWhile isUnitLetter
    match amount.rest.dropWhile isUnitLetter with
    | [] => addAmount total amount name
    | c :: r =>
      if isDigit c then
        sumFrom fuel (← addAmount total amount name) (digitValue c) r
      else if isBlank c then
        let total ← addAmount total amount name
        match ← nextNumber text r with
        | none => return total
        | some (digit, s) => sumFrom fuel total digit s
      else .error (.invalidCharacter (indexOf text (c :: r)))

end

/-- A zero alone needs no unit. -/
def parse (text : List Char) : Except Fault Span := do
  if text = ['0'] then return {}
  match ← nextNumber text text with
  | none => .error .empty
  | some (digit, s) => sumFrom text text.length {} digit s

end Span

end FlowLines.Time
