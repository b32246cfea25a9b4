import FlowLines.Json.Fault
import FlowLines.Text.Digits

/-! Numbers in JSON.  A number keeps the digits that fit in 64 bits; with a point, an exponent or
more digits it becomes a floating-point number, scaled by a power of ten. -/

namespace FlowLines.Json

open FlowLines.Text (isDigit digitValue)

inductive Number
  | natural (value : Nat)
  | negative (value : Int)
  | float (value : Float)

def Number.shape : Number → Shape
  | .natural n => .integer n
  | .negative n => .integer n
  | .float x => .float x

/-- Takes digits into a significand as long as it stays below `2 ^ 64`. -/
def absorb (significand : Nat) : List Char → Nat × List Char
  | [] => (significand, [])
  | c :: r =>
    if isDigit c && 10 * significand + digitValue c < UInt64.size then
      absorb (10 * significand + digitValue c) r
    else (significand, c :: r)

/-- `x · 10 ^ exponent`, or `none` when that is infinite.  Every step is rounded, so the result
is near the exact one and need not be the nearest.  Each round of the fuel divides by `1e308`,
and the third leaves zero. -/
def scale : Nat → Float → Int → Option Float
  | 0, x, _ => some x
  | fuel + 1, x, exponent =>
    if exponent.natAbs ≤ 308 then
      let power := Float.ofScientific 1 false exponent.natAbs
      if 0 ≤ exponent then
        let y := x * power
        if y.isInf then none else some y
      else some (x / power)
    else if x == 0 then some x
    else if 0 ≤ exponent then none
    else scale fuel (x / Float.ofScientific 1 false 308) (exponent + 308)

def finish (positive : Bool) (significand : Nat) (exponent : Int) : Reader Number := fun s =>
  match scale 4 (UInt64.ofNat significand).toFloat exponent with
  | none => .error ⟨.numberOutOfRange, s, 0⟩
  | some x => .ok (.float (if positive then x else -x), s)

/-- The digits of an exponent, or `none` from the digit on at which it leaves 32 bits. -/
def readExponentDigits (exponent : Nat) : List Char → Option Nat × List Char
  | [] => (some exponent, [])
  | c :: r =>
    if isDigit c then
      if 10 * exponent + digitValue c < 0x80000000 then
        readExponentDigits (10 * exponent + digitValue c) r
      else (none, r)
    else (some exponent, c :: r)

def readExponent (positive : Bool) (significand : Nat) (start : Int) : Reader Number := fun s =>
  let (up, s) := match s with
    | '+' :: r => (true, r)
    | '-' :: r => (false, r)
    | s => (true, s)
  match s with
  | [] => .error ⟨.endInValue, [], 0⟩
  | c :: r =>
    if !isDigit c then .error ⟨.invalidNumber, c :: r, 1⟩
    else match readExponentDigits (digitValue c) r with
      | (some n, r) => finish positive significand (if up then start + n else start - n) r
      | (none, r) =>
        if significand != 0 && up then .error ⟨.numberOutOfRange, r, 0⟩
        else .ok (.float (if positive then 0.0 else -0.0), r.dropWhile isDigit)

def readScale (positive : Bool) (significand : Nat) (exponent : Int) : Reader Number
  | 'e' :: r => readExponent positive significand exponent r
  | 'E' :: r => readExponent positive significand exponent r
  | s => finish positive significand exponent s

/-- Digits for which the significand has no room are passed over. -/
def readFraction (positive : Bool) (significand : Nat) (exponent : Int) : Reader Number :=
  fun s =>
    let (kept, rest) := absorb significand s
    let taken := s.length - rest.length
    if rest.head?.any isDigit then
      readScale positive kept (exponent - taken) (rest.dropWhile isDigit)
    else if taken = 0 then
      .error ⟨if rest.isEmpty then .endInValue else .invalidNumber, rest, 1⟩
    else readScale positive kept (exponent - taken) rest

/-- A negative zero, or an integer beyond 64 bits, is a float. -/
def wholeNumber (positive : Bool) (significand : Nat) : Number :=
  if positive then .natural significand
  else if significand = 0 || 0x8000000000000000 < significand then
    .float (-(UInt64.ofNat significand).toFloat)
  else .negative (-(significand : Int))

def readNumber (positive : Bool) : Reader Number
  | [] => .error ⟨.endInValue, [], 0⟩
  | c :: r =>
    if c = '0' && r.head?.any isDigit then .error ⟨.invalidNumber, r, 1⟩
    else if !isDigit c then .error ⟨.invalidNumber, c :: r, 1⟩
    else
      let (significand, s) := absorb (digitValue c) r
      let dropped := (s.takeWhile isDigit).length
      match s.dropWhile isDigit with
      | '.' :: s => readFraction positive significand dropped s
      | 'e' :: s => readExponent positive significand dropped s
      | 'E' :: s => readExponent positive significand dropped s
      | s =>
        if dropped = 0 then .ok (wholeNumber positive significand, s)
        else finish positive significand dropped s

def skipDigits (s : List Char) : Option (List Char) :=
  if s.head?.any isDigit then some (s.dropWhile isDigit) else none

def skipExponent (s : List Char) : Except Stop (List Char) :=
  let s := match s with
    | '+' :: r => r
    | '-' :: r => r
    | s => s
  match skipDigits s with
  | some r => .ok r
  | none => .error ⟨.invalidNumber, s, 1⟩

def skipNumber : List Char → Except Stop (List Char)
  | [] => .error ⟨.invalidNumber, [], 0⟩
  | c :: r =>
    if c = '0' && r.head?.any isDigit then .error ⟨.invalidNumber, r, 1⟩
    else if !isDigit c then .error ⟨.invalidNumber, c :: r, 1⟩
    else match if c = '0' then r else r.dropWhile isDigit with
      | '.' :: s =>
        match skipDigits s with
        | none => .error ⟨.invalidNumber, s, 1⟩
        | some ('e' :: s) => skipExponent s
        | some ('E' :: s) => skipExponent s
        | some s => .ok s
      | 'e' :: s => skipExponent s
      | 'E' :: s => skipExponent s
      | s => .ok s

end FlowLines.Json
