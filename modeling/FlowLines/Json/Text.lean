import FlowLines.Json.Fault
import FlowLines.Text.Digits

/-! Strings in JSON: reading them, passing over them, and writing them. -/

namespace FlowLines.Json

/-- Where other characters stand in place of the digits all four bytes are passed. -/
def readHex : Reader Nat := fun s =>
  let digits := s.take 4
  match if digits.length = 4 then FlowLines.Text.ofBase? 16 digits else none with
  | some n => .ok (n, s.drop 4)
  | none =>
    if 4 ≤ FlowLines.Text.Utf8.size digits then .error ⟨.invalidEscape, s, 4⟩
    else .error ⟨.endInString, [], 0⟩

def isHighSurrogate (n : Nat) : Bool := 0xD800 ≤ n && n ≤ 0xDBFF

def isLowSurrogate (n : Nat) : Bool := 0xDC00 ≤ n && n ≤ 0xDFFF

/-- A character beyond 16 bits is written as a pair of surrogates, and no surrogate stands alone. -/
def readUnicodeEscape : Reader Char := fun s => do
  let (n, s) ← readHex s
  if isLowSurrogate n then .error ⟨.loneSurrogate, s, 0⟩
  else if !isHighSurrogate n then .ok (Char.ofNat n, s)
  else match s with
    | [] => .error ⟨.endInString, [], 0⟩
    | '\\' :: [] => .error ⟨.endInString, [], 0⟩
    | '\\' :: 'u' :: s => do
      let (m, s) ← readHex s
      if isLowSurrogate m then
        .ok (Char.ofNat ((n - 0xD800) * 0x400 + (m - 0xDC00) + 0x10000), s)
      else .error ⟨.loneSurrogate, s, 0⟩
    | '\\' :: s => .error ⟨.endOfSurrogatePair, s, 1⟩
    | s => .error ⟨.endOfSurrogatePair, s, 1⟩

def simpleEscape? (c : Char) : Option Char :=
  if c = '"' then some '"'
  else if c = '\\' then some '\\'
  else if c = '/' then some '/'
  else if c = 'b' then some '\x08'
  else if c = 'f' then some '\x0C'
  else if c = 'n' then some '\n'
  else if c = 'r' then some '\r'
  else if c = 't' then some '\t'
  else none

def readEscape : Reader Char
  | [] => .error ⟨.endInString, [], 0⟩
  | c :: r =>
    if c = 'u' then readUnicodeEscape r
    else match simpleEscape? c with
      | some d => .ok (d, r)
      | none => .error ⟨.invalidEscape, c :: r, 1⟩

/-- `done` holds what was read, last first.  Every step takes a character, so the text is a bound
for the steps. -/
def readStringLoop : (bound : List Char) → (done : List Char) → Reader (List Char)
  | [], _, _ => .error ⟨.endInString, [], 0⟩
  | _ :: _, _, [] => .error ⟨.endInString, [], 0⟩
  | _ :: bound, done, c :: r =>
    if c = '"' then .ok (done.reverse, r)
    else if c = '\\' then do
      let (d, r) ← readEscape r
      readStringLoop bound (d :: done) r
    else if c.toNat < 0x20 then .error ⟨.controlCharacter, r, 0⟩
    else readStringLoop bound (c :: done) r

def readString : Reader (List Char) := fun s => readStringLoop s [] s

/-- The digits after `\u` have to be digits, but need not be a character: nobody asks for it. -/
def skipEscape : List Char → Except Stop (List Char)
  | [] => .error ⟨.endInString, [], 0⟩
  | c :: r =>
    if c = 'u' then (·.2) <$> readHex r
    else if (simpleEscape? c).isSome then .ok r
    else .error ⟨.invalidEscape, c :: r, 1⟩

def skipStringLoop : (bound : List Char) → List Char → Except Stop (List Char)
  | [], _ => .error ⟨.endInString, [], 0⟩
  | _ :: _, [] => .error ⟨.endInString, [], 0⟩
  | _ :: bound, c :: r =>
    if c = '"' then .ok r
    else if c = '\\' then do skipStringLoop bound (← skipEscape r)
    else if c.toNat < 0x20 then .error ⟨.controlCharacter, c :: r, 0⟩
    else skipStringLoop bound r

def skipString (s : List Char) : Except Stop (List Char) := skipStringLoop s s

def writeChar (c : Char) : List Char :=
  if c = '"' then ['\\', '"']
  else if c = '\\' then ['\\', '\\']
  else if c = '\x08' then ['\\', 'b']
  else if c = '\x0C' then ['\\', 'f']
  else if c = '\n' then ['\\', 'n']
  else if c = '\r' then ['\\', 'r']
  else if c = '\t' then ['\\', 't']
  else if c.toNat < 0x20 then
    '\\' :: 'u' :: FlowLines.Text.padLeft 4 (FlowLines.Text.hex c.toNat)
  else [c]

def writeString (s : List Char) : List Char := '"' :: s.flatMap writeChar ++ ['"']

end FlowLines.Json
