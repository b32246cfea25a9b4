import FlowLines.Json.Number
import FlowLines.Json.Text

/-! Passing over a value that nobody asked for.  It has to be JSON, to any depth, but its strings
need not spell characters and its numbers need not be in range. -/

namespace FlowLines.Json

inductive Enclosure
  | list
  | object
  deriving DecidableEq, Repr

def Enclosure.close : Enclosure → Char
  | .list => ']'
  | .object => '}'

def Enclosure.atEnd : Enclosure → Cause
  | .list => .endInList
  | .object => .endInObject

def Enclosure.commaOrEnd : Enclosure → Cause
  | .list => .expectedListCommaOrEnd
  | .object => .expectedObjectCommaOrEnd

/-- A wrong character is passed before it is refused. -/
def keyword : List Char → List Char → Except Stop (List Char)
  | [], s => .ok s
  | _ :: _, [] => .error ⟨.endInValue, [], 0⟩
  | e :: es, c :: r => if c = e then keyword es r else .error ⟨.expectedKeyword, c :: r, 1⟩

def skipScalar (s : List Char) : Except Stop (List Char) :=
  match s with
  | 'n' :: r => keyword "ull".toList r
  | 't' :: r => keyword "rue".toList r
  | 'f' :: r => keyword "alse".toList r
  | '-' :: r => skipNumber r
  | '"' :: r => skipString r
  | c :: _ => if FlowLines.Text.isDigit c then skipNumber s else .error ⟨.expectedValue, s, 1⟩
  | [] => .error ⟨.endInValue, [], 0⟩

def skipKey (s : List Char) : Except Stop (List Char) :=
  match skipSpace s with
  | [] => .error ⟨.endInObject, [], 0⟩
  | '"' :: r => do
    match skipSpace (← skipString r) with
    | [] => .error ⟨.endInObject, [], 0⟩
    | ':' :: r => .ok r
    | s => .error ⟨.expectedColon, s, 1⟩
  | s => .error ⟨.keyNoString, s, 1⟩

def Enclosure.member (e : Enclosure) (s : List Char) : Except Stop (List Char) :=
  match e with
  | .list => .ok s
  | .object => skipKey s

def Enclosure.enter (e : Enclosure) (s : List Char) : Except Stop (Bool × List Char) :=
  match skipSpace s with
  | [] => .error ⟨e.atEnd, [], 0⟩
  | c :: r => if c = e.close then .ok (false, r) else (true, ·) <$> e.member (c :: r)

/-- `wanting` tells whether a value comes next or one has just ended.  Every step takes a character.
-/
def skipLoop : (bound : List Char) → (wanting : Bool) → List Enclosure → List Char →
    Except Stop (List Char)
  | _, false, [], s => .ok s
  | [], true, _, _ => .error ⟨.endInValue, [], 0⟩
  | [], false, e :: _, _ => .error ⟨e.atEnd, [], 0⟩
  | _ :: bound, true, enclosing, s =>
    match skipSpace s with
    | '[' :: r => do
      match ← Enclosure.enter .list r with
      | (true, r) => skipLoop bound true (.list :: enclosing) r
      | (false, r) => skipLoop bound false enclosing r
    | '{' :: r => do
      match ← Enclosure.enter .object r with
      | (true, r) => skipLoop bound true (.object :: enclosing) r
      | (false, r) => skipLoop bound false enclosing r
    | s => do skipLoop bound false enclosing (← skipScalar s)
  | _ :: bound, false, e :: enclosing, s =>
    match skipSpace s with
    | [] => .error ⟨e.atEnd, [], 0⟩
    | c :: r =>
      if c = e.close then skipLoop bound false enclosing r
      else if c = ',' then do skipLoop bound true (e :: enclosing) (← e.member r)
      else .error ⟨e.commaOrEnd, c :: r, 1⟩

def skipValue (s : List Char) : Except Stop (List Char) := skipLoop s true [] s

end FlowLines.Json
