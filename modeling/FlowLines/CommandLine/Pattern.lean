import FlowLines.Text.Alphanumeric
import FlowLines.Text.Digits

/-! Regular expressions, as far as it takes to tell whether a text is one.  Classes and boundaries
that would need tables of characters are refused, and so is what needs braces to close it. -/

namespace FlowLines.CommandLine.Pattern

inductive Escape
  | literal (code : Nat)
  | anchor

def hexDigits? (c : Char) : Option Nat :=
  match c with
  | 'x' => some 2
  | 'u' => some 4
  | 'U' => some 8
  | _ => none

def control? (c : Char) : Option Nat :=
  match c with
  | 'a' => some 0x07
  | 'f' => some 0x0C
  | 't' => some 0x09
  | 'n' => some 0x0A
  | 'r' => some 0x0D
  | 'v' => some 0x0B
  | _ => none

def escape? : List Char → Option (Escape × List Char)
  | [] => none
  | c :: r =>
    match hexDigits? c, control? c with
    | some n, _ => do
      let digits := r.take n
      if digits.length < n then none
      let code ← Text.ofBase? 16 digits
      if code.isValidChar then some (.literal code, r.drop n) else none
    | none, some code => some (.literal code, r)
    | none, none =>
      if c = 'A' || c = 'z' then some (.anchor, r)
      else if c.toNat < 0x80 && !c.isAlphanum && c ≠ '<' && c ≠ '>' then
        some (.literal c.toNat, r)
      else none

def member? : List Char → Option (Nat × List Char)
  | [] => none
  | '\\' :: r => do
    match ← escape? r with
    | (.literal code, r) => some (code, r)
    | (.anchor, _) => none
  | c :: r => some (c.toNat, r)

/-- A dash before a dash or a bracket makes no range. -/
def range? (s : List Char) : Option (List Char) := do
  let (first, r) ← member? s
  match r with
  | '-' :: ']' :: _ => some r
  | '-' :: '-' :: _ => some r
  | '-' :: r =>
    let (last, r) ← member? r
    if first ≤ last then some r else none
  | r => some r

def classNames : List String :=
  ["alnum", "alpha", "ascii", "blank", "cntrl", "digit", "graph", "lower", "print", "punct",
    "space", "upper", "word", "xdigit"]

def named? (s : List Char) : Option (List Char) :=
  match s with
  | '[' :: ':' :: r =>
    let r := match r with
      | '^' :: r => r
      | r => r
    let name := r.takeWhile (· ≠ ':')
    match r.drop name.length with
    | ':' :: ']' :: r => if classNames.contains (String.ofList name) then some r else none
    | _ => none
  | _ => none

/-- Dashes that come first, or else a closing bracket, are characters of the class. -/
def open? (s : List Char) : Option (List Char) :=
  let s := match s with
    | '^' :: r => r
    | s => s
  match s with
  | [] => none
  | ']' :: r => some r
  | s => some (s.dropWhile (· = '-'))

def class? : (bound : List Char) → (depth : Nat) → List Char → Option (List Char)
  | [], _, _ => none
  | _ :: bound, depth, s =>
    match named? s with
    | some r => class? bound depth r
    | none =>
      match s with
      | [] => none
      | '[' :: r => do class? bound (depth + 1) (← open? r)
      | ']' :: r => if depth ≤ 1 then some r else class? bound (depth - 1) r
      | '&' :: '&' :: r => class? bound depth r
      | '-' :: '-' :: r => class? bound depth r
      | '~' :: '~' :: r => class? bound depth r
      | s => do class? bound depth (← range? s)

/-- Letters between a question mark and a colon or the end of a group, each at most once, with at
most one dash that is not the last. -/
def areFlags (flags : List Char) : Bool :=
  flags.all ("-msUuRx".toList.contains ·) && flags.Nodup && flags.getLast? ≠ some '-'

def isName (name : List Char) : Bool :=
  match name with
  | [] => false
  | c :: r =>
    (c = '_' || (Text.isAlphanumeric c && !Text.isDigit c)) &&
      r.all fun c => c = '_' || c = '.' || c = '[' || c = ']' || Text.isAlphanumeric c

inductive Opening
  | group (name : Option (List Char)) (rest : List Char)
  | flags (rest : List Char)

def opening? : List Char → Option Opening
  | '?' :: 'P' :: '<' :: r => named r
  | '?' :: '<' :: r => named r
  | '?' :: r =>
    let flags := r.takeWhile fun c => c ≠ ':' && c ≠ ')'
    if !areFlags flags then none
    else match r.drop flags.length with
      | ':' :: r => some (.group none r)
      | ')' :: r => if flags.isEmpty then none else some (.flags r)
      | _ => none
  | r => some (.group none r)
where
  named (r : List Char) : Option Opening :=
    let name := r.takeWhile (· ≠ '>')
    match r.drop name.length with
    | _ :: r => if isName name then some (.group (some name) r) else none
    | [] => none

/-- `operand` tells whether there is something that a repetition can repeat, and `names` are those
of groups. -/
def completes : (bound : List Char) → (depth : Nat) → (operand : Bool) →
    (names : List (List Char)) → List Char → Bool
  | _, depth, _, _, [] => depth = 0
  | [], _, _, _, _ => false
  | _ :: bound, depth, operand, names, c :: r =>
    match c with
    | '(' =>
      match opening? r with
      | none => false
      | some (.flags r) => completes bound depth false names r
      | some (.group none r) => completes bound (depth + 1) false names r
      | some (.group (some name) r) =>
        !names.contains name && completes bound (depth + 1) false (name :: names) r
    | ')' => 0 < depth && completes bound (depth - 1) true names r
    | '|' => completes bound depth false names r
    | '[' =>
      match (open? r).bind (class? r 1) with
      | some r => completes bound depth true names r
      | none => false
    | '?' => operand && completes bound depth true names r
    | '*' => operand && completes bound depth true names r
    | '+' => operand && completes bound depth true names r
    | '{' => false
    | '\\' =>
      match escape? r with
      | some (_, r) => completes bound depth true names r
      | none => false
    | _ => completes bound depth true names r

def isWellFormed (s : List Char) : Bool := completes s 0 false [] s

end FlowLines.CommandLine.Pattern
