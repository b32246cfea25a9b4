import FlowLines.Text.Digits
import FlowLines.Yaml.Gap

/-! Scalars between single or double quotes. -/

namespace FlowLines.Yaml.Quoted

inductive Quote
  | single
  | double
  deriving DecidableEq

def Quote.mark : Quote → Char
  | .single => '\''
  | .double => '"'

def simpleEscape? (c : Char) : Option Char :=
  match c with
  | '0' => some '\x00'
  | 'a' => some '\x07'
  | 'b' => some '\x08'
  | 't' => some '\t'
  | '\t' => some '\t'
  | 'n' => some '\n'
  | 'v' => some '\x0B'
  | 'f' => some '\x0C'
  | 'r' => some '\r'
  | 'e' => some '\x1B'
  | ' ' => some ' '
  | '"' => some '"'
  | '/' => some '/'
  | '\\' => some '\\'
  | 'N' => some '\u0085'
  | '_' => some '\u00A0'
  | 'L' => some '\u2028'
  | 'P' => some '\u2029'
  | _ => none

def escapeDigits? (c : Char) : Option Nat :=
  match c with
  | 'x' => some 2
  | 'u' => some 4
  | 'U' => some 8
  | _ => none

def escape? (s : List Char) : Option (Char × Nat) := do
  let c ← s.head?
  match simpleEscape? c with
  | some d => return (d, 1)
  | none =>
    let n ← escapeDigits? c
    let digits := (s.drop 1).take n
    if digits.length < n then none
    let v ← Text.ofBase? 16 digits
    if (0xD800 ≤ v && v ≤ 0xDFFF) || 0x10FFFF < v then none
    return (Char.ofNat v, n + 1)

/-- The flag tells whether a break behind a backslash was passed.  The characters so far are held
last first. -/
def readWord (q : Quote) : (bound : List Char) → (done : List Char) → Cursor →
    Option (List Char × Bool × Cursor)
  | [], done, c => some (done, false, c)
  | _ :: bound, done, c =>
    if c.gapAt 0 then some (done, false, c)
    else match q, c.rest with
      | .single, '\'' :: '\'' :: _ => readWord q bound ('\'' :: done) (c.skip 2)
      | .double, '\\' :: r =>
        if r.head?.any isBreak then some (done, true, (c.skip 1).skipBreak)
        else do
          let (d, n) ← escape? r
          readWord q bound (d :: done) (c.skip (n + 1))
      | _, ch :: _ =>
        if ch = q.mark then some (done, false, c) else readWord q bound (ch :: done) (c.skip 1)
      | _, [] => some (done, false, c)

def readFrom (q : Quote) : (bound : List Char) → (done : List Char) → Cursor →
    Option (List Char × Cursor)
  | [], _, _ => none
  | _ :: bound, done, c => do
    if c.atDocumentMark || c.rest.isEmpty then none
    let (done, broken, c) ← readWord q c.rest done c
    if c.sees q.mark then return (done.reverse, c.skip 1)
    let (gap, c) ← Gap.read 0 { broken } c
    readFrom q bound (gap.text.reverse ++ done) c

def read (q : Quote) (c : Cursor) : Option (List Char × Cursor) :=
  readFrom q c.rest [] (c.skip 1)

end FlowLines.Yaml.Quoted
