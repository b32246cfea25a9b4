import FlowLines.Text.Utf8

/-! A place in a document that is being read. -/

namespace FlowLines.Yaml

def isBlank (c : Char) : Bool := c = ' ' || c = '\t'

def isBreak (c : Char) : Bool :=
  c = '\n' || c = '\r' || c = '\u0085' || c = '\u2028' || c = '\u2029'

def isWord (c : Char) : Bool := c.isAlphanum || c = '-' || c = '_'

def isAllowed (c : Char) : Bool :=
  let n := c.toNat
  c = '\t' || c = '\n' || c = '\r' || (0x20 ≤ n && n ≤ 0x7E) || n == 0x85 ||
    (0xA0 ≤ n && n ≤ 0xD7FF) || (0xE000 ≤ n && n ≤ 0xFFFD) || 0x10000 ≤ n

/-- Lines and columns count from zero, columns in characters and the index in bytes. -/
structure Cursor where
  rest : List Char
  index : Nat := 0
  line : Nat := 0
  column : Nat := 0

namespace Cursor

def at? (c : Cursor) (n : Nat) : Option Char := c.rest[n]?

def sees (c : Cursor) (ch : Char) : Bool := c.rest.head? = some ch

def gapAt (c : Cursor) (n : Nat) : Bool :=
  match c.at? n with
  | none => true
  | some ch => isBlank ch || isBreak ch

def atLineEnd (c : Cursor) : Bool :=
  match c.rest with
  | [] => true
  | ch :: _ => isBreak ch

def skip (c : Cursor) (n : Nat) : Cursor :=
  { c with
    rest := c.rest.drop n
    index := c.index + Text.Utf8.size (c.rest.take n)
    column := c.column + n }

def skipWhile (c : Cursor) (p : Char → Bool) : Cursor := c.skip (c.rest.takeWhile p).length

/-- A break stands for a line feed, or for itself if it is a separator of lines or paragraphs.  A
carriage return and a line feed are one break. -/
def takeBreak (c : Cursor) : List Char × Cursor :=
  let after (text : List Char) (n : Nat) : List Char × Cursor :=
    (text, ⟨c.rest.drop n, c.index + Text.Utf8.size (c.rest.take n), c.line + 1, 0⟩)
  match c.rest with
  | '\r' :: '\n' :: _ => after ['\n'] 2
  | ch :: _ =>
    if ch = '\u2028' || ch = '\u2029' then after [ch] 1
    else if isBreak ch then after ['\n'] 1
    else ([], c)
  | [] => ([], c)

def skipBreak (c : Cursor) : Cursor := c.takeBreak.2

def atMark (c : Cursor) (mark : Char) : Bool :=
  c.column = 0 && c.rest.take 3 = [mark, mark, mark] && c.gapAt 3

def atDocumentMark (c : Cursor) : Bool := c.atMark '-' || c.atMark '.'

/-- A comment needs no blank before it here. -/
def skipComment (c : Cursor) : Cursor :=
  let c := c.skipWhile isBlank
  if c.sees '#' then c.skipWhile (!isBreak ·) else c

end Cursor

end FlowLines.Yaml
