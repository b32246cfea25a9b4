import FlowLines.Text.Digits
import FlowLines.Yaml.Cursor

/-! Scalars that are set off by their indentation, with their lines as they are or folded. -/

namespace FlowLines.Yaml.Block

inductive Chomping
  | strip
  | clip
  | keep
  deriving DecidableEq

structure Header where
  chomping : Chomping := .clip
  indent : Option Nat := none

def readChomping (c : Cursor) : Option (Chomping × Cursor) :=
  if c.sees '+' then some (.keep, c.skip 1)
  else if c.sees '-' then some (.strip, c.skip 1)
  else none

def readIndent (c : Cursor) : Option (Option Nat × Cursor) :=
  match c.rest.head? with
  | some ch =>
    if ch = '0' then none
    else if Text.isDigit ch then some (some (Text.digitValue ch), c.skip 1)
    else some (none, c)
  | none => some (none, c)

def readHeader (c : Cursor) : Option (Header × Cursor) := do
  let (header, c) ← match readChomping c with
    | some (chomping, c) => do
      let (indent, c) ← readIndent c
      some (({ chomping, indent } : Header), c)
    | none => do
      let (indent, c) ← readIndent c
      match indent, readChomping c with
      | some n, some (chomping, c) => some ({ chomping, indent := some n }, c)
      | _, _ => some ({ indent }, c)
  let c := c.skipComment
  if !c.atLineEnd then none
  return (header, c.skipBreak)

/-- Empty lines, as the breaks that they stand for, and the furthest column that was reached.
Where the indentation is not known yet any number of spaces belongs to it, and a tab never
does.  The breaks so far are held last first. -/
def readEmptyLines (indent : Option Nat) : (bound : List Char) → (breaks : List Char) →
    (furthest : Nat) → Cursor → Option (List Char × Nat × Cursor)
  | [], breaks, furthest, c => some (breaks.reverse, furthest, c)
  | _ :: bound, breaks, furthest, c =>
    let spaces := (c.rest.takeWhile (· = ' ')).length
    let c := c.skip (match indent with
      | none => spaces
      | some n => min spaces (n - c.column))
    let furthest := max furthest c.column
    if indent.all (c.column < ·) && c.sees '\t' then none
    else if c.rest.isEmpty || !c.atLineEnd then some (breaks.reverse, furthest, c)
    else
      let (text, c) := c.takeBreak
      readEmptyLines indent bound (text.reverse ++ breaks) furthest c

structure Between where
  lineBreak : List Char := []
  emptyLines : List Char := []
  afterBlank : Bool := false

/-- Folded, a break between two lines that do not begin with a blank is a space, or nothing
where empty lines follow it. -/
def Between.text (folded : Bool) (beforeBlank : Bool) (b : Between) : List Char :=
  if folded && b.lineBreak = ['\n'] && !b.afterBlank && !beforeBlank then
    if b.emptyLines.isEmpty then [' '] else b.emptyLines
  else b.lineBreak ++ b.emptyLines

def Between.chomp (chomping : Chomping) (b : Between) : List Char :=
  match chomping with
  | .strip => []
  | .clip => b.lineBreak
  | .keep => b.lineBreak ++ b.emptyLines

def readLines (folded : Bool) (indent : Nat) : (bound : List Char) → (done : List Char) →
    Between → Cursor → Option (List Char × Between × Cursor)
  | [], done, between, c => some (done, between, c)
  | _ :: bound, done, between, c =>
    if c.column = indent && !c.rest.isEmpty then do
      let blank := c.gapAt 0 && !c.atLineEnd
      let line := c.rest.takeWhile (!isBreak ·)
      let done := line.reverse ++ (between.text folded blank).reverse ++ done
      let (lineBreak, c) := (c.skip line.length).takeBreak
      let (emptyLines, _, c) ← readEmptyLines (some indent) c.rest [] 0 c
      readLines folded indent bound done { lineBreak, emptyLines, afterBlank := blank } c
    else some (done, between, c)

/-- `parent` is the column after that of the block around it. -/
def read (folded : Bool) (parent : Nat) (c : Cursor) : Option (List Char × Cursor) := do
  let (header, c) ← readHeader (c.skip 1)
  let indent := header.indent.map (· + (parent - 1))
  let (emptyLines, furthest, c) ← readEmptyLines indent c.rest [] 0 c
  let indent := indent.getD (max 1 (max parent furthest))
  let (done, between, c) ← readLines folded indent c.rest [] { emptyLines } c
  return (done.reverse ++ between.chomp header.chomping, c)

end FlowLines.Yaml.Block
