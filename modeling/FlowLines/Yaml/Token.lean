import FlowLines.Yaml.Block
import FlowLines.Yaml.Plain
import FlowLines.Yaml.Quoted
import FlowLines.Yaml.Tag

/-! A document as brackets, marks and scalars.  Indentation turns into brackets here: a block
begins where a line goes further to the right, and ends where one goes back. -/

namespace FlowLines.Yaml

inductive Token
  | directive (directive : Directive)
  | documentStart
  | documentEnd
  | blockSequenceStart
  | blockMappingStart
  | blockEnd
  | flowSequenceStart
  | flowSequenceEnd
  | flowMappingStart
  | flowMappingEnd
  | blockEntry
  | flowEntry
  | key
  | value
  | alias (name : List Char)
  | anchor (name : List Char)
  | tag (tag : Tag.Written)
  | scalar (plain : Bool) (text : List Char)

/-- A place at which a key without a mark may have begun: how many tokens are before it, and
where it is.  A required one has to turn out as a key. -/
structure KeyPlace where
  before : Nat
  index : Nat
  line : Nat
  column : Nat
  required : Bool

/-- Last first, with their number. -/
structure Tokens where
  list : List Token := []
  count : Nat := 0
  length_list : list.length = count := by rfl

namespace Tokens

def push (ts : Tokens) (t : Token) : Tokens :=
  ⟨t :: ts.list, ts.count + 1, by simp [ts.length_list]⟩

def insert (ts : Tokens) (before : Nat) (t : Token) : Tokens :=
  let n := ts.count - before
  ⟨ts.list.take n ++ t :: ts.list.drop n, ts.count + 1, by
    have := ts.length_list
    simp only [List.length_append, List.length_take, List.length_cons, List.length_drop]
    omega⟩

def toList (ts : Tokens) : List Token := ts.list.reverse

end Tokens

/-- What is known while tokens are read.  Blocks are held by their columns, innermost first; for
every open bracket, and for the document around them, there is a place where a key may have
begun. -/
structure Lexer where
  cursor : Cursor
  blocks : List Nat := []
  keyPlaces : List (Option KeyPlace) := [none]
  keyAllowed : Bool := true
  tokens : Tokens := {}

namespace Lexer

/-- The column after that of the innermost block. -/
def parent (l : Lexer) : Nat :=
  match l.blocks with
  | [] => 0
  | column :: _ => column + 1

def inFlow (l : Lexer) : Bool :=
  match l.keyPlaces with
  | _ :: _ :: _ => true
  | _ => false

def push (l : Lexer) (t : Token) : Lexer := { l with tokens := l.tokens.push t }

def insert (l : Lexer) (before : Nat) (t : Token) : Lexer :=
  { l with tokens := l.tokens.insert before t }

def mark (l : Lexer) (length : Nat) (t : Token) : Lexer :=
  { l with cursor := l.cursor.skip length }.push t

def dropKey (l : Lexer) : Option Lexer :=
  match l.keyPlaces with
  | some place :: places =>
    if place.required then none else some { l with keyPlaces := none :: places }
  | _ => some l

def saveKey (l : Lexer) : Option Lexer :=
  if !l.keyAllowed then some l
  else do
    let l ← l.dropKey
    let c := l.cursor
    let place : KeyPlace := {
      before := l.tokens.count, index := c.index, line := c.line, column := c.column
      required := !l.inFlow && l.blocks.head? = some c.column }
    return { l with keyPlaces := some place :: l.keyPlaces.tail }

/-- A key stands on one line, with its colon within 1024 bytes. -/
def isFresh (l : Lexer) (p : KeyPlace) : Bool :=
  p.line = l.cursor.line && l.cursor.index ≤ p.index + 1024

/-- Gives up the place of the innermost key if its colon can no longer come.  The other places are
looked at when the brackets inside of them have been closed. -/
def dropStale (l : Lexer) : Option Lexer :=
  match l.keyPlaces with
  | some place :: _ => if l.isFresh place then some l else l.dropKey
  | _ => some l

/-- The token goes behind the first `before` tokens. -/
def openBlock (l : Lexer) (column before : Nat) (t : Token) : Lexer :=
  if l.inFlow || column < l.parent then l
  else { l with blocks := column :: l.blocks }.insert before t

def closeBlocksFrom (column : Nat) : List Nat → Tokens → List Nat × Tokens
  | [], tokens => ([], tokens)
  | block :: blocks, tokens =>
    if column < block then closeBlocksFrom column blocks (tokens.push .blockEnd)
    else (block :: blocks, tokens)

def closeBlocks (l : Lexer) (column : Nat) : Lexer :=
  if l.inFlow then l
  else
    let (blocks, tokens) := closeBlocksFrom column l.blocks l.tokens
    { l with blocks, tokens }

def closeAll (l : Lexer) : Lexer :=
  if l.inFlow then l
  else { l with blocks := [], tokens := l.blocks.foldl (fun ts _ => ts.push .blockEnd) l.tokens }

/-- A byte order mark may begin a line.  Tabs count as blanks only where no block can begin. -/
def skipSpace : (bound : List Char) → Lexer → Lexer
  | [], l => l
  | _ :: bound, l =>
    let c := l.cursor
    let c := if c.column = 0 && c.sees '\uFEFF' then c.skip 1 else c
    let c := c.skipWhile fun ch => ch = ' ' || (ch = '\t' && (l.inFlow || !l.keyAllowed))
    let c := if c.sees '#' then c.skipWhile (!isBreak ·) else c
    if c.rest.isEmpty || !c.atLineEnd then { l with cursor := c }
    else skipSpace bound
      { l with cursor := c.skipBreak, keyAllowed := l.keyAllowed || !l.inFlow }

def takeDocument (l : Lexer) : Option Lexer := do
  let l ← l.closeAll.dropKey
  let l := { l with keyAllowed := false }
  if l.cursor.sees '%' then
    let (directive, cursor) ← Directive.read l.cursor
    return { l with cursor }.push (.directive directive)
  else return l.mark 3 (if l.cursor.sees '-' then .documentStart else .documentEnd)

def takeOpening (l : Lexer) (t : Token) : Option Lexer := do
  let l ← l.saveKey
  return { l with keyPlaces := none :: l.keyPlaces, keyAllowed := true }.mark 1 t

def takeClosing (l : Lexer) (t : Token) : Option Lexer := do
  let l ← l.dropKey
  let keyPlaces := if l.inFlow then l.keyPlaces.tail else l.keyPlaces
  return { l with keyPlaces, keyAllowed := false }.mark 1 t

def takeComma (l : Lexer) : Option Lexer := do
  return { ← l.dropKey with keyAllowed := true }.mark 1 .flowEntry

def takeBlockMark (l : Lexer) (start : Token) : Option Lexer :=
  if l.inFlow then some l
  else if !l.keyAllowed then none
  else some (l.openBlock l.cursor.column l.tokens.count start)

def takeDash (l : Lexer) : Option Lexer := do
  let l ← (← l.takeBlockMark .blockSequenceStart).dropKey
  return { l with keyAllowed := true }.mark 1 .blockEntry

def takeQuestion (l : Lexer) : Option Lexer := do
  let l ← (← l.takeBlockMark .blockMappingStart).dropKey
  return { l with keyAllowed := !l.inFlow }.mark 1 .key

/-- A key with no mark of its own is marked now, and a mapping may have begun with it. -/
def takeColon (l : Lexer) : Option Lexer :=
  match l.keyPlaces with
  | some place :: places =>
    let l := (l.insert place.before .key).openBlock place.column place.before .blockMappingStart
    some ({ l with keyPlaces := none :: places, keyAllowed := false }.mark 1 .value)
  | _ => do
    let l ← l.takeBlockMark .blockMappingStart
    return { l with keyAllowed := !l.inFlow }.mark 1 .value

def takeNode (l : Lexer) (read : Cursor → Option (Token × Cursor)) : Option Lexer := do
  let l ← l.saveKey
  let (t, cursor) ← read l.cursor
  return { l with cursor, keyAllowed := false }.push t

def takeBlockScalar (l : Lexer) (folded : Bool) : Option Lexer := do
  let l ← l.dropKey
  let (text, cursor) ← Block.read folded l.parent l.cursor
  return { l with cursor, keyAllowed := true }.push (.scalar false text)

def takeQuoted (l : Lexer) (q : Quoted.Quote) : Option Lexer :=
  l.takeNode fun c => do
    let (text, c) ← Quoted.read q c
    return (.scalar false text, c)

/-- Where a scalar ends with a break a key may follow. -/
def takePlain (l : Lexer) : Option Lexer := do
  let l ← l.saveKey
  let (text, broken, cursor) ← Plain.read l.inFlow l.parent l.cursor
  return { l with cursor, keyAllowed := broken }.push (.scalar true text)

def takeAlias (l : Lexer) : Option Lexer :=
  l.takeNode fun c => do
    let (name, c) ← readAnchor c
    return (.alias name, c)

def takeAnchor (l : Lexer) : Option Lexer :=
  l.takeNode fun c => do
    let (name, c) ← readAnchor c
    return (.anchor name, c)

def takeTag (l : Lexer) : Option Lexer :=
  l.takeNode fun c => do
    let (tag, c) ← Tag.read l.inFlow c
    return (.tag tag, c)

def isIndicator (c : Char) : Bool := "-?:,[]{}#&*!|>'\"%@`".toList.contains c

def take (l : Lexer) (ch : Char) : Option Lexer :=
  let c := l.cursor
  if (c.column = 0 && ch = '%') || c.atDocumentMark then l.takeDocument
  else if ch = '[' then l.takeOpening .flowSequenceStart
  else if ch = '{' then l.takeOpening .flowMappingStart
  else if ch = ']' then l.takeClosing .flowSequenceEnd
  else if ch = '}' then l.takeClosing .flowMappingEnd
  else if ch = ',' then l.takeComma
  else if ch = '-' && c.gapAt 1 then l.takeDash
  else if ch = '?' && (l.inFlow || c.gapAt 1) then l.takeQuestion
  else if ch = ':' && (l.inFlow || c.gapAt 1) then l.takeColon
  else if ch = '*' then l.takeAlias
  else if ch = '&' then l.takeAnchor
  else if ch = '!' then l.takeTag
  else if ch = '|' && !l.inFlow then l.takeBlockScalar false
  else if ch = '>' && !l.inFlow then l.takeBlockScalar true
  else if ch = '\'' then l.takeQuoted .single
  else if ch = '"' then l.takeQuoted .double
  else if !(isBlank ch || isBreak ch || isIndicator ch) || ch = '-' || ch = '?' || ch = ':' then
    l.takePlain
  else none

def run (bound : List Char) (l : Lexer) : Option (List Token) := do
  let l ← (skipSpace l.cursor.rest l).dropStale
  let l := l.closeBlocks l.cursor.column
  match l.cursor.rest, bound with
  | [], _ => return (← l.closeAll.dropKey).tokens.toList
  | ch :: _, _ :: bound => run bound (← l.take ch)
  | _ :: _, [] => none

end Lexer

def Token.ofText? (text : List Char) : Option (List Token) :=
  if !text.all isAllowed then none
  else Lexer.run text { cursor := { rest := text } }

end FlowLines.Yaml
