import FlowLines.Yaml.Gap

/-! Scalars without quotes. -/

namespace FlowLines.Yaml.Plain

def isFlowIndicator (c : Char) : Bool :=
  c = ',' || c = '[' || c = ']' || c = '{' || c = '}'

/-- How far a word goes: to a gap, to a colon before a gap, and between brackets to whatever has a
meaning there.  A colon right before a bracket is refused there. -/
def wordLength (inFlow : Bool) : List Char → Option Nat
  | [] => some 0
  | c :: r =>
    if isBlank c || isBreak c then some 0
    else if c = ':' && inFlow && r.head?.any (fun d => isFlowIndicator d || d = '?') then none
    else if c = ':' && r.head?.all (fun d => isBlank d || isBreak d) then some 0
    else if inFlow && isFlowIndicator c then some 0
    else (· + 1) <$> wordLength inFlow r

/-- A scalar, whether a break stands between its last word and what follows, and where that is. -/
abbrev Read := List Char × Bool × Cursor

def readFrom (inFlow : Bool) (indent : Nat) : (bound : List Char) → (done : List Char) → Gap →
    Cursor → Option Read
  | [], done, gap, c => some (done.reverse, gap.broken, c)
  | _ :: bound, done, gap, c => do
    if c.atDocumentMark || c.sees '#' then return (done.reverse, gap.broken, c)
    let n ← wordLength inFlow c.rest
    let (done, gap) := if n = 0 then (done, gap)
      else ((c.rest.take n).reverse ++ gap.text.reverse ++ done, {})
    let c := c.skip n
    if c.rest.isEmpty || !c.gapAt 0 then return (done.reverse, gap.broken, c)
    let (gap, c) ← gap.read indent c
    if !inFlow && c.column < indent then return (done.reverse, gap.broken, c)
    readFrom inFlow indent bound done gap c

/-- Outside of brackets the lines stand at the column `indent` or further to the right. -/
def read (inFlow : Bool) (indent : Nat) (c : Cursor) : Option Read :=
  readFrom inFlow indent c.rest [] {} c

end FlowLines.Yaml.Plain
