import FlowLines.Yaml.Cursor

/-! Blanks and breaks between the words of a scalar.  Blanks on one line stay; of breaks the first
becomes a space unless more follow. -/

namespace FlowLines.Yaml

/-- Once a break has been passed blanks no longer count.  Blanks, and breaks behind the first, are
held last first. -/
structure Gap where
  blanks : List Char := []
  broken : Bool := false
  firstBreak : List Char := []
  otherBreaks : List Char := []

namespace Gap

def text (g : Gap) : List Char :=
  if !g.broken then g.blanks.reverse
  else if g.firstBreak ≠ ['\n'] then g.firstBreak ++ g.otherBreaks.reverse
  else if g.otherBreaks.isEmpty then [' ']
  else g.otherBreaks.reverse

/-- Every step takes a character, so the text is a bound for them.  On a new line no tab may stand
before the column `indent`. -/
def readFrom (indent : Nat) : (bound : List Char) → Gap → Cursor → Option (Gap × Cursor)
  | [], g, c => some (g, c)
  | _ :: bound, g, c =>
    match c.rest with
    | [] => some (g, c)
    | ch :: _ =>
      if isBlank ch then
        if !g.broken then readFrom indent bound { g with blanks := ch :: g.blanks } (c.skip 1)
        else if ch = '\t' && c.column < indent then none
        else readFrom indent bound g (c.skip 1)
      else if isBreak ch then
        let (text, c) := c.takeBreak
        if g.broken then
          readFrom indent bound { g with otherBreaks := text.reverse ++ g.otherBreaks } c
        else readFrom indent bound { g with broken := true, firstBreak := text } c
      else some (g, c)

def read (indent : Nat) (g : Gap) (c : Cursor) : Option (Gap × Cursor) :=
  readFrom indent c.rest g c

end Gap

end FlowLines.Yaml
