/-! Texts for a device that is no terminal: without control characters, and without the sequences by
which a terminal is told what to do. -/

namespace FlowLines.Text.Terminal

/-- Where in a sequence a character stands.  A control sequence ends with a letter or the like; a
string goes on until it is cut off, and a title also until a bell. -/
inductive State
  | ground
  | escape
  | intermediate
  | control
  | string
  | title
  deriving DecidableEq

/-- Cancel, substitute and escape mean the same everywhere. -/
def State.next (s : State) (c : Char) : State :=
  if c = '\x18' || c = '\x1A' then .ground
  else if c = '\x1B' then .escape
  else match s with
    | .ground => .ground
    | .escape =>
      if c = '[' then .control
      else if c = ']' then .title
      else if c = 'P' || c = 'X' || c = '^' || c = '_' then .string
      else if ' ' ≤ c && c ≤ '/' then .intermediate
      else if '0' ≤ c && c ≤ '~' then .ground
      else .escape
    | .intermediate => if '0' ≤ c && c ≤ '~' then .ground else .intermediate
    | .control => if '@' ≤ c && c ≤ '~' then .ground else .control
    | .string => .string
    | .title => if c = '\x07' then .ground else .title

def isSpace (c : Char) : Bool := c = ' ' || c = '\t' || c = '\n' || c = '\x0C' || c = '\r'

def isVisible (c : Char) : Bool := isSpace c || (' ' ≤ c && c ≤ '~') || '\x7F' < c

/-- Tabs and the ends of lines act at once, also inside of a sequence that is no string.  Text that
is shown begins with them. -/
def State.shows (s : State) (c : Char) : Bool :=
  match s with
  | .ground => isVisible c
  | .string => false
  | .title => false
  | _ => isSpace c && c ≠ ' '

/-- Once something is shown, all that follows it is, up to the next control character.  Only then
does the state before it count again, unless a character beyond ASCII has ended it. -/
def plainFrom (showing : Bool) (s : State) : List Char → List Char
  | [] => []
  | c :: r =>
    if showing && isVisible c then c :: plainFrom true (if '\x7F' < c then .ground else s) r
    else if s.shows c then c :: plainFrom true s r
    else plainFrom false (s.next c) r

def plain (s : List Char) : List Char := plainFrom false .ground s

end FlowLines.Text.Terminal
