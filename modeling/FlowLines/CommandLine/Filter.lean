import FlowLines.CommandLine.Pattern
import FlowLines.Decimal.Read
import FlowLines.Note
import FlowLines.Text.Blank
import FlowLines.Text.Utf8

/-! Which notes are shown. -/

namespace FlowLines.CommandLine

def levels : List (String × Level) :=
  [("error", .error), ("warn", .warn), ("info", .info), ("debug", .debug), ("trace", .trace)]

/-- How far the notes go that are shown; none are at `none`. -/
abbrev Threshold := Option Level

def Level.rank : Level → Nat
  | .error => 1
  | .warn => 2
  | .info => 3
  | .debug => 4
  | .trace => 5

def Threshold.admits (t : Threshold) (l : Level) : Bool :=
  t.any fun most => Level.rank l ≤ Level.rank most

def Threshold.ofName? (s : List Char) : Option Threshold :=
  let name := String.ofList (s.map Char.toLower)
  match s with
  | '+' :: c :: r => ofNumber? (c :: r)
  | _ =>
    if name = "off" then some none
    else match levels.lookup name with
      | some l => some (some l)
      | none => ofNumber? s
where
  /-- Errors have the number one; nothing is shown at zero. -/
  ofNumber? (s : List Char) : Option Threshold :=
    match Text.ofBase? 10 s with
    | none => none
    | some 0 => some none
    | some n => ((levels.map (·.2)).find? fun l => Level.rank l = n).map some

structure Field where
  name : List Char
  hasValue : Bool
  deriving DecidableEq, Repr

/-- A threshold for what comes from places whose names begin with a text, and tells certain values.
One for a stretch of time, or for a value that has to be met, says nothing about single notes. -/
structure Directive where
  scope : Option (List Char) := none
  fields : List Field := []
  threshold : Threshold
  ofStretch : Bool := false
  deriving DecidableEq, Repr

namespace Directive

def everything : Threshold := some .trace

def parseThreshold (name : List Char) : Option Threshold :=
  if name.isEmpty then some everything else Threshold.ofName? name

def isStart (c : Char) : Bool := c = '-' || c = ':' || c = '_' || Text.isAlphanumeric c

/-- A number with a plus before it, which is a value although it is no pattern. -/
def isPositive (s : List Char) : Bool :=
  match s with
  | '+' :: r =>
    (Decimal.read r).isSome ||
      ["inf", "infinity", "nan"].contains (String.ofList (r.map Char.toLower))
  | _ => false

def parseField (s : List Char) : Option Field :=
  let name := s.takeWhile (· ≠ '=')
  match s.drop name.length with
  | [] => if s.isEmpty then none else some ⟨name, false⟩
  | _ :: r =>
    let value := r.takeWhile (· ≠ '=')
    if isPositive value || Pattern.isWellFormed value then some ⟨name, true⟩ else none

section

variable (text : List Char)

/-- Where the rest begins, in bytes of the text without the blanks around it.  The parts of a
directive are looked for there, but cut out of the text with its blanks. -/
def startOf (rest : List Char) : Nat :=
  Text.Utf8.size (Text.trim text) - Text.Utf8.size rest

def behind (rest : List Char) : List Char := Text.Utf8.drop (startOf text rest) text

def between (rest after : List Char) : List Char :=
  Text.Utf8.take (startOf text after - startOf text rest) (behind text rest)

def parseEnd (d : Directive) : List Char → Option Directive
  | [] => some d
  | '=' :: r => (parseThreshold (behind text r)).map fun threshold => { d with threshold }
  | _ => none

def parseBrackets (scope : Option (List Char)) (s : List Char) : Option Directive :=
  let after := s.dropWhile fun c => c ≠ ']' && c ≠ '{'
  match after with
  | ']' :: r => parseEnd text { scope, threshold := everything, ofStretch := true } r
  | _ :: r =>
    let close := r.dropWhile (· ≠ '}')
    match close with
    | _ :: ']' :: u => do
      let field ← parseField (between text r close)
      let ofStretch := !(between text s after).isEmpty
      parseEnd text { scope, fields := [field], threshold := everything, ofStretch } u
    | _ => none
  | [] => none

def parse : Option Directive :=
  let s := Text.trim text
  let rest := s.dropWhile fun c => c ≠ '=' && c ≠ '['
  match s with
  | [] => none
  | '[' :: r => parseBrackets text none r
  | c :: _ =>
    if !isStart c then none
    else match rest with
      | [] =>
        match Threshold.ofName? text with
        | some threshold => some { threshold }
        | none => some { scope := some text, threshold := everything }
      | '[' :: r => parseBrackets text (some (between text s rest)) r
      | _ :: r =>
        (parseThreshold (behind text r)).map fun threshold =>
          { scope := some (between text s rest), threshold }

end

def isGeneral (d : Directive) : Bool := !d.ofStretch && d.fields.all (!·.hasValue)

def concerns (d : Directive) (place : List Char) (names : List String) : Bool :=
  d.isGeneral && d.scope.all (·.isPrefixOf place) &&
    d.fields.all fun f => names.contains (String.ofList f.name)

/-- How particular a directive is about a note that it concerns: first by the length of its scope,
of which none is shortest, then by its fields. -/
def rank (d : Directive) : Nat := (d.scope.map fun s => Text.Utf8.size s + 1).getD 0

def isBefore (d e : Directive) : Bool :=
  d.rank < e.rank || (d.rank = e.rank &&
    (d.fields.length < e.fields.length || (d.fields.length = e.fields.length &&
      d.fields.map (String.ofList ·.name) < e.fields.map (String.ofList ·.name))))

end Directive

/-- Of several directives the most particular one counts, and of two alike the later. -/
structure Filter where
  directives : List Directive
  deriving DecidableEq, Repr

namespace Filter

def ofVerbosity : Nat → Filter
  | 0 => ⟨[{ threshold := some .warn }]⟩
  | 1 => ⟨[{ threshold := some .info }]⟩
  | 2 => ⟨[{ threshold := some .debug }]⟩
  | _ => ⟨[{ threshold := some .trace }]⟩

/-- Without a directive only errors are shown; with one that is malformed there is no filter. -/
def parse (text : String) : Option Filter := do
  let parts := (text.toList.splitOn ',').filter (!·.isEmpty)
  let directives ← parts.mapM Directive.parse
  if directives.isEmpty then return ⟨[{ threshold := some .error }]⟩
  return ⟨directives⟩

def choose (asked : Option String) (verbosity : Nat) : Filter :=
  (asked.bind parse).getD (ofVerbosity verbosity)

def directive? (f : Filter) (place : String) (names : List String) : Option Directive :=
  (f.directives.filter (·.concerns place.toList names)).foldl (fun best d =>
    match best with
    | none => some d
    | some b => if d.isBefore b then some b else some d) none

def admits (f : Filter) (place : String) (names : List String) (l : Level) : Bool :=
  (f.directive? place names).any (·.threshold.admits l)

end Filter

end FlowLines.CommandLine
