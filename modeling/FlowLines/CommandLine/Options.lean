import FlowLines.CommandLine.Help
import FlowLines.Text.Terminal

/-! Reading the command line. -/

namespace FlowLines.CommandLine

structure Options where
  format : Option Format := none
  label : Option String := none
  noResolve : Bool := false
  resolveTimeout : Option Time.Span := none
  config : Option String := none
  output : Option String := none
  noMarker : Bool := false
  failFast : Bool := false
  maxLineLength : Nat := ({} : Feed.Rules).maxLineLength
  stats : Bool := false
  verbosity : Nat := 0
  input : Option String := none
  deriving DecidableEq, Repr

namespace Options

/-- What was asked for comes before what a file says. -/
def settings (o : Options) (s : Settings) : Settings :=
  { s with
    format := o.format.getD s.format
    label := o.label.getD s.label
    resolve := s.resolve && !o.noResolve
    resolveTimeout := o.resolveTimeout.getD s.resolveTimeout
    startupMarker := if o.noMarker then none else s.startupMarker }

def rules (o : Options) : Feed.Rules := ⟨o.failFast, o.maxLineLength⟩

end Options

inductive CountFault
  | empty
  | invalidDigit
  | tooLarge
  deriving DecidableEq, Repr

def CountFault.message : CountFault → String
  | empty => "cannot parse integer from empty string"
  | invalidDigit => "invalid digit found in string"
  | tooLarge => "number too large to fit in target type"

inductive Usage
  | unexpected (argument : String)
  | unneededValue (value : String) (switch : Switch)
  | missingValue (slot : Slot)
  | repeated (switch : Switch)
  | noFormat (value : String)
  | noSpan (value : String) (fault : Time.Span.Fault)
  | noCount (value : String) (fault : CountFault)
  deriving DecidableEq, Repr

/-- What was given is shown without what would act on a terminal. -/
def Usage.message (u : Usage) : String :=
  let given (value : String) : String := String.ofList (Text.Terminal.plain value.toList)
  match u with
  | unexpected argument => s!"unexpected argument '{given argument}' found"
  | unneededValue value switch =>
    s!"unexpected value '{given value}' for '{switch.display}' found; no more were expected"
  | missingValue slot => s!"a value is required for '{slot.display}' but none was supplied"
  | repeated switch => s!"the argument '{switch.display}' cannot be used multiple times"
  | noFormat value => s!"invalid value '{given value}' for '{Switch.format.display}'"
  | noSpan value fault =>
    s!"invalid value '{given value}' for '{Switch.resolveTimeout.display}': {fault.message}"
  | noCount value fault =>
    s!"invalid value '{given value}' for '{Switch.maxLineLength.display}': {fault.message}"

inductive Stop
  | help (extent : Help.Extent)
  | version
  | usage (fault : Usage)

/-- Below `2 ^ 64`.  The first character at fault is told. -/
def readDigits (n : Nat) : List Char → Except CountFault Nat
  | [] => .ok n
  | c :: r =>
    if !Text.isDigit c then .error .invalidDigit
    else if UInt64.size ≤ 10 * n + Text.digitValue c then .error .tooLarge
    else readDigits (10 * n + Text.digitValue c) r

def readCount (s : List Char) : Except CountFault Nat :=
  match s with
  | [] => .error .empty
  | ['+'] => .error .invalidDigit
  | '+' :: r => readDigits 0 r
  | s => readDigits 0 s

def setValue (slot : Slot) (value : String) (o : Options) : Except Usage Options :=
  match slot with
  | .switch .format =>
    match Format.ofName? value with
    | some f => .ok { o with format := f }
    | none =>
      .error (if value.isEmpty then .missingValue slot else .noFormat value)
  | .switch .label => .ok { o with label := value }
  | .switch .resolveTimeout =>
    match Time.Span.parse value.toList with
    | .ok span => .ok { o with resolveTimeout := span }
    | .error fault => .error (.noSpan value fault)
  | .switch .maxLineLength =>
    match readCount value.toList with
    | .ok n => .ok { o with maxLineLength := n }
    | .error fault => .error (.noCount value fault)
  | .switch .config =>
    if value.isEmpty then .error (.missingValue slot) else .ok { o with config := value }
  | .switch .output =>
    if value.isEmpty then .error (.missingValue slot) else .ok { o with output := value }
  | .input =>
    if value.isEmpty then .error (.missingValue slot) else .ok { o with input := value }
  | .switch _ => .ok o

def setSwitch (s : Switch) (o : Options) : Options :=
  match s with
  | .noResolve => { o with noResolve := true }
  | .noMarker => { o with noMarker := true }
  | .failFast => { o with failFast := true }
  | .stats => { o with stats := true }
  | .verbose => { o with verbosity := o.verbosity + 1 }
  | _ => o

/-- A value is given to its slot only when the next argument begins, so what is wrong with that
comes later than it stands. -/
structure Reading where
  options : Options := {}
  seen : List Switch := []
  waiting : Option (Slot × Option String) := none
  inputSeen : Bool := false
  onlyInput : Bool := false

namespace Reading

def see (s : Switch) (r : Reading) : Except Usage Reading :=
  if s ∈ r.seen then .error (.repeated s) else .ok { r with seen := s :: r.seen }

def settle (r : Reading) : Except Usage Reading :=
  match r.waiting with
  | none => .ok r
  | some (slot, none) => .error (.missingValue slot)
  | some (slot, some value) => do
    let r ← match slot with
      | .switch s => r.see s
      | .input => .ok r
    return { r with options := ← setValue slot value r.options, waiting := none }

def begin (s : Switch) (attached : Option String) (r : Reading) : Except Usage Reading := do
  let r := { ← r.settle with waiting := some (.switch s, attached) }
  if attached.isSome then r.settle else return r

def takeFlag (s : Switch) (extent : Help.Extent) (r : Reading) : Except Stop Reading := do
  let r ← r.settle.mapError .usage
  match s with
  | .help => .error (.help extent)
  | .version => .error .version
  | .verbose => return { r with options := setSwitch s r.options }
  | s =>
    let r ← (r.see s).mapError .usage
    return { r with options := setSwitch s r.options }

def takeLong (text : List Char) (r : Reading) : Except Stop Reading :=
  let name := text.takeWhile (· ≠ '=')
  let attached :=
    match text.drop name.length with
    | _ :: value => some (String.ofList value)
    | [] => none
  match Switch.ofLong? name with
  | none => .error (.usage (.unexpected ("--" ++ String.ofList name)))
  | some s =>
    if s.value?.isSome then (r.begin s attached).mapError .usage
    else match attached with
      | some value => .error (.usage (.unneededValue value s))
      | none => r.takeFlag s .full

/-- What follows a letter that has a value is its value, with or without an equals sign between. -/
def takeShort : List Char → Reading → Except Stop Reading
  | [], r => .ok r
  | c :: rest, r =>
    match Switch.ofShort? c with
    | none => .error (.usage (.unexpected ("-" ++ String.singleton c)))
    | some s =>
      if s.value?.isSome then
        let attached := match rest with
          | [] => none
          | '=' :: value => some (String.ofList value)
          | value => some (String.ofList value)
        (r.begin s attached).mapError .usage
      else do takeShort rest (← r.takeFlag s .summary)

def takeValue (argument : String) (r : Reading) : Except Stop Reading :=
  match r.onlyInput, r.waiting with
  | false, some (slot, none) => .ok { r with waiting := some (slot, some argument) }
  | _, _ =>
    if r.inputSeen then .error (.usage (.unexpected argument))
    else do
      let r ← r.settle.mapError .usage
      return { r with waiting := some (.input, some argument), inputSeen := true }

/-- Behind two dashes alone nothing is a switch. -/
def take (r : Reading) (argument : String) : Except Stop Reading :=
  match r.onlyInput, argument.toList with
  | true, _ => r.takeValue argument
  | false, ['-', '-'] => .ok { r with onlyInput := true }
  | false, ['-'] => r.takeValue argument
  | false, '-' :: '-' :: text => r.takeLong text
  | false, '-' :: text => r.takeShort text
  | false, _ => r.takeValue argument

end Reading

def Options.parse (arguments : List String) : Except Stop Options := do
  let r ← arguments.foldlM Reading.take {}
  let r ← r.settle.mapError .usage
  return r.options

end FlowLines.CommandLine
