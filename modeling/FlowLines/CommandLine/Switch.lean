import FlowLines.Settings.Basic

/-! What can stand on the command line. -/

namespace FlowLines.CommandLine

inductive Switch
  | format
  | label
  | noResolve
  | resolveTimeout
  | config
  | output
  | noMarker
  | failFast
  | maxLineLength
  | stats
  | verbose
  | help
  | version
  deriving DecidableEq, Repr

namespace Switch

def all : List Switch :=
  [format, label, noResolve, resolveTimeout, config, output, noMarker, failFast, maxLineLength,
    stats, verbose, help, version]

def long : Switch → String
  | format => "format"
  | label => "label"
  | noResolve => "no-resolve"
  | resolveTimeout => "resolve-timeout"
  | config => "config"
  | output => "output"
  | noMarker => "no-marker"
  | failFast => "fail-fast"
  | maxLineLength => "max-line-length"
  | stats => "stats"
  | verbose => "verbose"
  | help => "help"
  | version => "version"

def short? : Switch → Option Char
  | format => some 'F'
  | label => some 'l'
  | config => some 'c'
  | output => some 'o'
  | verbose => some 'v'
  | help => some 'h'
  | version => some 'V'
  | _ => none

def value? : Switch → Option String
  | format => some "FORMAT"
  | label => some "LABEL"
  | resolveTimeout => some "DURATION"
  | config => some "CONFIG_FILE"
  | output => some "OUTPUT_FILE"
  | maxLineLength => some "MAX_LINE_LENGTH"
  | _ => none

def ofLong? (name : List Char) : Option Switch := all.find? (·.long.toList = name)

def ofShort? (c : Char) : Option Switch := all.find? (·.short? = some c)

def display (s : Switch) : String :=
  match s.value? with
  | some value => "--" ++ s.long ++ " <" ++ value ++ ">"
  | none => "--" ++ s.long ++ if s = verbose then "..." else ""

end Switch

inductive Slot
  | switch (switch : Switch)
  | input
  deriving DecidableEq, Repr

def Slot.display : Slot → String
  | switch s => s.display
  | input => "[INPUT]"

end FlowLines.CommandLine
