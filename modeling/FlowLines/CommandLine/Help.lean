import FlowLines.CommandLine.Switch
import FlowLines.Feed

/-! What the program says about itself. -/

namespace FlowLines.CommandLine

def programName : String := "flowlog"

def versionText : String := programName ++ " 0.1.0\n"

def inputAbout : String := "Input file with one JSON flow record per line (default: stdin)"

namespace Help

inductive Extent
  | summary
  | full
  deriving DecidableEq

def formatAbout : Format → String
  | .line => "Human-readable flow lines (label source=... dest=... bytes=...)"
  | .logfmt => "Logfmt format (key=value pairs)"
  | .jsonLines => "JSON Lines format (one JSON object per flow)"
  | .xml => "One <flow> XML element per flow"

def about (extent : Extent) : Switch → String
  | .format => "Output format"
  | .label => "Label printed at the start of every flow line"
  | .noResolve => "Print addresses as given instead of reverse-resolving them"
  | .resolveTimeout => "Longest wait for a single reverse lookup (e.g. 250ms, 1s)"
  | .config => "YAML settings file, also handed to the backend at startup"
  | .output => "Output file (default: stdout)"
  | .noMarker => "Do not emit the startup marker"
  | .failFast => "Fail on the first malformed record instead of skipping it"
  | .maxLineLength => "Maximum input line length"
  | .stats => "Print processing statistics to stderr when done"
  | .verbose => "Increase log verbosity (-v info, -vv debug, -vvv trace)"
  | .help =>
    match extent with
    | .summary => "Print help (see more with '--help')"
    | .full => "Print help (see a summary with '-h')"
  | .version => "Print version"

def margin : String := "          "

def heading (s : Switch) : String :=
  match s.short? with
  | some c => "  -" ++ String.singleton c ++ ", " ++ s.display
  | none => "      " ++ s.display

def possibleValue (f : Format) : String :=
  let name := f.name ++ ":"
  let room := "".pushn ' ' (8 - name.length)
  margin ++ "- " ++ name ++ room ++ formatAbout f

def defaultLength : String :=
  "[default: " ++ toString ({} : Feed.Rules).maxLineLength ++ "]"

def body (extent : Extent) (s : Switch) : List String :=
  let text := margin ++ about extent s
  match extent, s with
  | .summary, .format =>
    let names := ", ".intercalate (Format.all.map Format.name)
    [text ++ " [possible values: " ++ names ++ "]"]
  | .summary, .maxLineLength => [text ++ " " ++ defaultLength]
  | .full, .format => text :: "" :: (margin ++ "Possible values:") :: Format.all.map possibleValue
  | .full, .maxLineLength => [text, margin, margin ++ defaultLength]
  | _, _ => [text]

def switchLines (extent : Extent) : List String :=
  let parts := Switch.all.map fun s => heading s :: body extent s
  match extent with
  | .summary => parts.flatten
  | .full => [""].intercalate parts

def inputLines : Extent → List String
  | .summary => ["  [INPUT]  " ++ inputAbout]
  | .full => ["  [INPUT]", margin ++ inputAbout]

def text (extent : Extent) : String :=
  let lines :=
    ["Format network flow records as log lines", "",
      "Usage: " ++ programName ++ " [OPTIONS] [INPUT]", "", "Arguments:"] ++
    inputLines extent ++ ["", "Options:"] ++ switchLines extent
  "\n".intercalate lines ++ "\n"

end Help

end FlowLines.CommandLine
