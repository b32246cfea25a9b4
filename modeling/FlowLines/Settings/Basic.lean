import FlowLines.Host.Resolver
import FlowLines.Layout.Format
import FlowLines.Reporter
import FlowLines.Text.Quoted

/-! How flows are reported: what an operator can choose, and what holds without a choice. -/

namespace FlowLines

/-- `hosts` are named before any name service is asked, and `resolve` tells whether one is. -/
structure Settings where
  label : String := defaultLabel
  format : Format := .line
  resolve : Bool := true
  resolveTimeout : Time.Span := Host.defaultTimeout
  hosts : Host.Table := []
  startupMarker : Option String := some defaultMarker
  deriving DecidableEq, Repr, Inhabited

namespace Settings

variable {σ : Type}

def resolver (s : Settings) (service : Host.NameService σ) :
    Host.Resolver (Host.NameCache × σ) :=
  let base : Host.Resolver (Host.NameCache × σ) :=
    if s.resolve then .reverse s.resolveTimeout service else .raw
  if s.hosts.isEmpty then base else .table s.hosts (some base)

def reporter (s : Settings) (service : Host.NameService σ) :
    Reporter (Host.NameCache × σ) where
  layout := s.format.layout s.label
  resolver := s.resolver service
  marker := s.startupMarker

def describe (s : Settings) : String :=
  let quoted (t : String) : String := String.ofList (Text.quoted t.toList)
  let hosts := ", ".intercalate (s.hosts.map fun (host, name) => quoted host ++ ": " ++ quoted name)
  let timeout := String.ofList s.resolveTimeout.write
  let marker := match s.startupMarker with
    | none => "None"
    | some m => "Some(" ++ quoted m ++ ")"
  "Settings \x7b label: " ++ quoted s.label ++ ", format: " ++ s.format.title ++
    ", resolve: " ++ toString s.resolve ++ ", resolve_timeout: " ++ timeout ++
    ", hosts: \x7b" ++ hosts ++ "\x7d, startup_marker: " ++ marker ++ " \x7d"

end Settings

end FlowLines
