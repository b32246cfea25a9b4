import FlowLines.Draft
import FlowLines.Flow.Entry
import FlowLines.Json.Decode

/-! The fields of a flow by name, and flows that are known in part. -/

namespace FlowLines.Flow

open FlowLines.Time (Instant)

inductive Field
  | sourceHost | sourcePort | destHost | destPort | byteCount
  | nextHop | packetCount | protocol | tcpFlags | tos
  | sourceAs | destAs | snmpIn | snmpOut | firstSeen | lastSeen
  deriving DecidableEq, Repr

namespace Field

def all : List Field :=
  [sourceHost, sourcePort, destHost, destPort, byteCount, nextHop, packetCount, protocol,
    tcpFlags, tos, sourceAs, destAs, snmpIn, snmpOut, firstSeen, lastSeen]

def name : Field → String
  | sourceHost => "source_host"
  | sourcePort => "source_port"
  | destHost => "dest_host"
  | destPort => "dest_port"
  | byteCount => "byte_count"
  | nextHop => "next_hop"
  | packetCount => "packet_count"
  | protocol => "protocol"
  | tcpFlags => "tcp_flags"
  | tos => "tos"
  | sourceAs => "source_as"
  | destAs => "dest_as"
  | snmpIn => "snmp_in"
  | snmpOut => "snmp_out"
  | firstSeen => "first_seen"
  | lastSeen => "last_seen"

def aliases : Field → List String
  | byteCount => ["bytes", "num_octets"]
  | _ => []

def ofName? (key : String) : Option Field :=
  all.find? fun f => f.name = key || f.aliases.contains key

def Value : Field → Type
  | sourceHost | destHost => String
  | sourcePort | destPort => UInt16
  | byteCount => UInt64
  | nextHop => Option String
  | packetCount => Option UInt64
  | protocol | tcpFlags | tos => Option UInt8
  | sourceAs | destAs | snmpIn | snmpOut => Option UInt16
  | firstSeen | lastSeen => Option Instant

def absent? : (f : Field) → Option f.Value
  | sourceHost | sourcePort | destHost | destPort | byteCount => none
  | nextHop | packetCount | protocol | tcpFlags | tos => some none
  | sourceAs | destAs | snmpIn | snmpOut | firstSeen | lastSeen => some none

end Field

abbrev Draft : Type := FlowLines.Draft Field.Value

namespace Draft

def get (d : Draft) (f : Field) : Except Json.Cause f.Value :=
  match d f, f.absent? with
  | some v, _ => .ok v
  | none, some v => .ok v
  | none, none => .error (.missing f.name)

def toEntry (d : Draft) : Except Json.Cause Entry := do
  return {
    sourceHost := ← d.get .sourceHost
    sourcePort := ← d.get .sourcePort
    destHost := ← d.get .destHost
    destPort := ← d.get .destPort
    byteCount := ← d.get .byteCount
    nextHop := ← d.get .nextHop
    packetCount := ← d.get .packetCount
    protocol := ← d.get .protocol
    tcpFlags := ← d.get .tcpFlags
    tos := ← d.get .tos
    sourceAs := ← d.get .sourceAs
    destAs := ← d.get .destAs
    snmpIn := ← d.get .snmpIn
    snmpOut := ← d.get .snmpOut
    firstSeen := ← d.get .firstSeen
    lastSeen := ← d.get .lastSeen }

end Draft

end FlowLines.Flow
