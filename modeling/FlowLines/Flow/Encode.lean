import FlowLines.Flow.Entry
import FlowLines.Json.Encode

/-! Writing records as JSON, in the form in which they are read by name. -/

namespace FlowLines.Flow

open FlowLines.Json (Scalar writeObject)

def Entry.members (e : Entry) : Json.Object :=
  let known (name : String) (value : Option Scalar) : Json.Object :=
    (value.map (name, ·)).toList
  [("source_host", .text e.sourceHost), ("source_port", .natural e.sourcePort.toNat),
    ("dest_host", .text e.destHost), ("dest_port", .natural e.destPort.toNat),
    ("byte_count", .natural e.byteCount.toNat)] ++
  known "next_hop" (e.nextHop.map .text) ++
  known "packet_count" (e.packetCount.map (.natural ·.toNat)) ++
  known "protocol" (e.protocol.map (.natural ·.toNat)) ++
  known "tcp_flags" (e.tcpFlags.map (.natural ·.toNat)) ++
  known "tos" (e.tos.map (.natural ·.toNat)) ++
  known "source_as" (e.sourceAs.map (.natural ·.toNat)) ++
  known "dest_as" (e.destAs.map (.natural ·.toNat)) ++
  known "snmp_in" (e.snmpIn.map (.natural ·.toNat)) ++
  known "snmp_out" (e.snmpOut.map (.natural ·.toNat)) ++
  known "first_seen" (e.firstSeen.map (.text <| String.ofList <| ·.write .letter)) ++
  known "last_seen" (e.lastSeen.map (.text <| String.ofList <| ·.write .letter))

def Entry.write (e : Entry) : List Char := writeObject e.members

def Record.write (r : Record) : List Char :=
  "\x7b\"flows\":[".toList ++ [','].intercalate (r.flows.map Entry.write) ++ "]\x7d".toList

end FlowLines.Flow
