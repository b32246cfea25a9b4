import FlowLines.Time.Instant

/-! A flow: one observed network session between two hosts, and the record of flows that are
reported together. -/

namespace FlowLines.Flow

open FlowLines.Time (Instant)

structure Entry where
  sourceHost : String := ""
  sourcePort : UInt16 := 0
  destHost : String := ""
  destPort : UInt16 := 0
  byteCount : UInt64 := 0
  nextHop : Option String := none
  packetCount : Option UInt64 := none
  protocol : Option UInt8 := none
  tcpFlags : Option UInt8 := none
  tos : Option UInt8 := none
  sourceAs : Option UInt16 := none
  destAs : Option UInt16 := none
  snmpIn : Option UInt16 := none
  snmpOut : Option UInt16 := none
  firstSeen : Option Instant := none
  lastSeen : Option Instant := none
  deriving DecidableEq, Repr, Inhabited

def Entry.new (sourceHost : String) (sourcePort : UInt16) (destHost : String) (destPort : UInt16)
    (byteCount : UInt64) : Entry :=
  { sourceHost, sourcePort, destHost, destPort, byteCount }

structure Record where
  flows : List Entry := []
  deriving DecidableEq, Repr, Inhabited

abbrev Attributes := List (String × String)

open FlowLines.Text (decimal)

def Entry.attributes (e : Entry) : Attributes :=
  let text (name : String) (value : Option (List Char)) : Attributes :=
    (value.map fun v => (name, String.ofList v)).toList
  text "next_hop" (e.nextHop.map String.toList) ++
  text "packet_count" (e.packetCount.map fun n => decimal n.toNat) ++
  text "protocol" (e.protocol.map fun n => decimal n.toNat) ++
  text "tcp_flags" (e.tcpFlags.map fun n => decimal n.toNat) ++
  text "tos" (e.tos.map fun n => decimal n.toNat) ++
  text "source_as" (e.sourceAs.map fun n => decimal n.toNat) ++
  text "dest_as" (e.destAs.map fun n => decimal n.toNat) ++
  text "snmp_in" (e.snmpIn.map fun n => decimal n.toNat) ++
  text "snmp_out" (e.snmpOut.map fun n => decimal n.toNat) ++
  text "first_seen" (e.firstSeen.map (Instant.write .digits)) ++
  text "last_seen" (e.lastSeen.map (Instant.write .digits))

end FlowLines.Flow
