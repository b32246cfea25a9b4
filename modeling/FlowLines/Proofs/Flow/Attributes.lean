import FlowLines.Flow.Entry

/-! The names of the attributes of a flow. -/

namespace FlowLines.Flow

def attributeNames : List String :=
  ["next_hop", "packet_count", "protocol", "tcp_flags", "tos", "source_as", "dest_as", "snmp_in",
    "snmp_out", "first_seen", "last_seen"]

theorem names_of_known (name : String) (value : Option (List Char)) :
    ((value.map fun v => (name, String.ofList v)).toList.map Prod.fst).Sublist [name] := by
  cases value with
  | none => exact List.nil_sublist [name]
  | some v => exact List.Sublist.refl [name]

/-- Which attributes there are depends on the flow, their order does not. -/
theorem names_attributes (e : Entry) : (e.attributes.map Prod.fst).Sublist attributeNames := by
  simp only [Entry.attributes, List.map_append]
  have h (name : String) (value : Option (List Char)) := names_of_known name value
  exact ((((((((((h "next_hop" _).append (h "packet_count" _)).append (h "protocol" _)).append
    (h "tcp_flags" _)).append (h "tos" _)).append (h "source_as" _)).append
    (h "dest_as" _)).append (h "snmp_in" _)).append (h "snmp_out" _)).append
    (h "first_seen" _)).append (h "last_seen" _)

theorem mem_attributeNames {e : Entry} {p : String × String} (h : p ∈ e.attributes) :
    p.1 ∈ attributeNames :=
  (names_attributes e).subset (List.mem_map_of_mem h)

theorem attributes_nextHop (e : Entry) : e.attributes =
    (e.nextHop.map fun hop => ("next_hop", hop)).toList ++
      { e with nextHop := none }.attributes := by
  cases hop : e.nextHop with
  | none => simp [Entry.attributes, hop]
  | some hop' => simp [Entry.attributes, hop, String.ofList_toList]

end FlowLines.Flow
