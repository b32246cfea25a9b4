import FlowLines.Proofs.Text.Control
import FlowLines.Reporter

/-! Without a name service, hosts are shown under names that stand for themselves. -/

namespace FlowLines

open FlowLines.Text (reveal trimStart)

def rawName (host : String) : String :=
  if (trimStart host.toList).isEmpty then unknownHost else String.ofList (reveal host.toList)

theorem rawName_of_clean {name : String} (hblank : trimStart name.toList ≠ [])
    (hclean : name.toList.any Text.isControl = false) : rawName name = name := by
  rw [rawName, if_neg (by rwa [List.isEmpty_iff]), Text.reveal_of_clean hclean,
    String.ofList_toList]

theorem rawName_rawName (host : String) : rawName (rawName host) = rawName host := by
  by_cases h : (trimStart host.toList).isEmpty
  · have hname : rawName host = unknownHost := if_pos h
    rw [hname]
    exact rawName_of_clean (by decide +kernel) (by decide +kernel)
  · have hname : rawName host = String.ofList (reveal host.toList) := if_neg h
    rw [List.isEmpty_iff] at h
    rw [hname]
    apply rawName_of_clean
    · rw [String.toList_ofList]
      exact Text.trimStart_reveal_ne_nil h
    · rw [String.toList_ofList]
      exact Text.any_isControl_reveal host.toList

namespace Reporter

variable {σ : Type} {r : Reporter σ}

theorem showHost_raw (h : r.resolver = Host.Resolver.raw) (host : String) (d : Desk σ) :
    r.showHost host d = (rawName host, d) := by
  by_cases hblank : (trimStart host.toList).isEmpty
  · simp [showHost, rawName, hblank]
  · simp [showHost, rawName, hblank, h, Host.Resolver.raw]

theorem showFlow_raw (h : r.resolver = Host.Resolver.raw) (flow : Flow.Entry) (d : Desk σ) :
    r.showFlow flow d = (⟨flow, rawName flow.sourceHost, rawName flow.destHost⟩, d) := by
  simp only [showFlow, showHost_raw h]

theorem write_singleton_congr {a b : Flow.Entry} {d : Desk σ}
    (hd : (r.showFlow a d).2 = (r.showFlow b d).2)
    (hline : r.layout.entry (r.showFlow a d).1 = r.layout.entry (r.showFlow b d).1) :
    r.write ⟨[a]⟩ d = r.write ⟨[b]⟩ d := by
  have h : r.writeFlow 0 a d = r.writeFlow 0 b d := by
    simp only [writeFlow, hd, hline]
  simp only [write, writeFlows, h]

end Reporter

end FlowLines
