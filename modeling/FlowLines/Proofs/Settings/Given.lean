import FlowLines.Proofs.Except
import FlowLines.Settings.Decode

/-! What a settings file gives: the value of a setting is the one that stands under its name. -/

namespace FlowLines.Settings

open FlowLines.Yaml (Node)

def text? (n : Node) : Option (List Char) :=
  match n.untag with
  | .scalar (.text s) => some s
  | _ => none

def members (n : Node) : List (Node × Node) :=
  match n.untag with
  | .mapping ms => ms
  | _ => []

def value? (key : Key) (m : Node × Node) : Option key.Value :=
  if text? m.1 = some key.name.toList then (key.read m.2).toOption else none

def given (document : Node) : Given := fun key => (members document).findSome? (value? key)

def document? (bytes : List UInt8) : Option Node :=
  (Text.Utf8.decode bytes).toOption.bind Node.ofText?

theorem text_of_readText {wanted : String} {n : Node} {s : String}
    (h : readText wanted n = .ok s) : text? n = some s.toList := by
  unfold readText at h
  split at h
  · next t ht =>
    cases h
    simp only [text?, ht, String.toList_ofList]
  · cases h

theorem ofName?_name (key : Key) : Key.ofName? key.name = some key := by
  cases key <;> rfl

theorem name_of_ofName? {s : String} {key : Key} (h : Key.ofName? s = some key) : key.name = s := by
  simpa using List.find?_some h

theorem readMembers_ok {g g' : Given} {ms : List (Node × Node)}
    (h : Given.readMembers g ms = .ok g') (key : Key) :
    g' key = (g key).or (ms.findSome? (value? key)) := by
  induction ms generalizing g with
  | nil =>
    cases h
    rw [List.findSome?_nil, Option.or_none]
  | cons m ms ih =>
    obtain ⟨k, v⟩ := m
    obtain ⟨name, hname, h⟩ := bind_eq_ok h
    have htext := text_of_readText hname
    cases hkey : Key.ofName? name with
    | none =>
      have hskip : value? key (k, v) = none := by
        refine if_neg fun heq => ?_
        rw [htext] at heq
        rw [String.toList_injective (Option.some.inj heq), ofName?_name] at hkey
        cases hkey
      rw [hkey] at h
      rw [ih h, List.findSome?_cons, hskip]
    | some named =>
      have hnamed := name_of_ofName? hkey
      simp only [hkey] at h
      split at h
      · cases h
      · next hfresh =>
        obtain ⟨x, hx, h⟩ := bind_eq_ok h
        rw [ih h, List.findSome?_cons]
        by_cases heq : named = key
        · subst heq
          have hfound : value? named (k, v) = some x := by
            rw [value?, if_pos (by rw [htext, hnamed]), hx]
            rfl
          have hnone : g named = none := by simpa using hfresh
          rw [Draft.set_same, hfound, hnone]
          rfl
        · have hskip : value? key (k, v) = none := by
            refine if_neg fun hk => heq ?_
            rw [htext] at hk
            rw [String.toList_injective (Option.some.inj hk), ofName?_name] at hkey
            exact (Option.some.inj hkey).symm
          rw [Draft.set_of_ne _ _ heq, hskip]

theorem ofNode_ok {document : Node} {s : Settings} (h : ofNode document = .ok s) :
    s = (given document).toSettings := by
  unfold ofNode at h
  unfold given members
  split at h
  · next hnull =>
    cases h
    rw [hnull]
    rfl
  · next ms hms =>
    obtain ⟨g, hg, rfl⟩ := map_eq_ok h
    have hgiven : g = fun key => ms.findSome? (value? key) := by
      funext key
      exact readMembers_ok hg key
    rw [hms, hgiven]
  · cases h

theorem ofFile_ok {path : String} {bytes : List UInt8} {loaded : Loaded}
    (h : ofFile path (.ok bytes) = .ok loaded) :
    document? bytes = some loaded.document ∧
      loaded.settings = (given loaded.document).toSettings := by
  unfold ofFile at h
  unfold document?
  dsimp only at h
  split at h
  · cases h
  · next text htext =>
    unfold ofText at h
    split at h
    · cases h
    · next document hdocument =>
      obtain ⟨s, hs, rfl⟩ := map_eq_ok h
      rw [htext]
      exact ⟨hdocument, ofNode_ok hs⟩

end FlowLines.Settings
