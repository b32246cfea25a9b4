import FlowLines.Proofs.Settings.Given
import Mathlib.Data.List.Nodup

/-! Reading the members of a settings file, each for itself: it succeeds exactly if each of them can
be read and no setting is given twice, and then every setting has the value that its member
gives. -/

namespace FlowLines

namespace Yaml

theorem Node.shape_untag (n : Node) : n.untag.shape = n.shape := by
  induction n using Node.untag.induct with
  | case1 tag n ih => exact ih
  | case2 n h => rw [Node.untag.eq_2 n h]

end Yaml

namespace Settings

open FlowLines.Yaml (Node)

def get (s : Settings) : (key : Key) → key.Value
  | .label => s.label
  | .format => s.format
  | .resolve => s.resolve
  | .resolveTimeout => s.resolveTimeout
  | .hosts => s.hosts
  | .startupMarker => s.startupMarker

theorem eq_of_get {s t : Settings} (h : ∀ key, s.get key = t.get key) : s = t := by
  obtain ⟨label, format, resolve, resolveTimeout, hosts, startupMarker⟩ := s
  obtain rfl : label = t.label := h .label
  obtain rfl : format = t.format := h .format
  obtain rfl : resolve = t.resolve := h .resolve
  obtain rfl : resolveTimeout = t.resolveTimeout := h .resolveTimeout
  obtain rfl : hosts = t.hosts := h .hosts
  obtain rfl : startupMarker = t.startupMarker := h .startupMarker
  rfl

def standard (key : Key) : key.Value := get {} key

theorem get_toSettings (g : Given) (key : Key) :
    g.toSettings.get key = (g key).getD (standard key) := by
  cases key <;> rfl

theorem untag_of_text? {n : Node} {s : List Char} (h : text? n = some s) :
    n.untag = .scalar (.text s) := by
  unfold text? at h
  split at h
  · next t ht => rw [ht, Option.some.inj h]
  · cases h

theorem readText_of_text {n : Node} {s : List Char} (h : text? n = some s) (wanted : String) :
    readText wanted n = .ok (String.ofList s) := by
  rw [readText, untag_of_text? h]

theorem readText_of_no_text {n : Node} (h : text? n = none) (wanted : String) :
    readText wanted n = .error (.mismatch n.shape wanted) := by
  unfold text? at h
  unfold readText
  split
  · next ht =>
    rw [ht] at h
    cases h
  · rw [Node.shape_untag]

def named? (m : Node × Node) : Option Key :=
  (text? m.1).bind fun s => Key.ofName? (String.ofList s)

theorem named?_eq_some_iff {m : Node × Node} {key : Key} :
    named? m = some key ↔ text? m.1 = some key.name.toList := by
  unfold named?
  constructor
  · intro h
    obtain ⟨s, hs, hkey⟩ := Option.bind_eq_some_iff.1 h
    rw [hs, name_of_ofName? hkey, String.toList_ofList]
  · intro h
    rw [h, Option.bind_some, String.ofList_toList, ofName?_name]

/-- The key of a member is a text, and its value is one of the setting that it is for. -/
def Fits (m : Node × Node) : Prop :=
  (text? m.1).isSome ∧ ∀ key, named? m = some key → ∃ v, key.read m.2 = .ok v

theorem fits_iff_of_named {m : Node × Node} {key : Key} (h : named? m = some key) :
    Fits m ↔ ∃ v, key.read m.2 = .ok v := by
  refine ⟨fun hfits => hfits.2 key h, fun hread => ⟨?_, fun other hother => ?_⟩⟩
  · rw [named?_eq_some_iff.1 h]
    rfl
  · rwa [← Option.some.inj (h.symm.trans hother)]

section

variable (g : Given) {m : Node × Node} (ms : List (Node × Node))

theorem readMembers_of_no_text (h : text? m.1 = none) :
    g.readMembers (m :: ms) = .error (.mismatch m.1.shape "field identifier") := by
  rw [Given.readMembers, readText_of_no_text h]
  rfl

theorem readMembers_of_unnamed (htext : (text? m.1).isSome) (h : named? m = none) :
    g.readMembers (m :: ms) = g.readMembers ms := by
  obtain ⟨s, hs⟩ := Option.isSome_iff_exists.1 htext
  have hname : Key.ofName? (String.ofList s) = none := by
    rw [named?, hs] at h
    exact h
  rw [Given.readMembers, readText_of_text hs, ok_bind, hname]

theorem readMembers_of_named {key : Key} (h : named? m = some key) :
    g.readMembers (m :: ms) =
      if (g key).isSome then .error (.duplicate key.name)
      else key.read m.2 >>= fun v => Given.readMembers (g.set key v) ms := by
  rw [Given.readMembers, readText_of_text (named?_eq_some_iff.1 h), ok_bind,
    String.ofList_toList, ofName?_name]

theorem readMembers_append (a b : List (Node × Node)) :
    g.readMembers (a ++ b) = g.readMembers a >>= fun g => g.readMembers b := by
  induction a generalizing g with
  | nil => rfl
  | cons m a ih =>
    rw [List.cons_append]
    cases htext : text? m.1 with
    | none =>
      rw [readMembers_of_no_text g _ htext, readMembers_of_no_text g _ htext]
      rfl
    | some s =>
      have hsome : (text? m.1).isSome := by rw [htext]; rfl
      cases hnamed : named? m with
      | none =>
        rw [readMembers_of_unnamed g _ hsome hnamed, readMembers_of_unnamed g _ hsome hnamed, ih]
      | some key =>
        rw [readMembers_of_named g _ hnamed, readMembers_of_named g _ hnamed]
        split
        · rfl
        · cases key.read m.2 with
          | error fault => rfl
          | ok v => exact ih _

end

def named (ms : List (Node × Node)) : List Key := ms.filterMap named?

theorem set_eq_none_iff {g : Given} {key other : Key} {v : key.Value} :
    g.set key v other = none ↔ other ≠ key ∧ g other = none := by
  by_cases h : other = key
  · subst h
    simp
  · simp [Draft.set_of_ne g v (Ne.symm h), h]

theorem exists_readMembers_iff (g : Given) (ms : List (Node × Node)) :
    (∃ g', g.readMembers ms = .ok g') ↔
      (∀ m ∈ ms, Fits m) ∧ (named ms).Nodup ∧ ∀ key ∈ named ms, g key = none := by
  induction ms generalizing g with
  | nil => simp [Given.readMembers, named]
  | cons m ms ih =>
    rw [List.forall_mem_cons]
    cases htext : text? m.1 with
    | none => simp [readMembers_of_no_text g _ htext, Fits, htext]
    | some s =>
      have hsome : (text? m.1).isSome := by rw [htext]; rfl
      cases hnamed : named? m with
      | none =>
        have hfits : Fits m := ⟨hsome, fun key hkey => (nomatch hnamed.symm.trans hkey)⟩
        have hcons : named (m :: ms) = named ms := List.filterMap_cons_none hnamed
        rw [readMembers_of_unnamed g _ hsome hnamed, ih, hcons]
        simp [hfits]
      | some key =>
        have hcons : named (m :: ms) = key :: named ms := List.filterMap_cons_some hnamed
        rw [readMembers_of_named g _ hnamed, hcons, List.nodup_cons, List.forall_mem_cons,
          fits_iff_of_named hnamed]
        cases hfresh : g key with
        | some v => simp
        | none =>
          cases hread : key.read m.2 with
          | error fault => simp
          | ok v =>
            have hrest : (∀ other ∈ named ms, g.set key v other = none) ↔
                key ∉ named ms ∧ ∀ other ∈ named ms, g other = none := by
              simp only [set_eq_none_iff]
              constructor
              · exact fun h => ⟨fun hmem => (h key hmem).1 rfl, fun other hmem => (h other hmem).2⟩
              · exact fun ⟨hnew, h⟩ other hmem => ⟨ne_of_mem_of_not_mem hmem hnew, h other hmem⟩
            rw [Option.isSome_none, if_neg Bool.false_ne_true, ok_bind, ih, hrest]
            simp only [Except.ok.injEq, exists_eq', true_and]
            tauto

theorem ofNode_of_mapping {document : Node} {ms : List (Node × Node)}
    (h : document.untag = .mapping ms) :
    ofNode document = Given.toSettings <$> Given.readMembers Draft.empty ms := by
  rw [ofNode, h]

theorem exists_ofNode_iff {document : Node} {ms : List (Node × Node)}
    (h : document.untag = .mapping ms) :
    (∃ s, ofNode document = .ok s) ↔ (∀ m ∈ ms, Fits m) ∧ (named ms).Nodup := by
  have hmap : (∃ s, ofNode document = .ok s) ↔
      ∃ g, Given.readMembers Draft.empty ms = .ok g := by
    rw [ofNode_of_mapping h]
    cases Given.readMembers Draft.empty ms <;> simp
  rw [hmap, exists_readMembers_iff]
  simp [Draft.empty]

theorem exists_ofNode_singleton_iff (m : Node × Node) :
    (∃ s, ofNode (.mapping [m]) = .ok s) ↔ Fits m := by
  rw [exists_ofNode_iff rfl, List.forall_mem_singleton]
  have hnodup : (named [m]).Nodup := by
    unfold named
    cases h : named? m with
    | none => simp [h]
    | some key => simp [h]
  exact and_iff_left hnodup

theorem value?_of_named {m : Node × Node} {key : Key} (h : named? m = some key) :
    value? key m = (key.read m.2).toOption := if_pos (named?_eq_some_iff.1 h)

theorem value?_eq_none {m : Node × Node} {key : Key} (h : named? m ≠ some key) :
    value? key m = none := if_neg fun htext => h (named?_eq_some_iff.2 htext)

theorem findSome?_value {ms : List (Node × Node)} (distinct : (named ms).Nodup) {m : Node × Node}
    (hm : m ∈ ms) {key : Key} (h : named? m = some key) :
    ms.findSome? (value? key) = (key.read m.2).toOption := by
  induction ms with
  | nil => cases hm
  | cons other ms ih =>
    rw [List.findSome?_cons]
    rcases List.mem_cons.1 hm with rfl | hm
    · rw [value?_of_named h]
      have hcons : named (m :: ms) = key :: named ms := List.filterMap_cons_some h
      rw [hcons, List.nodup_cons] at distinct
      have hnone : ms.findSome? (value? key) = none := by
        rw [List.findSome?_eq_none_iff]
        exact fun other hother => value?_eq_none fun hkey =>
          distinct.1 (List.mem_filterMap.2 ⟨other, hother, hkey⟩)
      rw [hnone]
      cases (key.read m.2).toOption <;> rfl
    · have hrest : (named ms).Nodup :=
        distinct.sublist ((List.sublist_cons_self other ms).filterMap named?)
      have hother : named? other ≠ some key := by
        intro hkey
        have hcons : named (other :: ms) = key :: named ms := List.filterMap_cons_some hkey
        rw [hcons, List.nodup_cons] at distinct
        exact distinct.1 (List.mem_filterMap.2 ⟨m, hm, h⟩)
      rw [value?_eq_none hother]
      exact ih hrest hm

section

variable {document : Node} {ms : List (Node × Node)} {s : Settings}

theorem get_ofNode (hmapping : document.untag = .mapping ms) (h : ofNode document = .ok s)
    (key : Key) : s.get key = (ms.findSome? (value? key)).getD (standard key) := by
  rw [ofNode_ok h, get_toSettings, given, members, hmapping]

theorem get_of_mem (hmapping : document.untag = .mapping ms) (h : ofNode document = .ok s)
    {m : Node × Node} (hm : m ∈ ms) {key : Key} (hkey : named? m = some key) :
    key.read m.2 = .ok (s.get key) := by
  obtain ⟨fits, distinct⟩ := (exists_ofNode_iff hmapping).1 ⟨s, h⟩
  obtain ⟨v, hv⟩ := (fits m hm).2 key hkey
  rw [get_ofNode hmapping h, findSome?_value distinct hm hkey, hv]
  rfl

theorem get_of_notMem (hmapping : document.untag = .mapping ms) (h : ofNode document = .ok s)
    {key : Key} (hkey : key ∉ named ms) : s.get key = standard key := by
  have hnone : ms.findSome? (value? key) = none := by
    rw [List.findSome?_eq_none_iff]
    exact fun m hm => value?_eq_none fun hnamed => hkey (List.mem_filterMap.2 ⟨m, hm, hnamed⟩)
  rw [get_ofNode hmapping h, hnone]
  rfl

theorem ofNode_perm {document' : Node} {ms' : List (Node × Node)}
    (hmapping : document.untag = .mapping ms) (hmapping' : document'.untag = .mapping ms')
    (h : ms'.Perm ms) : (ofNode document').toOption = (ofNode document).toOption := by
  have hnamed : (named ms').Perm (named ms) := h.filterMap named?
  have hexists : (∃ s, ofNode document' = .ok s) ↔ ∃ s, ofNode document = .ok s := by
    rw [exists_ofNode_iff hmapping', exists_ofNode_iff hmapping, hnamed.nodup_iff]
    exact and_congr_left fun _ => forall_congr' fun m => by rw [h.mem_iff]
  cases hdocument : ofNode document with
  | error fault =>
    cases hdocument' : ofNode document' with
    | error fault' => rfl
    | ok s' =>
      obtain ⟨s, hs⟩ := hexists.1 ⟨s', hdocument'⟩
      cases hdocument.symm.trans hs
  | ok s =>
    obtain ⟨s', hdocument'⟩ := hexists.2 ⟨s, hdocument⟩
    rw [hdocument']
    refine congrArg some (eq_of_get fun key => ?_)
    by_cases hkey : key ∈ named ms
    · obtain ⟨m, hm, hnamed⟩ := List.mem_filterMap.1 hkey
      have hvalue := get_of_mem hmapping hdocument hm hnamed
      have hvalue' := get_of_mem hmapping' hdocument' (h.mem_iff.2 hm) hnamed
      exact Except.ok.inj (hvalue'.symm.trans hvalue)
    · rw [get_of_notMem hmapping hdocument hkey,
        get_of_notMem hmapping' hdocument' fun hmem => hkey (hnamed.mem_iff.1 hmem)]

end

end Settings

end FlowLines
