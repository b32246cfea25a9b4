import FlowLines.Proofs.Host.Table
import FlowLines.Proofs.Settings.Members
import FlowLines.Proofs.Yaml.Equal
import FlowLines.Proofs.Yaml.Keys

/-! A settings file read as a whole and member by member.  Nothing that one member says bears on
another, and hosts keep the order of their entries. -/

namespace FlowLines.Settings

open FlowLines.Host (Table)
open FlowLines.Yaml (Node)

theorem eq_of_text? {n : Node} {s : List Char} (plain : n.untag = n) (h : text? n = some s) :
    n = .scalar (.text s) := plain.symm.trans (untag_of_text? h)

theorem untag_of_members {n : Node} (h : members n ≠ []) : n.untag = .mapping (members n) := by
  unfold members at h ⊢
  split at h
  · next ms hms => rw [hms]
  · exact absurd rfl h

theorem pairwise_ne_of_keyed {ms : List (Node × Node)} (h : (Node.mapping ms).Keyed) :
    ms.Pairwise fun a b => ∀ s, a.1 = .scalar (.text s) → b.1 ≠ .scalar (.text s) := by
  cases h with
  | mapping _ _ distinct =>
    refine distinct.imp fun {a b} hne s ha hb => ?_
    rw [ha, hb] at hne
    simp [Node.same, Yaml.Scalar.same] at hne

theorem nodup_named {ms : List (Node × Node)} (h : (Node.mapping ms).Keyed)
    (keys : ∀ m ∈ ms, ∃ key : Key, m.1 = .scalar (.text key.name.toList)) : (named ms).Nodup := by
  rw [named, List.Nodup, List.pairwise_filterMap]
  refine (pairwise_ne_of_keyed h).imp_of_mem fun {a b} ha hb hne key hkey key' hkey' heq => ?_
  obtain ⟨keyA, hA⟩ := keys a ha
  obtain ⟨keyB, hB⟩ := keys b hb
  have hnamed {m : Node × Node} {key : Key} (hm : m.1 = .scalar (.text key.name.toList)) :
      named? m = some key := named?_eq_some_iff.2 (by rw [hm]; rfl)
  obtain rfl : keyA = key := Option.some.inj ((hnamed hA).symm.trans hkey)
  obtain rfl : keyB = key' := Option.some.inj ((hnamed hB).symm.trans hkey')
  rw [heq] at hA
  exact hne _ hA hB

def pair? (entry : Node × Node) : Option (String × String) := do
  let host ← text? entry.1
  let name ← text? entry.2
  return (String.ofList host, String.ofList name)

theorem readHostsFrom_ok {t t' : Table} {entries : List (Node × Node)}
    (h : readHostsFrom t entries = .ok t') :
    ∃ pairs : List (String × String), entries.map pair? = pairs.map some ∧
      t' = pairs.foldl (fun t (host, name) => t.insert host name) t := by
  induction entries generalizing t with
  | nil =>
    cases h
    exact ⟨[], rfl, rfl⟩
  | cons entry entries ih =>
    obtain ⟨host, hhost, h⟩ := bind_eq_ok h
    obtain ⟨name, hname, h⟩ := bind_eq_ok h
    obtain ⟨pairs, hpairs, ht⟩ := ih h
    refine ⟨(host, name) :: pairs, ?_, ht⟩
    have hpair : pair? entry = some (host, name) := by
      simp [pair?, text_of_readText hhost, text_of_readText hname]
    rw [List.map_cons, hpair, hpairs]
    rfl

theorem readHosts_ok {n : Node} {t : Table} (h : readHosts n = .ok t) :
    ∃ pairs : List (String × String),
      (members n).map pair? = pairs.map some ∧ t = Table.ofPairs pairs := by
  unfold readHosts at h
  unfold members
  split at h
  · next ms hms =>
    rw [hms]
    exact readHostsFrom_ok h
  · next hnull =>
    cases h
    rw [hnull]
    exact ⟨[], rfl, rfl⟩
  · cases h

theorem nodup_hosts {entries : List (Node × Node)} {pairs : List (String × String)}
    (h : (Node.mapping entries).Keyed) (plain : ∀ entry ∈ entries, entry.1.untag = entry.1)
    (hpairs : entries.map pair? = pairs.map some) : (pairs.map Prod.fst).Nodup := by
  have hentries : (entries.map pair?).Pairwise fun o o' =>
      ∀ p p', o = some p → o' = some p' → p.1 ≠ p'.1 := by
    rw [List.pairwise_map]
    refine (pairwise_ne_of_keyed h).imp_of_mem fun {a b} ha hb hne p p' hp hp' heq => ?_
    obtain ⟨host, hhost, hp⟩ := Option.bind_eq_some_iff.1 hp
    obtain ⟨host', hhost', hp'⟩ := Option.bind_eq_some_iff.1 hp'
    obtain ⟨name, -, hp⟩ := Option.bind_eq_some_iff.1 hp
    obtain ⟨name', -, hp'⟩ := Option.bind_eq_some_iff.1 hp'
    cases hp
    cases hp'
    rw [String.ofList_inj.1 heq] at hhost
    exact hne host' (eq_of_text? (plain a ha) hhost) (eq_of_text? (plain b hb) hhost')
  rw [hpairs, List.pairwise_map] at hentries
  rw [List.Nodup, List.pairwise_map]
  exact hentries.imp fun h => h _ _ rfl rfl

/-- A table lists the entries of a mapping.  Hosts stand in the order of their first entries and
have the names of their last; where no key is tagged there is one entry for each, so that they
are the entries as they stand. -/
structure Lists (entries : List (Node × Node)) (t : Table) (pairs : List (String × String)) :
    Prop where
  texts : entries.map pair? = pairs.map some
  hosts : t.map Prod.fst = (pairs.map Prod.fst).eraseDups
  names : ∀ host, t.name? host = Table.name? pairs.reverse host
  plain : (∀ entry ∈ entries, entry.1.untag = entry.1) → t = pairs

theorem lists_of_readHosts {n : Node} {t : Table} (keyed : n.Keyed) (h : readHosts n = .ok t) :
    ∃ pairs, Lists (members n) t pairs := by
  obtain ⟨pairs, hpairs, rfl⟩ := readHosts_ok h
  refine ⟨pairs, hpairs, Table.map_fst_ofPairs pairs, Table.name?_ofPairs pairs, fun plain => ?_⟩
  refine Table.ofPairs_of_nodup (nodup_hosts ?_ plain hpairs)
  by_cases hmembers : members n = []
  · rw [hmembers]
    exact .mapping (fun _ hm => (nomatch hm)) (fun _ hm => (nomatch hm)) .nil
  · rw [← untag_of_members hmembers]
    exact keyed.untag

theorem ofText_of_read {text : List Char} {document : Node}
    (h : Node.ofText? text = some document) :
    ofText text = (⟨·, document⟩) <$> ofNode document := by
  rw [ofText, h]

theorem exists_ofText_iff {text : List Char} {document : Node}
    (h : Node.ofText? text = some document) :
    (∃ loaded, ofText text = .ok loaded) ↔ ∃ s, ofNode document = .ok s := by
  rw [ofText_of_read h]
  cases ofNode document <;> simp

theorem ofText_eq_ok_iff {text : List Char} {loaded : Loaded} :
    ofText text = .ok loaded ↔
      Node.ofText? text = some loaded.document ∧ ofNode loaded.document = .ok loaded.settings := by
  obtain ⟨s, document⟩ := loaded
  cases hread : Node.ofText? text with
  | none => simp [ofText, hread]
  | some document' =>
    rw [ofText_of_read hread]
    cases hs : ofNode document' with
    | error fault =>
      refine iff_of_false (fun h => (nomatch h)) fun ⟨heq, h⟩ => ?_
      cases heq
      cases hs.symm.trans h
    | ok s' =>
      rw [map_ok, Except.ok.injEq, Loaded.mk.injEq, Option.some.injEq, and_comm]
      refine and_congr_right fun heq => ?_
      rw [← heq, hs, Except.ok.injEq]

/-- A mapping whose keys name settings is read exactly if each of its members alone is, and in every
order to the same.  A setting that is given is as its member alone gives it, and one that is not
is as it is without a choice.  Hosts keep the entries of the document in its order, of which
those that differ in the tags of their keys alone are one. -/
theorem ofText_memberwise {text : List Char} {document : Node} {ms : List (Node × Node)}
    (read : Node.ofText? text = some document) (mapping : document.untag = .mapping ms)
    (keys : ∀ m ∈ ms, ∃ key : Key, m.1 = .scalar (.text key.name.toList)) :
    ((∃ loaded, ofText text = .ok loaded) ↔ ∀ m ∈ ms, ∃ s, ofNode (.mapping [m]) = .ok s) ∧
    (∀ ms', ms'.Perm ms → (ofNode (.mapping ms')).toOption =
      (ofText text).toOption.map Loaded.settings) ∧
    ∀ loaded, ofText text = .ok loaded →
      loaded.document = document ∧
      (∀ m ∈ ms, ∃ s, ofNode (.mapping [m]) = .ok s ∧
        ∀ key : Key, m.1 = .scalar (.text key.name.toList) →
          loaded.settings.get key = s.get key) ∧
      (∀ key : Key, (∀ m ∈ ms, m.1 ≠ .scalar (.text key.name.toList)) →
        loaded.settings.get key = standard key) ∧
      ∀ m ∈ ms, m.1 = .scalar (.text Key.hosts.name.toList) →
        ∃ pairs, Lists (members m.2) loaded.settings.hosts pairs := by
  have keyed : (Node.mapping ms).Keyed := mapping ▸ (Node.keyed_of_ofText? read).untag
  have distinct := nodup_named keyed keys
  have hnamed {m : Node × Node} {key : Key} (hm : m.1 = .scalar (.text key.name.toList)) :
      named? m = some key := named?_eq_some_iff.2 (by rw [hm]; rfl)
  refine ⟨?_, fun ms' hperm => ?_, fun loaded hloaded => ?_⟩
  · rw [exists_ofText_iff read, exists_ofNode_iff mapping, and_iff_left distinct]
    exact forall₂_congr fun m _ => (exists_ofNode_singleton_iff m).symm
  · rw [ofNode_perm mapping rfl hperm, ofText_of_read read]
    cases ofNode document <;> rfl
  · obtain ⟨hread, hsettings⟩ := ofText_eq_ok_iff.1 hloaded
    obtain rfl : document = loaded.document := Option.some.inj (read.symm.trans hread)
    have hfits := ((exists_ofNode_iff mapping).1 ⟨_, hsettings⟩).1
    refine ⟨rfl, fun m hm => ?_, fun key hkey => ?_, fun m hm hkey => ?_⟩
    · obtain ⟨s, hs⟩ := (exists_ofNode_singleton_iff m).2 (hfits m hm)
      refine ⟨s, hs, fun key hkey => ?_⟩
      have hvalue := get_of_mem mapping hsettings hm (hnamed hkey)
      have halone := get_of_mem rfl hs (List.mem_singleton.2 rfl) (hnamed hkey)
      exact Except.ok.inj (hvalue.symm.trans halone)
    · refine get_of_notMem mapping hsettings fun hmem => ?_
      obtain ⟨m, hm, hname⟩ := List.mem_filterMap.1 hmem
      obtain ⟨other, hother⟩ := keys m hm
      obtain rfl : other = key := Option.some.inj ((hnamed hother).symm.trans hname)
      exact hkey m hm hother
    · have hvalue := get_of_mem mapping hsettings hm (hnamed hkey)
      cases keyed with
      | mapping _ hvalues _ => exact lists_of_readHosts (hvalues m hm) hvalue

theorem ofText_memberwise_reverse :
    let node (s : String) : Node := .scalar (.text s.toList)
    let entries := [(node "b", node "x"), (node "a", node "y")]
    let ms := [(node "format", node "xml"), (node "hosts", .mapping entries)]
    let text := "format: xml\nhosts: \x7bb: x, a: y\x7d\n".toList
    Node.ofText? text = some (.mapping ms) ∧ (Node.mapping ms).untag = .mapping ms ∧
      (∀ m ∈ ms, ∃ key : Key, m.1 = .scalar (.text key.name.toList)) ∧
      ∃ loaded, ofText text = .ok loaded ∧
        (ofNode (.mapping ms.reverse)).toOption = some loaded.settings ∧
        loaded.settings.label = standard .label ∧
        loaded.settings.hosts = [("b", "x"), ("a", "y")] := by
  intro node entries ms text
  have read : Node.ofText? text = some (.mapping ms) := Node.ofText?_eq_some (by decide +kernel)
  have keys : ∀ m ∈ ms, ∃ key : Key, m.1 = .scalar (.text key.name.toList) := by
    simp only [ms, List.forall_mem_cons]
    exact ⟨⟨.format, rfl⟩, ⟨.hosts, rfl⟩, fun _ hm => (nomatch hm)⟩
  obtain ⟨hiff, hperm, hloaded⟩ := ofText_memberwise read rfl keys
  have halone : ∀ m ∈ ms, ∃ s, ofNode (.mapping [m]) = .ok s := by
    simp only [ms, List.forall_mem_cons]
    exact ⟨⟨_, rfl⟩, ⟨_, rfl⟩, fun _ hm => (nomatch hm)⟩
  obtain ⟨loaded, h⟩ := hiff.2 halone
  obtain ⟨-, -, habsent, hhosts⟩ := hloaded loaded h
  refine ⟨read, rfl, keys, loaded, h, ?_, habsent .label ?_, ?_⟩
  · rw [hperm ms.reverse (List.reverse_perm ms), h]
    rfl
  · simp only [ms, List.forall_mem_cons]
    exact ⟨by simp [node, Key.name], by simp [node, Key.name], fun _ hm => (nomatch hm)⟩
  · obtain ⟨pairs, lists⟩ := hhosts (node "hosts", .mapping entries) (by simp [ms]) rfl
    have hplain : ∀ entry ∈ members (.mapping entries), entry.1.untag = entry.1 := by
      simp [members, Node.untag, entries, node]
    have htexts : List.map some [("b", "x"), ("a", "y")] = pairs.map some := lists.texts
    rw [lists.plain hplain]
    exact (List.map_injective_iff.2 (fun _ _ => Option.some.inj) htexts).symm

/-- Keys of hosts that differ in their tags alone are one host. -/
theorem ofText_hosts_tagged :
    let node (s : String) : Node := .scalar (.text s.toList)
    let entries := [(node "a", node "x"), (.tagged ['t'] (node "a"), node "y")]
    ∃ loaded, ofText "hosts: \x7ba: x, !t a: y\x7d".toList = .ok loaded ∧
      loaded.document = .mapping [(node "hosts", .mapping entries)] ∧
      entries.map pair? = [some ("a", "x"), some ("a", "y")] ∧
      loaded.settings.hosts = [("a", "y")] := by
  intro node entries
  have read : Node.ofText? "hosts: \x7ba: x, !t a: y\x7d".toList =
      some (.mapping [(node "hosts", .mapping entries)]) :=
    Node.ofText?_eq_some (by decide +kernel)
  exact ⟨⟨_, _⟩, ofText_eq_ok_iff.2 ⟨read, rfl⟩, rfl, rfl, rfl⟩

end FlowLines.Settings
