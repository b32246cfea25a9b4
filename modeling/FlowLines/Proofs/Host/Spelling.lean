import FlowLines.Layout.Line
import FlowLines.Proofs.Host.Reverse
import FlowLines.Reporter

/-! Names that are remembered beside names that are asked for, where the service always says the
same of an address.  The memory does not show, but for an address that has no name: it goes by the
text in which it was asked for, and not by that in which it stands. -/

namespace FlowLines

theorem Text.digitOfBase?_of_isBlank {c : Char} (h : isBlank c) (base : Nat) :
    digitOfBase? base c = none := by
  -- no blank lies between the lowest digit and the highest
  have between {a b : Char} (ha : 0x30 ≤ a.toNat) (hb : b.toNat ≤ 0x66) :
      (a ≤ c && c ≤ b) = false := by
    rw [Bool.and_eq_false_iff, decide_eq_false_iff_not, decide_eq_false_iff_not, Char.le_def,
      Char.le_def, UInt32.le_iff_toNat_le, UInt32.le_iff_toNat_le]
    simp only [isBlank, Char.toNat, Bool.or_eq_true, Bool.and_eq_true, decide_eq_true_eq,
      beq_iff_eq] at h ha hb
    omega
  rw [digitOfBase?, between (by decide) (by decide), between (by decide) (by decide),
    between (by decide) (by decide)]
  rfl

namespace Host

namespace Address

theorem readNumber_of_isBlank {c : Char} (h : Text.isBlank c) (base width : Nat) (zero : Bool)
    (s : List Char) : readNumber base width zero (c :: s) = none := by
  simp [readNumber, Text.digitOfBase?_of_isBlank h]

theorem parse_of_blank {s : String} (h : ∀ c ∈ s.toList, Text.isBlank c) : parse s = none := by
  unfold parse
  cases hs : s.toList with
  | nil => rfl
  | cons c r =>
    have hc : Text.isBlank c := h c (hs ▸ List.mem_cons_self)
    have hcolon : c ≠ ':' := by
      rintro rfl
      exact absurd hc (by decide)
    have hold : readV4 (c :: r) = none := by
      simp [readV4, readOctet, readPart, readNumber_of_isBlank hc]
    have hgroup : readGroup true (c :: r) = none := by
      simp [readGroup, readPart, readNumber_of_isBlank hc]
    have hgroups : readGroups 8 true (c :: r) = ([], false, c :: r) := by
      simp [readGroups, readPart, hold, hgroup]
    have hnew : readV6 (c :: r) = none := by
      simp [readV6, hgroups, hcolon]
    rw [hold, hnew]

end Address

variable {σ : Type}

def NameService.fixed (replies : Address → Reply) : NameService σ := fun a s => (replies a, s)

def Resolver.after (resolve : Resolver σ) (hosts : List String) (s : σ) : σ :=
  hosts.foldl (fun s host => (resolve host s).2) s

/-- The name that the service has for a host, or else the host as it stands. -/
def nameOf (replies : Address → Reply) (host : String) : String :=
  match Address.parse host with
  | none => host
  | some a => (replies a).stored host

theorem nameOf_of_parse {replies : Address → Reply} {host : String} {a : Address}
    (h : Address.parse host = some a) : nameOf replies host = (replies a).stored host := by
  rw [nameOf, h]

theorem nameOf_ne_empty {replies : Address → Reply} {host : String} {a : Address}
    (h : Address.parse host = some a) : nameOf replies host ≠ "" := by
  have hhost : host ≠ "" := by
    rintro rfl
    rw [Address.parse_of_blank (by simp)] at h
    cases h
  rw [nameOf_of_parse h]
  unfold Reply.stored
  split
  · next name =>
    split
    · exact hhost
    · next hname => exact fun he => hname (by rw [he]; rfl)
  · exact hhost

/-- Every name that is held is the one of some host before. -/
def NameCache.Told (replies : Address → Reply) (hosts : List String) (c : NameCache) : Prop :=
  ∀ n ∈ c.names, ∃ spelling ∈ hosts,
    Address.parse spelling = some n.address ∧ n.name = nameOf replies spelling

namespace NameCache.Told

variable {replies : Address → Reply} {hosts : List String} {c : NameCache} {a : Address}

theorem empty (replies : Address → Reply) : Told replies [] {} := fun _ h => nomatch h

theorem get? (h : c.Told replies hosts) (a : Address) : (c.get? a).2.Told replies hosts := by
  intro n hn
  obtain ⟨m, hm, rfl⟩ := List.mem_map.1 hn
  split <;> exact h m hm

theorem found (h : c.Told replies hosts) {name : String} (hit : (c.get? a).1 = some name) :
    ∃ spelling ∈ hosts, Address.parse spelling = some a ∧ name = nameOf replies spelling := by
  obtain ⟨n, hn, rfl⟩ := Option.map_eq_some_iff.1 hit
  obtain ⟨spelling, hs, parsed, named⟩ := h n (List.mem_of_find?_eq_some hn)
  have same : n.address = a := by simpa using List.find?_some hn
  exact ⟨spelling, hs, same ▸ parsed, named⟩

theorem insert (h : c.Told replies hosts) {host : String} (parsed : Address.parse host = some a) :
    (c.insert a (nameOf replies host)).Told replies (hosts ++ [host]) := by
  intro n hn
  rcases List.mem_cons.1 hn with rfl | hn
  · exact ⟨host, by simp, parsed, rfl⟩
  · have hn : n ∈ c.names := by
      have hkept := (List.mem_filter.1 hn).1
      split at hkept
      · split at hkept
        · exact (List.mem_filter.1 hkept).1
        · exact hkept
      · exact hkept
    obtain ⟨spelling, hs, told⟩ := h n hn
    exact ⟨spelling, List.mem_append_left _ hs, told⟩

theorem append (h : c.Told replies hosts) (more : List String) :
    c.Told replies (hosts ++ more) := by
  intro n hn
  obtain ⟨spelling, hs, told⟩ := h n hn
  exact ⟨spelling, List.mem_append_left _ hs, told⟩

theorem reverse (h : c.Told replies hosts) (timeout : Time.Span) (host : String) (s : σ) :
    (Resolver.reverse timeout (.fixed replies) host (c, s)).2.1.Told replies (hosts ++ [host]) := by
  cases parsed : Address.parse host with
  | none =>
    rw [Resolver.reverse_of_name timeout _ parsed]
    exact h.append _
  | some a =>
    cases known : (c.get? a).1 with
    | some name =>
      rw [Resolver.reverse_of_hit timeout _ parsed known]
      exact (h.get? a).append _
    | none =>
      rw [Resolver.reverse_of_miss timeout _ parsed known]
      have inserted := (h.get? a).insert parsed
      rwa [nameOf_of_parse parsed] at inserted

theorem after (h : c.Told replies hosts) (timeout : Time.Span) (more : List String) (s : σ) :
    ((Resolver.reverse timeout (.fixed replies)).after more (c, s)).1.Told replies
      (hosts ++ more) := by
  -- on the hosts to come; those before are carried along
  induction more generalizing hosts c s with
  | nil => simpa [Resolver.after] using h
  | cons host more ih =>
    rw [← List.singleton_append, ← List.append_assoc]
    exact ih (h.reverse timeout host s) _

end NameCache.Told

def called (host : String) : Except Fault String → String
  | .ok name => if name.isEmpty then host else name
  | .error _ => host

theorem called_outcome (timeout : Time.Span) (a : Address) (host : String) (reply : Reply) :
    called host (reply.outcome timeout a) = reply.stored host := by
  cases reply with
  | name n => by_cases hn : n.isEmpty <;> simp [Reply.outcome, Reply.stored, called, hn]
  | failed fault => rfl
  | late => rfl

namespace Resolver

variable {replies : Address → Reply} {host : String} {a : Address}

theorem called_reverse_of_name (timeout : Time.Span) (parsed : Address.parse host = none)
    (memory : NameCache × σ) :
    called host (reverse timeout (.fixed replies) host memory).1 = host := by
  rw [reverse_of_name timeout _ parsed]
  simp [called]

theorem called_reverse (timeout : Time.Span) {hosts : List String} {c : NameCache}
    (told : c.Told replies hosts) (parsed : Address.parse host = some a) (s : σ) :
    ∃ spelling ∈ host :: hosts, Address.parse spelling = some a ∧
      called host (reverse timeout (.fixed replies) host (c, s)).1 = nameOf replies spelling := by
  cases known : (c.get? a).1 with
  | some name =>
    obtain ⟨spelling, hs, hparse, rfl⟩ := told.found known
    refine ⟨spelling, List.mem_cons_of_mem _ hs, hparse, ?_⟩
    rw [reverse_of_hit timeout _ parsed known]
    simp [called, String.isEmpty_iff, nameOf_ne_empty hparse]
  | none =>
    refine ⟨host, List.mem_cons_self, parsed, ?_⟩
    rw [reverse_of_miss timeout _ parsed known, called_outcome, nameOf_of_parse parsed]
    rfl

theorem called_reverse_after (timeout : Time.Span) (parsed : Address.parse host = some a)
    (earlier : List String) (s : σ) :
    let resolve : Resolver (NameCache × σ) := reverse timeout (.fixed replies)
    ∃ spelling ∈ host :: earlier, Address.parse spelling = some a ∧
      called host (resolve host (resolve.after earlier ({}, s))).1 = nameOf replies spelling := by
  have told := (NameCache.Told.empty replies).after timeout earlier s
  obtain ⟨spelling, hs, hcalled⟩ := called_reverse timeout told parsed _
  exact ⟨spelling, by simpa using hs, hcalled⟩

theorem called_reverse_fresh (timeout : Time.Span) (host : String) (s : σ) :
    called host (reverse timeout (.fixed replies) host ({}, s)).1 = nameOf replies host := by
  cases parsed : Address.parse host with
  | none => rw [called_reverse_of_name timeout parsed, nameOf, parsed]
  | some a =>
    obtain ⟨spelling, hs, -, hcalled⟩ := called_reverse_after timeout parsed [] s
    rwa [List.mem_singleton.1 hs] at hcalled

theorem called_reverse_again (timeout : Time.Span) {spelling : String}
    (asked : Address.parse spelling = some a) (parsed : Address.parse host = some a) (s : σ) :
    called host (reverse timeout (.fixed replies) host
      ((reverse timeout (.fixed replies)).after [spelling] ({}, s))).1 =
        nameOf replies spelling := by
  have known : (({} : NameCache).get? a).1 = none := rfl
  rw [after, List.foldl_cons, List.foldl_nil, reverse_of_miss timeout _ asked known]
  have hit : (((({} : NameCache).get? a).2.insert a
      ((NameService.fixed replies a s).1.stored spelling)).get? a).1 =
        some (nameOf replies spelling) := by
    rw [nameOf_of_parse asked]
    simp [NameCache.get?, NameCache.insert, NameService.fixed]
  rw [reverse_of_hit timeout _ parsed hit]
  simp [called, String.isEmpty_iff, nameOf_ne_empty asked]

end Resolver

end Host

namespace Reporter

open FlowLines.Host (Address NameCache NameService Reply Resolver called nameOf)

variable {σ : Type}

def display (host name : String) : String :=
  if (Text.trimStart host.toList).isEmpty then unknownHost
  else String.ofList (Text.reveal name.toList)

theorem fst_showHost (r : Reporter σ) (host : String) (d : Desk σ) :
    (r.showHost host d).1 = display host (called host (r.resolver host d.memory).1) := by
  unfold showHost display called
  split
  · rfl
  · dsimp only
    cases (r.resolver host d.memory).1 <;> rfl

theorem display_of_parse {host : String} {a : Address} (h : Address.parse host = some a)
    (name : String) : display host name = String.ofList (Text.reveal name.toList) := by
  rw [display, if_neg]
  intro hblank
  rw [List.isEmpty_iff, Text.trimStart_eq_nil_iff] at hblank
  rw [Address.parse_of_blank hblank] at h
  cases h

/-- Where the service always says the same of an address, hosts are shown afresh by the names that
they have, or else as they stand.  After others were resolved an address may be shown like another
spelling of it; its name shows if it has one, and the memory never shows exactly if all its
spellings are shown alike. -/
theorem showHost_after (layout : Layout) (marker : Option String) (timeout : Time.Span)
    (replies : Address → Reply) (memory : σ) (host : String) :
    let r : Reporter (NameCache × σ) :=
      ⟨layout, Resolver.reverse timeout (.fixed replies), marker⟩
    let shown (earlier : List String) (host : String) : String :=
      (r.showHost host { memory := r.resolver.after earlier ({}, memory) }).1
    shown [] host = display host (nameOf replies host) ∧
    (Address.parse host = none → ∀ earlier, shown earlier host = shown [] host) ∧
    ∀ a, Address.parse host = some a →
      (∀ earlier, ∃ spelling ∈ host :: earlier, Address.parse spelling = some a ∧
        shown earlier host = shown [] spelling) ∧
      (∀ name, replies a = .name name → name ≠ "" →
        ∀ earlier, shown earlier host = String.ofList (Text.reveal name.toList)) ∧
      ((∀ earlier, shown earlier host = shown [] host) ↔
        ∀ spelling, Address.parse spelling = some a → shown [] spelling = shown [] host) := by
  intro r shown
  have hshown (earlier : List String) (host : String) : shown earlier host =
      display host (called host (r.resolver host (r.resolver.after earlier ({}, memory))).1) :=
    r.fst_showHost host _
  have hfresh (host : String) : shown [] host = display host (nameOf replies host) :=
    (hshown [] host).trans
      (congrArg (display host) (Resolver.called_reverse_fresh timeout host memory))
  refine ⟨hfresh host, fun parsed earlier => ?_, fun a parsed => ?_⟩
  · rw [hshown, hshown, Resolver.called_reverse_of_name timeout parsed,
      Resolver.called_reverse_of_name timeout parsed]
  · have hspelled (earlier : List String) : ∃ spelling ∈ host :: earlier,
        Address.parse spelling = some a ∧ shown earlier host = shown [] spelling := by
      obtain ⟨spelling, hs, hparse, hcalled⟩ :=
        Resolver.called_reverse_after timeout parsed earlier memory
      refine ⟨spelling, hs, hparse, ?_⟩
      rw [hfresh, hshown, display_of_parse parsed, display_of_parse hparse, ← hcalled]
    refine ⟨hspelled, fun name hname hne earlier => ?_, fun h spelling hparse => ?_,
      fun h earlier => ?_⟩
    · obtain ⟨spelling, -, hparse, heq⟩ := hspelled earlier
      rw [heq, hfresh, display_of_parse hparse, Host.nameOf_of_parse hparse, hname]
      simp [Reply.stored, String.isEmpty_iff, hne]
    · rw [← h [spelling], hfresh, hshown, Resolver.called_reverse_again timeout hparse parsed,
        display_of_parse parsed, display_of_parse hparse]
    · obtain ⟨spelling, -, hparse, heq⟩ := hspelled earlier
      rw [heq, h spelling hparse]

theorem showHost_after_named :
    let replies : Address → Reply
      | .v4 _ => .name "gateway"
      | .v6 _ => .failed ⟨.notFound, "no name"⟩
    let r : Reporter (NameCache × Unit) :=
      ⟨Layout.line "x", Resolver.reverse {} (.fixed replies), none⟩
    let shown (earlier : List String) (host : String) : String :=
      (r.showHost host { memory := r.resolver.after earlier ({}, ()) }).1
    let address := Address.v4 #v[10, 0, 0, 1]
    Address.parse "10.0.0.1" = some address ∧ replies address = .name "gateway" ∧
    "gateway" ≠ "" ∧ shown ["::1", "10.0.0.1", "0::1"] "10.0.0.1" = "gateway" ∧
    Address.parse "a.example" = none ∧ shown ["::1"] "a.example" = shown [] "a.example" := by
  intro replies r shown address
  have parsed : Address.parse "10.0.0.1" = some address := by decide +kernel
  have unparsed : Address.parse "a.example" = none := by decide +kernel
  obtain ⟨-, -, haddress⟩ := showHost_after (Layout.line "x") none {} replies () "10.0.0.1"
  obtain ⟨-, hname, -⟩ := haddress address parsed
  obtain ⟨-, hother, -⟩ := showHost_after (Layout.line "x") none {} replies () "a.example"
  refine ⟨parsed, rfl, by decide, ?_, unparsed, hother unparsed _⟩
  exact (hname "gateway" rfl (by decide) _).trans (by decide +kernel)

/-- An address that has no name is not shown as it stands once it was resolved in lower case. -/
theorem showHost_after_respelled :
    let replies : Address → Reply := fun _ => .failed ⟨.notFound, "no name"⟩
    let r : Reporter (NameCache × Unit) :=
      ⟨Layout.line "x", Resolver.reverse {} (.fixed replies), none⟩
    let shown (earlier : List String) (host : String) : String :=
      (r.showHost host { memory := r.resolver.after earlier ({}, ()) }).1
    shown [] "2001:DB8::1" = "2001:DB8::1" ∧
      shown ["2001:db8::1"] "2001:DB8::1" = "2001:db8::1" := by
  decide +kernel

end Reporter

end FlowLines
