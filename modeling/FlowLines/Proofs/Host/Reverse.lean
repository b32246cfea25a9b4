import FlowLines.Host.Resolver
import FlowLines.Proofs.Host.Recent

/-! Reverse lookups step by step: the service is asked for an address exactly when it was not
resolved among the last thousand that differ, and otherwise the answer is what was last stored. -/

namespace FlowLines.Host

variable {σ : Type}

/-- A service that also keeps what it was asked, with its replies. -/
def NameService.logged (service : NameService σ) : NameService (σ × List (Address × Reply)) :=
  fun a (s, asked) =>
    let (reply, s) := service a s
    (reply, s, asked ++ [(a, reply)])

def Reply.stored (host : String) : Reply → String
  | .name n => if n.isEmpty then host else n
  | _ => host

namespace Resolver

variable (timeout : Time.Span) (service : NameService σ) {host : String} {a : Address}
  {c : NameCache} {s : σ}

theorem reverse_of_name (h : Address.parse host = none) :
    reverse timeout service host (c, s) = (.ok host, c, s) := by
  simp [reverse, h]

theorem reverse_of_hit (h : Address.parse host = some a) {name : String}
    (hit : (c.get? a).1 = some name) :
    reverse timeout service host (c, s) = (.ok name, (c.get? a).2, s) := by
  simp only [reverse, h]
  rw [← Prod.eta (c.get? a), hit]

theorem reverse_of_miss (h : Address.parse host = some a) (miss : (c.get? a).1 = none) :
    reverse timeout service host (c, s) = ((service a s).1.outcome timeout a,
      (c.get? a).2.insert a ((service a s).1.stored host), (service a s).2) := by
  simp only [reverse, h]
  rw [← Prod.eta (c.get? a), miss]
  cases (service a s).1 with
  | name n => by_cases he : n.isEmpty <;> simp [Reply.outcome, Reply.stored, he]
  | failed fault => rfl
  | late => rfl

theorem uses_reverse (host : String) (c : NameCache) (s : σ) :
    (reverse timeout service host (c, s)).2.1.uses ≤ c.uses + 2 := by
  cases parsed : Address.parse host with
  | none => simp [reverse_of_name timeout service parsed]
  | some a =>
    cases known : (c.get? a).1 with
    | some name => simp [reverse_of_hit timeout service parsed known, NameCache.get?]
    | none =>
      simp [reverse_of_miss timeout service parsed known, NameCache.get?, NameCache.insert]

end Resolver

structure Step where
  host : String
  answer : Except Fault String
  asked : List (Address × Reply)

structure History (σ : Type) where
  steps : List Step := []
  cache : NameCache := {}
  service : σ

namespace History

variable (timeout : Time.Span) (service : NameService σ)

/-- The next call.  The names may be held in any order before it; `order` tells in which. -/
def resolve (order : Nat → List CachedName → List CachedName) (h : History σ) (host : String) :
    History σ :=
  let cache := { h.cache with names := order h.steps.length h.cache.names }
  let (answer, after, s) := Resolver.reverse timeout service host (cache, h.service)
  let (_, _, _, asked) := Resolver.reverse timeout service.logged host (cache, h.service, [])
  ⟨h.steps ++ [⟨host, answer, asked⟩], after, s⟩

def run (order : Nat → List CachedName → List CachedName) (s : σ) (hosts : List String) :
    History σ :=
  hosts.foldl (resolve timeout service order) { service := s }

end History

/-- The same calls on a list of names, the latest used first. -/
structure Trace (σ : Type) where
  steps : List Step := []
  memory : Recency := []
  service : σ

namespace Trace

variable (timeout : Time.Span) (service : NameService σ)

def resolve (t : Trace σ) (host : String) : Trace σ :=
  match Address.parse host with
  | none => { t with steps := t.steps ++ [⟨host, .ok host, []⟩] }
  | some a =>
    match t.memory.get? a with
    | (some name, memory) => { t with steps := t.steps ++ [⟨host, .ok name, []⟩], memory }
    | (none, memory) =>
      let (reply, s) := service a t.service
      ⟨t.steps ++ [⟨host, reply.outcome timeout a, [(a, reply)]⟩],
        memory.insert a (reply.stored host), s⟩

def run (s : σ) (hosts : List String) : Trace σ :=
  hosts.foldl (resolve timeout service) { service := s }

end Trace

namespace History

variable {timeout : Time.Span} {service : NameService σ}

structure Follows (h : History σ) (t : Trace σ) : Prop where
  steps : h.steps = t.steps
  service : h.service = t.service
  refines : h.cache.Refines t.memory

theorem Follows.resolve {h : History σ} {t : Trace σ} (follows : h.Follows t)
    {order : Nat → List CachedName → List CachedName}
    (permutes : ∀ i names, (order i names).Perm names) (host : String) :
    (h.resolve timeout service order host).Follows (t.resolve timeout service host) := by
  obtain ⟨hs, hv, refines⟩ := follows
  have reordered := refines.reorder (permutes h.steps.length h.cache.names)
  unfold History.resolve Trace.resolve
  cases parsed : Address.parse host with
  | none =>
    simp only [Resolver.reverse_of_name timeout _ parsed]
    exact ⟨by rw [hs], hv, reordered⟩
  | some a =>
    obtain ⟨found, after⟩ := reordered.get? a
    dsimp only
    cases known : (t.memory.get? a).1 with
    | some name =>
      rw [known] at found
      simp only [Resolver.reverse_of_hit timeout _ parsed found]
      rw [← Prod.eta (t.memory.get? a), known]
      exact ⟨by rw [hs], hv, after⟩
    | none =>
      rw [known] at found
      simp only [Resolver.reverse_of_miss timeout _ parsed found]
      rw [← Prod.eta (t.memory.get? a), known]
      exact ⟨by rw [hs, ← hv]; rfl, by rw [← hv], by rw [← hv]; exact after.insert a _⟩

theorem follows_run (timeout : Time.Span) (service : NameService σ)
    {order : Nat → List CachedName → List CachedName}
    (permutes : ∀ i names, (order i names).Perm names) (s : σ) (hosts : List String) :
    (run timeout service order s hosts).Follows (Trace.run timeout service s hosts) := by
  have start : ({ service := s } : History σ).Follows { service := s } :=
    ⟨rfl, rfl, NameCache.refines_empty⟩
  unfold run Trace.run
  generalize ({ service := s } : History σ) = h at start ⊢
  generalize ({ service := s } : Trace σ) = t at start ⊢
  induction hosts generalizing h t with
  | nil => exact start
  | cons host hosts ih => exact ih _ _ (start.resolve permutes host)

end History

def addresses (steps : List Step) : List Address :=
  steps.filterMap fun step => Address.parse step.host

/-- An address was never resolved, or a thousand others were since it last was. -/
def Forgotten (steps : List Step) (a : Address) : Prop :=
  a ∉ addresses steps ∨ ∃ before last since, steps = before ++ last :: since ∧
    Address.parse last.host = some a ∧ a ∉ addresses since ∧
    NameCache.capacity ≤ (addresses since).dedup.length

/-- The name left behind by the last step in which the service was asked for an address. -/
def Stored (steps : List Step) (a : Address) (name : String) : Prop :=
  ∃ before last since reply, steps = before ++ last :: since ∧ last.asked = [(a, reply)] ∧
    (∀ step ∈ since, ∀ reply, (a, reply) ∉ step.asked) ∧ name = reply.stored last.host

structure Step.Lawful (timeout : Time.Span) (earlier : List Step) (step : Step) : Prop where
  name : Address.parse step.host = none → step.answer = .ok step.host ∧ step.asked = []
  asks : ∀ a, Address.parse step.host = some a → (step.asked ≠ [] ↔ Forgotten earlier a)
  told : ∀ a, Address.parse step.host = some a → step.asked ≠ [] →
    ∃ reply, step.asked = [(a, reply)] ∧ step.answer = reply.outcome timeout a
  recalls : ∀ a, Address.parse step.host = some a → step.asked = [] →
    ∃ name, step.answer = .ok name ∧ Stored earlier a name

namespace Step.Lawful

variable {timeout : Time.Span} {earlier : List Step} {host : String} {a : Address}

theorem of_name (h : Address.parse host = none) :
    Step.Lawful timeout earlier ⟨host, .ok host, []⟩ where
  name _ := ⟨rfl, rfl⟩
  asks a ha := absurd (h.symm.trans ha) (by simp)
  told a ha := absurd (h.symm.trans ha) (by simp)
  recalls a ha := absurd (h.symm.trans ha) (by simp)

theorem of_hit (h : Address.parse host = some a) (known : ¬ Forgotten earlier a) {name : String}
    (stored : Stored earlier a name) : Step.Lawful timeout earlier ⟨host, .ok name, []⟩ where
  name hn := absurd (hn.symm.trans h) (by simp)
  asks b hb := by
    obtain rfl : a = b := Option.some.inj (h.symm.trans hb)
    exact ⟨fun no => absurd rfl no, fun forgotten => absurd forgotten known⟩
  told _ _ no := absurd rfl no
  recalls b hb _ := by
    obtain rfl : a = b := Option.some.inj (h.symm.trans hb)
    exact ⟨name, rfl, stored⟩

theorem of_miss (h : Address.parse host = some a) (forgotten : Forgotten earlier a)
    (reply : Reply) :
    Step.Lawful timeout earlier ⟨host, reply.outcome timeout a, [(a, reply)]⟩ where
  name hn := absurd (hn.symm.trans h) (by simp)
  asks b hb := by
    obtain rfl : a = b := Option.some.inj (h.symm.trans hb)
    exact ⟨fun _ => forgotten, fun _ => List.cons_ne_nil _ _⟩
  told b hb _ := by
    obtain rfl : a = b := Option.some.inj (h.symm.trans hb)
    exact ⟨reply, rfl, rfl⟩
  recalls _ _ no := absurd no (List.cons_ne_nil _ _)

end Step.Lawful

theorem addresses_append (steps steps' : List Step) :
    addresses (steps ++ steps') = addresses steps ++ addresses steps' := List.filterMap_append

theorem addresses_cons {step : Step} {a : Address} (h : Address.parse step.host = some a)
    (steps : List Step) : addresses (step :: steps) = a :: addresses steps := by
  simp [addresses, h]

theorem exists_latest {steps : List Step} {a : Address} (h : a ∈ addresses steps) :
    ∃ before last since, steps = before ++ last :: since ∧ Address.parse last.host = some a ∧
      a ∉ addresses since := by
  induction steps with
  | nil => simp [addresses] at h
  | cons step steps ih =>
    by_cases later : a ∈ addresses steps
    · obtain ⟨before, last, since, rfl, hl, hs⟩ := ih later
      exact ⟨step :: before, last, since, rfl, hl, hs⟩
    · refine ⟨[], step, steps, rfl, ?_, later⟩
      simp only [addresses, List.mem_filterMap, List.mem_cons] at h later
      obtain ⟨x, rfl | hx, hp⟩ := h
      · exact hp
      · exact absurd ⟨x, hx, hp⟩ later

theorem mem_take_recent_addresses (steps : List Step) (a : Address) :
    a ∈ (recent (addresses steps).reverse).take NameCache.capacity ↔ ¬ Forgotten steps a := by
  have count (before : List Step) {last : Step} {since : List Step}
      (hl : Address.parse last.host = some a) (new : a ∉ addresses since) :
      a ∈ (recent (addresses (before ++ last :: since)).reverse).take NameCache.capacity ↔
        (addresses since).dedup.length < NameCache.capacity := by
    rw [addresses_append, addresses_cons hl, List.reverse_append, List.reverse_cons,
      List.append_assoc, List.singleton_append, mem_take_recent_iff (by simpa using new),
      ((List.reverse_perm (addresses since)).dedup).length_eq]
  constructor
  · rintro known (never | ⟨before, last, since, rfl, hl, new, many⟩)
    · exact never (by simpa using mem_recent.1 (List.mem_of_mem_take known))
    · rw [count before hl new] at known
      omega
  · intro known
    rw [Forgotten, not_or, not_not] at known
    obtain ⟨before, last, since, rfl, hl, new⟩ := exists_latest known.1
    rw [count before hl new]
    by_contra many
    exact known.2 ⟨before, last, since, rfl, hl, new, Nat.le_of_not_lt many⟩

theorem Stored.append {steps : List Step} {a : Address} {name : String} (h : Stored steps a name)
    {step : Step} (unasked : ∀ reply, (a, reply) ∉ step.asked) :
    Stored (steps ++ [step]) a name := by
  obtain ⟨before, last, since, reply, rfl, hl, hs, hn⟩ := h
  refine ⟨before, last, since ++ [step], reply, by simp, hl, ?_, hn⟩
  intro x hx
  rcases List.mem_append.1 hx with hx | hx
  · exact hs x hx
  · rwa [List.mem_singleton.1 hx]

namespace Trace

/-- The names at hand are those of the last addresses that differ, as they were last stored. -/
structure Sound (t : Trace σ) : Prop where
  knows : t.memory.Knows (addresses t.steps).reverse
  stored : ∀ p ∈ t.memory, Stored t.steps p.1 p.2

theorem sound_start (s : σ) : Sound { service := s } := ⟨rfl, by simp⟩

variable {timeout : Time.Span} {service : NameService σ} {t : Trace σ} {host : String}
  {a : Address}

theorem resolve_of_name (parsed : Address.parse host = none) :
    t.resolve timeout service host = { t with steps := t.steps ++ [⟨host, .ok host, []⟩] } := by
  simp [resolve, parsed]

theorem resolve_of_hit (parsed : Address.parse host = some a) {name : String} {memory : Recency}
    (found : t.memory.get? a = (some name, memory)) :
    t.resolve timeout service host =
      { t with steps := t.steps ++ [⟨host, .ok name, []⟩], memory } := by
  simp [resolve, parsed, found]

theorem resolve_of_miss (parsed : Address.parse host = some a)
    (absent : t.memory.get? a = (none, t.memory)) :
    t.resolve timeout service host =
      ⟨t.steps ++ [⟨host, (service a t.service).1.outcome timeout a,
        [(a, (service a t.service).1)]⟩],
        t.memory.insert a ((service a t.service).1.stored host), (service a t.service).2⟩ := by
  simp [resolve, parsed, absent]

theorem Sound.not_forgotten_iff (sound : t.Sound) (a : Address) :
    a ∈ t.memory.map (·.1) ↔ ¬ Forgotten t.steps a := by
  rw [sound.knows, mem_take_recent_addresses]

theorem Sound.resolve (timeout : Time.Span) (service : NameService σ) (sound : t.Sound)
    (host : String) :
    (t.resolve timeout service host).Sound ∧
    ∃ step, (t.resolve timeout service host).steps = t.steps ++ [step] ∧ step.host = host ∧
      step.Lawful timeout t.steps := by
  cases parsed : Address.parse host with
  | none =>
    rw [resolve_of_name parsed]
    refine ⟨⟨?_, fun p hp => (sound.stored p hp).append (by simp)⟩, _, rfl, rfl, .of_name parsed⟩
    rw [addresses_append, show addresses [⟨host, .ok host, []⟩] = [] by simp [addresses, parsed],
      List.append_nil]
    exact sound.knows
  | some a =>
    have used (step : Step) (h : step.host = host) :
        (addresses (t.steps ++ [step])).reverse = a :: (addresses t.steps).reverse := by
      rw [addresses_append, addresses_cons (h ▸ parsed), List.reverse_append]
      rfl
    by_cases known : a ∈ t.memory.map (·.1)
    · obtain ⟨name, mem, found⟩ := Recency.get?_of_mem known
      rw [resolve_of_hit parsed found]
      refine ⟨⟨?_, ?_⟩, _, rfl, rfl,
        .of_hit parsed ((sound.not_forgotten_iff a).1 known) (sound.stored _ mem)⟩
      · rw [used _ rfl]
        exact sound.knows.hit known name
      · intro p hp
        refine Stored.append (sound.stored p ?_) (by simp)
        rcases List.mem_cons.1 hp with rfl | hp
        · exact mem
        · exact List.mem_of_mem_filter hp
    · have absent := Recency.get?_of_notMem known
      rw [resolve_of_miss parsed absent]
      have forgotten : Forgotten t.steps a := by
        by_contra h
        exact known ((sound.not_forgotten_iff a).2 h)
      refine ⟨⟨?_, ?_⟩, _, rfl, rfl, .of_miss parsed forgotten _⟩
      · rw [used _ rfl]
        exact sound.knows.miss known _
      · intro p hp
        rw [Recency.insert_of_notMem known] at hp
        rcases List.mem_cons.1 hp with rfl | hp
        · exact ⟨t.steps, _, [], _, rfl, rfl, by simp, rfl⟩
        · have hp : p ∈ t.memory := by
            split at hp
            · exact (List.dropLast_sublist _).subset hp
            · exact hp
          refine (sound.stored p hp).append fun reply h => known ?_
          have same := (Prod.mk.inj (List.mem_singleton.1 h)).1
          exact same ▸ List.mem_map_of_mem hp

theorem Sound.lawful (timeout : Time.Span) (service : NameService σ) (sound : t.Sound)
    (lawful : ∀ earlier step later, t.steps = earlier ++ step :: later →
      step.Lawful timeout earlier) (hosts : List String) :
    let t' := hosts.foldl (Trace.resolve timeout service) t
    t'.steps.map (·.host) = t.steps.map (·.host) ++ hosts ∧
    ∀ earlier step later, t'.steps = earlier ++ step :: later → step.Lawful timeout earlier := by
  -- on the hosts to come; the steps before are in the trace
  induction hosts generalizing t with
  | nil => exact ⟨by simp, lawful⟩
  | cons host hosts ih =>
    obtain ⟨sound', step, hs, hh, next⟩ := sound.resolve timeout service host
    have lawful' : ∀ earlier st later, (t.resolve timeout service host).steps =
        earlier ++ st :: later → st.Lawful timeout earlier := by
      intro earlier st later split
      rw [hs] at split
      obtain rfl | ⟨later, last, rfl⟩ := List.eq_nil_or_concat later
      · obtain ⟨rfl, same⟩ := List.append_inj' split rfl
        rwa [← (List.cons.inj same).1]
      · rw [List.concat_eq_append, ← List.cons_append, ← List.append_assoc] at split
        exact lawful _ _ later (List.append_inj' split rfl).1
    obtain ⟨hosts', all⟩ := ih sound' lawful'
    refine ⟨?_, all⟩
    rw [List.foldl_cons, hosts', hs, List.map_append, List.append_assoc, List.map_singleton, hh]
    rfl

end Trace

namespace History

variable (timeout : Time.Span) (service : NameService σ)

theorem uses_run (order : Nat → List CachedName → List CachedName) (s : σ) (hosts : List String) :
    (run timeout service order s hosts).cache.uses ≤ 2 * hosts.length := by
  have fold (h : History σ) : (hosts.foldl (resolve timeout service order) h).cache.uses ≤
      h.cache.uses + 2 * hosts.length := by
    induction hosts generalizing h with
    | nil => exact Nat.le_refl _
    | cons host hosts ih =>
      have step : (h.resolve timeout service order host).cache.uses ≤ h.cache.uses + 2 :=
        Resolver.uses_reverse timeout service host _ h.service
      have rest := ih (h.resolve timeout service order host)
      rw [List.foldl_cons, List.length_cons]
      omega
  simpa [run] using fold { service := s }

/-- Reverse lookups from an empty cache.  The service is asked for an address when it was never
resolved or a thousand others were since; else the answer is the name that was stored.  The order
in which names are held does not show, and each call makes at most two uses. -/
theorem run_lawful (order : Nat → List CachedName → List CachedName)
    (permutes : ∀ i names, (order i names).Perm names) (s : σ) (hosts : List String) :
    let h := run timeout service order s hosts
    h.steps.map (·.host) = hosts ∧
    (∀ earlier step later, h.steps = earlier ++ step :: later → step.Lawful timeout earlier) ∧
    (∀ host, Address.parse host = none → ∀ memory : NameCache × σ,
      Resolver.reverse timeout service host memory = (.ok host, memory)) ∧
    h.steps = (run timeout service (fun _ names => names) s hosts).steps ∧
    h.cache.uses ≤ 2 * hosts.length := by
  intro h
  have follows := follows_run timeout service permutes s hosts
  have follows' := follows_run timeout service (fun _ names => .refl names) s hosts
  obtain ⟨hosts', lawful⟩ := (Trace.sound_start s).lawful timeout service (by simp) hosts
  refine ⟨?_, ?_, ?_, ?_, ?_⟩
  · rw [follows.steps]
    exact hosts'
  · rw [follows.steps]
    exact lawful
  · exact fun host hn memory => Resolver.reverse_of_name timeout service hn
  · rw [follows.steps, follows'.steps]
  · exact uses_run timeout service order s hosts

theorem run_lawful_again :
    let service : NameService Nat := fun _ n => (.name "gateway", n + 1)
    let order (_ : Nat) (names : List CachedName) : List CachedName := names.reverse
    let h := run {} service order 0 ["10.0.0.1", "a.example", "10.0.0.1"]
    (∀ i names, (order i names).Perm names) ∧
    h.steps.map (·.host) = ["10.0.0.1", "a.example", "10.0.0.1"] ∧ h.cache.uses ≤ 6 ∧
    h.steps.map (·.asked.length) = [1, 0, 0] := by
  intro service order h
  have permutes : ∀ i names, (order i names).Perm names := fun _ names => names.reverse_perm
  obtain ⟨hosts, -, -, -, uses⟩ := run_lawful {} service order permutes 0 _
  exact ⟨permutes, hosts, uses, by decide +kernel⟩

end History

end FlowLines.Host
