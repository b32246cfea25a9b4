import FlowLines.Proofs.Host.Spelling
import FlowLines.Settings.Basic

/-! Hosts that a table lists, before any other resolver.  They have their names whatever was asked
before, and what lies behind the table does as it would without them. -/

namespace FlowLines.Host

structure Call (σ : Type) where
  host : String
  before : σ
  answer : Except Fault String
  after : σ

namespace Resolver

variable {σ : Type}

def calls (resolve : Resolver σ) : List String → σ → List (Call σ)
  | [], _ => []
  | host :: hosts, s =>
    ⟨host, s, (resolve host s).1, (resolve host s).2⟩ :: calls resolve hosts (resolve host s).2

theorem after_cons (resolve : Resolver σ) (host : String) (hosts : List String) (s : σ) :
    resolve.after (host :: hosts) s = resolve.after hosts (resolve host s).2 := List.foldl_cons

def stack (tables : List Table) (behind : Resolver σ) : Resolver σ :=
  tables.foldr (fun t behind => table t (some behind)) behind

/-- Some hosts have names of their own, and the others are left to the resolver behind. -/
structure Overlays (front : Resolver σ) (names : String → Option String) (behind : Resolver σ) :
    Prop where
  listed : ∀ host name, names host = some name → ∀ s, front host s = (.ok name, s)
  others : ∀ host, names host = none → front host = behind host

def unlisted (names : String → Option String) (hosts : List String) : List String :=
  hosts.filter fun host => (names host).isNone

/-- Between calls for hosts and for those of them that have no names of their own. -/
structure Framed (names : String → Option String) (front behind : Resolver σ)
    (hosts : List String) (s : σ) : Prop where
  called : (front.calls hosts s).map Call.host = hosts
  listed : ∀ call ∈ front.calls hosts s, ∀ name, names call.host = some name →
    call.answer = .ok name ∧ call.after = call.before
  others : (front.calls hosts s).filter (fun call => (names call.host).isNone) =
    behind.calls (unlisted names hosts) s
  after : front.after hosts s = behind.after (unlisted names hosts) s

namespace Framed

variable {front behind : Resolver σ} {names : String → Option String} {hosts : List String}
  {host : String} {s : σ}

theorem nil (names : String → Option String) (front behind : Resolver σ) (s : σ) :
    Framed names front behind [] s := ⟨rfl, fun _ hcall => (nomatch hcall), rfl, rfl⟩

theorem cons_listed {name : String} (hname : names host = some name)
    (hcall : front host s = (.ok name, s)) (h : Framed names front behind hosts s) :
    Framed names front behind (host :: hosts) s := by
  have hcalls : front.calls (host :: hosts) s = ⟨host, s, .ok name, s⟩ :: front.calls hosts s := by
    rw [calls, hcall]
  have hunlisted : unlisted names (host :: hosts) = unlisted names hosts :=
    List.filter_cons_of_neg (by simp [hname])
  refine ⟨?_, ?_, ?_, ?_⟩
  · rw [hcalls, List.map_cons, h.called]
  · rw [hcalls, List.forall_mem_cons]
    refine ⟨fun other hother => ?_, h.listed⟩
    rw [Option.some.inj (hname.symm.trans hother)]
    exact ⟨rfl, rfl⟩
  · rw [hcalls, hunlisted, ← h.others]
    exact List.filter_cons_of_neg (by simp [hname])
  · rw [hunlisted, after_cons, hcall]
    exact h.after

theorem cons_other (hname : names host = none) (hcall : front host s = behind host s)
    (h : Framed names front behind hosts (behind host s).2) :
    Framed names front behind (host :: hosts) s := by
  have hcalls : front.calls (host :: hosts) s =
      ⟨host, s, (behind host s).1, (behind host s).2⟩ ::
        front.calls hosts (behind host s).2 := by
    rw [calls, hcall]
  have hunlisted : unlisted names (host :: hosts) = host :: unlisted names hosts :=
    List.filter_cons_of_pos (by simp [hname])
  refine ⟨?_, ?_, ?_, ?_⟩
  · rw [hcalls, List.map_cons, h.called]
  · rw [hcalls, List.forall_mem_cons]
    exact ⟨fun name hlisted => (nomatch hname.symm.trans hlisted), h.listed⟩
  · rw [hcalls, hunlisted, calls, ← h.others]
    exact List.filter_cons_of_pos (by simp [hname])
  · rw [hunlisted, after_cons, after_cons, hcall]
    exact h.after

end Framed

namespace Overlays

variable {front middle behind : Resolver σ} {names names' : String → Option String}

theorem refl (behind : Resolver σ) : Overlays behind (fun _ => none) behind :=
  ⟨fun _ _ h => (nomatch h), fun _ _ => rfl⟩

theorem table (t : Table) (behind : Resolver σ) :
    Overlays (table t (some behind)) t.name? behind where
  listed host name h s := by rw [Resolver.table, h]
  others host h := by
    funext s
    rw [Resolver.table, h]

theorem trans (h : Overlays front names middle) (h' : Overlays middle names' behind) :
    Overlays front (fun host => (names host).or (names' host)) behind where
  listed host name hname s := by
    rcases Option.or_eq_some_iff.1 hname with hfirst | ⟨hnone, hsecond⟩
    · exact h.listed host name hfirst s
    · rw [h.others host hnone]
      exact h'.listed host name hsecond s
  others host hname := by
    obtain ⟨hfirst, hsecond⟩ := Option.or_eq_none_iff.1 hname
    rw [h.others host hfirst, h'.others host hsecond]

theorem stack (tables : List Table) (behind : Resolver σ) :
    Overlays (stack tables behind) (fun host => tables.findSome? (·.name? host)) behind := by
  induction tables with
  | nil => exact refl behind
  | cons t tables ih =>
    have hnames : (fun host => (t :: tables).findSome? (·.name? host)) =
        fun host => (t.name? host).or (tables.findSome? (·.name? host)) := by
      funext host
      rw [List.findSome?_cons]
      cases t.name? host <;> rfl
    rw [hnames]
    exact (table t _).trans ih

theorem framed (h : Overlays front names behind) (hosts : List String) (s : σ) :
    Framed names front behind hosts s := by
  induction hosts generalizing s with
  | nil => exact .nil names front behind s
  | cons host hosts ih =>
    cases hname : names host with
    | some name => exact .cons_listed hname (h.listed host name hname s) (ih s)
    | none => exact .cons_other hname (by rw [h.others host hname]) (ih _)

end Overlays

end Resolver

end FlowLines.Host

namespace FlowLines

open FlowLines.Host (Address NameCache NameService Reply Resolver Table)
open FlowLines.Host.Resolver (Framed Overlays stack)

variable {σ : Type}

def Settings.behindHosts (s : Settings) (service : NameService σ) : Resolver (NameCache × σ) :=
  if s.resolve then .reverse s.resolveTimeout service else .raw

theorem Settings.overlays_resolver (s : Settings) (service : NameService σ) :
    Overlays (s.resolver service) s.hosts.name? (s.behindHosts service) := by
  unfold Settings.resolver
  dsimp only
  split
  · next hempty =>
    have hnone : s.hosts.name? = fun _ => none := by
      rw [List.isEmpty_iff.1 hempty]
      rfl
    rw [hnone]
    exact .refl _
  · exact .table _ _

/-- Behind a table, or tables to any depth, every resolver answers and remembers what it would if
it were asked for the hosts alone that are not listed, and those that are listed have their names.
So the service is never asked for the hosts of the settings, the names in memory and their order
stay as they are, and whether others are resolved or not does not matter to them. -/
theorem Host.Resolver.framed_table (behind : Resolver σ) (hosts : List String) (s : σ) :
    (∀ t : Table, Framed t.name? (.table t (some behind)) behind hosts s) ∧
    (∀ tables : List Table,
      Framed (fun host => tables.findSome? (·.name? host)) (stack tables behind) behind hosts s) ∧
    ∀ (settings : Settings) (service : NameService σ) (cache : NameCache),
      Framed settings.hosts.name? (settings.resolver service) (settings.behindHosts service) hosts
        (cache, s) ∧
      ∀ host name, settings.hosts.name? host = some name → ∀ resolve asked,
        { settings with resolve }.resolver service.logged host (cache, s, asked) =
          (.ok name, cache, s, asked) := by
  refine ⟨fun t => (Overlays.table t behind).framed hosts s,
    fun tables => (Overlays.stack tables behind).framed hosts s, fun settings service cache => ?_⟩
  refine ⟨(settings.overlays_resolver service).framed hosts (cache, s), ?_⟩
  intro host name hlisted resolve asked
  have overlays := { settings with resolve }.overlays_resolver service.logged
  exact overlays.listed host name hlisted (cache, s, asked)

theorem Host.Resolver.framed_table_between :
    let settings : Settings := { hosts := [("10.0.0.1", "gateway")] }
    let service : NameService Unit := fun _ s => (.name "printer", s)
    let hosts := ["10.0.0.2", "10.0.0.1", "10.0.0.2"]
    let start : NameCache × Unit × List (Address × Reply) := ({}, (), [])
    settings.hosts.name? "10.0.0.1" = some "gateway" ∧
    settings.resolver service.logged "10.0.0.1" start = (.ok "gateway", start) ∧
    ((settings.resolver service.logged).calls hosts start).length = 3 ∧
    ((settings.resolver service.logged).after hosts start).2.2 =
      [(.v4 #v[10, 0, 0, 2], .name "printer")] := by
  intro settings service hosts start
  have hlisted : settings.hosts.name? "10.0.0.1" = some "gateway" := rfl
  obtain ⟨-, -, hsettings⟩ := Host.Resolver.framed_table Host.Resolver.raw hosts ()
  obtain ⟨-, hnamed⟩ := hsettings settings service {}
  obtain ⟨-, -, hlogged⟩ := Host.Resolver.framed_table Host.Resolver.raw hosts
    ((), ([] : List (Address × Reply)))
  obtain ⟨framed, -⟩ := hlogged settings service.logged {}
  refine ⟨hlisted, hnamed "10.0.0.1" "gateway" hlisted true [], ?_, ?_⟩
  · rw [← List.length_map, framed.called]
    rfl
  · rw [framed.after]
    decide +kernel

end FlowLines
