import FlowLines.CommandLine.Job
import FlowLines.Proofs.CommandLine.Accepted
import FlowLines.Proofs.Feed.Sent
import FlowLines.Proofs.Settings.Given

/-! A run of the program is a report that is started and fed by hand: with the settings for which
arguments ask, or else a file, and the lines of the input. -/

namespace FlowLines.CommandLine

open FlowLines.Feed (Malformed Run flows decodeLine lines)

/-- What an argument asks for comes first, then what a file gives, then what holds without a
choice. -/
def settingsOf (items : List Item) (file : Settings.Given) : Settings :=
  let standard : Settings := {}
  let format := (textOf (.switch .format) items).bind Format.ofName?
  let label := textOf (.switch .label) items
  let timeout := (textOf (.switch .resolveTimeout) items).bind fun text =>
    (Time.Span.parse text.toList).toOption
  { format := format.getD ((file .format).getD standard.format)
    label := label.getD ((file .label).getD standard.label)
    resolve :=
      if .flag .noResolve ∈ items then false else (file .resolve).getD standard.resolve
    resolveTimeout := timeout.getD ((file .resolveTimeout).getD standard.resolveTimeout)
    startupMarker :=
      if .flag .noMarker ∈ items then none
      else (file .startupMarker).getD standard.startupMarker
    hosts := (file .hosts).getD standard.hosts }

def limitOf (items : List Item) : Nat :=
  ((textOf (.switch .maxLineLength) items).bind fun text =>
    (readCount text.toList).toOption).getD ({} : Feed.Rules).maxLineLength

theorem settings_ofItems (items : List Item) (file : Settings.Given) :
    (Options.ofItems items).settings file.toSettings = settingsOf items file := by
  have hresolve : (file.toSettings.resolve && !decide (Item.flag .noResolve ∈ items)) =
      if .flag .noResolve ∈ items then false else file.toSettings.resolve := by
    split <;> simp [*]
  simp only [Options.settings, Options.ofItems, hresolve, decide_eq_true_eq]
  rfl

theorem Job.ofOptions_ok {o : Options} {content : String → List UInt8}
    (valid : ∀ path, o.config = some path →
      ∃ loaded, Settings.ofFile path (.ok (content path)) = .ok loaded) :
    let document := (o.config.map content).bind Settings.document?
    let file : Settings.Given := document.elim Draft.empty Settings.given
    Job.ofOptions o (o.config.map fun path => .ok (content path)) = .ok
      { settings := o.settings file.toSettings
        hasConfig := document.any (!·.untag.isNull)
        rules := o.rules
        source := o.input.getD Feed.standardInput } := by
  intro document file
  unfold Job.ofOptions
  cases hconfig : o.config with
  | none =>
    have hnone : document = none := by simp only [document, hconfig]; rfl
    simp only [file, hnone]
    rfl
  | some path =>
    obtain ⟨loaded, hloaded⟩ := valid path hconfig
    obtain ⟨hdocument, hsettings⟩ := Settings.ofFile_ok hloaded
    have hsome : document = some loaded.document := by
      simp only [document, hconfig]
      exact hdocument
    simp only [file, hsome, Option.elim_some, ← hsettings, Option.map_some, hloaded]
    rfl

theorem exists_first_malformed {limit : Nat} {lines : List (List UInt8)}
    (h : ∃ line ∈ lines, Malformed limit line) :
    ∃ before line after, lines = before ++ line :: after ∧
      (∀ earlier ∈ before, ¬ Malformed limit earlier) ∧ Malformed limit line := by
  obtain ⟨bad, hbad, hmalformed⟩ := h
  cases hfind : lines.find? (Malformed limit ·) with
  | none => exact absurd hmalformed (by simpa using List.find?_eq_none.1 hfind bad hbad)
  | some line =>
    obtain ⟨hline, before, after, hlines, hclean⟩ := List.find?_eq_some_iff_append.1 hfind
    exact ⟨before, line, after, hlines, fun earlier h => by simpa using hclean earlier h,
      of_decide_eq_true hline⟩

namespace Job

variable {σ : Type} {r : Reporter σ} {desk d₀ : Desk σ}

theorem run_of_start (j : Job) {input : List Delivery}
    (h : r.start j.hasConfig desk = (.ok (), d₀)) :
    j.run r input desk =
      finish (.going (Run.takeAll ⟨j.rules, r, j.source⟩ (Feed.cut input) { desk := d₀ })) := by
  rw [run, start, h]
  rfl

theorem stored_finish (p : Feed.Progress σ) :
    (finish (.going p)).2.sink.stored = p.desk.sink.stored := by
  have hflush : p.desk.flush.2.sink.stored = p.desk.sink.stored := by
    unfold Desk.flush Sink.flush
    cases p.desk.sink.flushFault <;> rfl
  simp only [finish]
  cases p.outcome with
  | error fault => rfl
  | ok tally =>
    dsimp only
    rw [← hflush]
    split <;> simp [*]

theorem fst_finish {p : Feed.Progress σ} {tally : Tally} (h : p.outcome = .ok tally) :
    (finish (.going p)).1 = (p.desk.flush.1.mapError .finish).map fun _ => tally := by
  simp only [finish, h]
  rcases p.desk.flush with ⟨fault | u, d⟩ <;> rfl

theorem finish_of_ok {p : Feed.Progress σ} {tally : Tally} (h : p.outcome = .ok tally)
    (flushable : p.desk.sink.flushFault = none) : (finish (.going p)).1 = .ok tally := by
  rw [fst_finish h, Desk.flush_fst_of_works flushable]
  rfl

theorem finish_of_error {p : Feed.Progress σ} {fault : Fault} (h : p.outcome = .error fault) :
    (finish (.going p)).1 = .error (.run fault) := by
  simp only [finish, h]

theorem endStatus_of_clean (j : Job) (started : r.start j.hasConfig desk = (.ok (), d₀))
    (accepts : d₀.sink.Accepts) {parts : List (List UInt8)}
    (clean : j.rules.failFast = true →
      ∀ line ∈ lines parts.flatten, ¬ Malformed j.rules.maxLineLength line) :
    endStatus (j.run r (parts.map .bytes) desk).1 = successStatus := by
  obtain ⟨d, tally, haccepts, hrun⟩ :=
    Run.takeAll_of_clean ⟨j.rules, r, j.source⟩ accepts clean
  rw [j.run_of_start started, Feed.cut_bytes, hrun, finish_of_ok rfl haccepts.flushable]
  rfl

theorem ended_of_malformed (j : Job) (strict : j.rules.failFast = true)
    (started : r.start j.hasConfig desk = (.ok (), d₀)) (accepts : d₀.sink.Accepts)
    {parts before after : List (List UInt8)} {line : List UInt8}
    (hlines : lines parts.flatten = before ++ line :: after)
    (clean : ∀ earlier ∈ before, ¬ Malformed j.rules.maxLineLength earlier)
    (malformed : Malformed j.rules.maxLineLength line) :
    let ended := j.run r (parts.map .bytes) desk
    endStatus ended.1 = failureStatus ∧
      ended.2.sink.stored.toList = d₀.sink.stored.toList ++
        r.bytes (flows (before.map (decodeLine j.rules.maxLineLength))) d₀.memory := by
  obtain ⟨⟨fault, hfailed⟩, hstored⟩ :=
    Run.takeAll_of_malformed ⟨j.rules, r, j.source⟩ strict accepts clean malformed after
  dsimp only
  rw [j.run_of_start started, Feed.cut_bytes, hlines, stored_finish]
  refine ⟨?_, hstored⟩
  have houtcome {p : Feed.Progress σ} (h : p.status = .failed fault) :
      p.outcome = .error fault := by
    rw [Feed.Progress.outcome, h]
  rw [finish_of_error (houtcome hfailed)]
  rfl

end Job

/-- A run begins exactly if arguments say things that can be asked for together.  Its output is
what the reporter for the settings writes that are asked for, or else given by the file, when it is
started and fed with the input.  Only `--fail-fast` with a malformed line makes it fail, and then
everything before that line was written. -/
theorem run_of_spells (arguments : List String) :
    (∀ o, Options.parse arguments = .ok o ↔
      ∃ items, Spells .anything arguments items ∧ Askable items ∧ o = .ofItems items) ∧
    ∀ items, Spells .anything arguments items → Askable items →
      let o := Options.ofItems items
      ∀ content : String → List UInt8,
        (∀ path, o.config = some path →
          ∃ loaded, Settings.ofFile path (.ok (content path)) = .ok loaded) →
        let document := (o.config.map content).bind Settings.document?
        let settings := settingsOf items (document.elim Draft.empty Settings.given)
        let limit := limitOf items
        let f : Feed := { rules := ⟨.flag .failFast ∈ items, limit⟩ }
        let source := (textOf .input items).getD Feed.standardInput
        ∃ job, Job.ofOptions o (o.config.map fun path => .ok (content path)) = .ok job ∧
          job.settings = settings ∧
          ∀ {σ : Type} (service : Host.NameService σ) (desk : Desk (Host.NameCache × σ)),
            desk.sink.Accepts → ∀ parts : List (List UInt8),
            let r := settings.reporter service
            let input := parts.map .bytes
            ∃ d₀ answer d₁ f',
              r.start (document.any (!·.untag.isNull)) desk = (.ok (), d₀) ∧
              f.run r source input d₀ = (answer, d₁, f') ∧
              let ended := job.run (job.reporter service) input desk
              ended.2.sink.stored = d₁.sink.stored ∧
              (.flag .failFast ∉ items → endStatus ended.1 = successStatus) ∧
              (.flag .failFast ∈ items →
                endStatus ended.1 =
                  (if ∃ line ∈ lines parts.flatten, Malformed limit line then failureStatus
                    else successStatus) ∧
                ∀ before line after, lines parts.flatten = before ++ line :: after →
                  (∀ earlier ∈ before, ¬ Malformed limit earlier) → Malformed limit line →
                  ended.2.sink.stored.toList = desk.sink.stored.toList ++ r.opening ++
                    r.bytes (flows (before.map (decodeLine limit))) desk.memory) := by
  refine ⟨fun o => parse_eq_ok_iff, ?_⟩
  intro items _ _ o content valid document settings limit f source
  let job : Job := ⟨settings, document.any (!·.untag.isNull), f.rules, source⟩
  have hjob : Job.ofOptions o _ = .ok job :=
    (Job.ofOptions_ok valid).trans (by rw [settings_ofItems]; rfl)
  refine ⟨job, hjob, rfl, ?_⟩
  intro σ service desk accepts parts r input
  -- The sink takes the marker, so that the run is a matter of the lines alone.
  obtain ⟨d₀, started, haccepts, hmemory, hopening⟩ := r.start_opening accepts job.hasConfig
  refine ⟨d₀, _, _, _, started, Feed.run_of_takeAll rfl, ?_, ?_, ?_⟩
  · exact (congrArg (·.2.sink.stored) (job.run_of_start started)).trans (Job.stored_finish _)
  · intro lenient
    exact job.endStatus_of_clean started haccepts
      fun strict => absurd (of_decide_eq_true strict) lenient
  · intro hstrict
    have strict : job.rules.failFast = true := decide_eq_true hstrict
    constructor
    · split
      · next hbad =>
        obtain ⟨before, line, after, hlines, clean, malformed⟩ := exists_first_malformed hbad
        exact (job.ended_of_malformed strict started haccepts hlines clean malformed).1
      · next hclean =>
        exact job.endStatus_of_clean started haccepts
          fun _ line hline malformed => hclean ⟨line, hline, malformed⟩
    · intro before line after hlines clean malformed
      rw [← hopening, ← hmemory]
      exact (job.ended_of_malformed strict started haccepts hlines clean malformed).2

theorem run_of_spells_second_line :
    let arguments := ["-c", "f", "--label=b", "--fail-fast"]
    let items : List Item :=
      [.value (.switch .config) "f", .value (.switch .label) "b", .flag .failFast]
    let content (_ : String) := Text.Utf8.encode "label: a\nformat: xml\n".toList
    let parts := [Text.Utf8.encode "\nword\n".toList]
    let service : Host.NameService Unit := fun _ s => (.failed ⟨.other, "none"⟩, s)
    let desk : Desk (Host.NameCache × Unit) := { memory := ({}, ()) }
    Spells .anything arguments items ∧ Askable items ∧
      (∀ path, (Options.ofItems items).config = some path →
        ∃ loaded, Settings.ofFile path (.ok (content path)) = .ok loaded) ∧
      desk.sink.Accepts ∧ Options.parse arguments = .ok (.ofItems items) ∧
      ∃ job, Job.ofOptions (.ofItems items) (some (.ok (content "f"))) = .ok job ∧
        job.settings.label = "b" ∧ job.settings.format = .xml ∧
        endStatus (job.run (job.reporter service) (parts.map .bytes) desk).1 = failureStatus := by
  intro arguments items content parts service desk
  have hspells : Spells .anything arguments items := by
    have hlabel : "--label=b" = "--" ++ Switch.label.long ++ ("=" ++ "b") := by decide +kernel
    have hfailFast : "--fail-fast" = "--" ++ Switch.failFast.long ++ "" := by decide +kernel
    have hconfig : Says .anything "-c" [] (.value .config) :=
      .letters (by decide) (.awaited rfl rfl)
    have hfile : Says (.value .config) "f" [.value (.switch .config) "f"] .anything :=
      .awaited (.inr (by decide))
    have hvalue : Says .anything "--label=b" [.value (.switch .label) "b"] .anything :=
      hlabel ▸ .long (.attached rfl)
    have hflag : Says .anything "--fail-fast" [.flag .failFast] .anything :=
      hfailFast ▸ .long (.flag rfl)
    exact .cons hconfig (.cons hfile (.cons hvalue (.cons hflag (.nil (by simp)))))
  have once : Once items := by
    rintro (s | _) _
    · cases s <;> decide
    · decide
  have fits : ∀ item ∈ items, item.Fits := by
    simp only [items, List.forall_mem_cons, Item.Fits]
    exact ⟨by decide, trivial, by decide, by simp⟩
  have askable : Askable items := ⟨once, fits⟩
  have valid : ∀ path, (Options.ofItems items).config = some path →
      ∃ loaded, Settings.ofFile path (.ok (content path)) = .ok loaded := by
    intro path hpath
    obtain rfl : "f" = path := Option.some.inj hpath
    have hread : (Settings.ofFile "f" (.ok (content "f"))).toOption.isSome = true := by
      decide +kernel
    obtain ⟨loaded, hloaded⟩ := Option.isSome_iff_exists.1 hread
    exact ⟨loaded, eq_ok_of_toOption hloaded⟩
  have accepts : desk.sink.Accepts := Sink.accepts_default
  obtain ⟨hparse, hrun⟩ := run_of_spells arguments
  obtain ⟨job, hjob, hsettings, hreport⟩ := hrun items hspells askable content valid
  obtain ⟨_, _, _, _, -, -, -, -, hstrict⟩ := hreport service desk accepts parts
  obtain ⟨hstatus, -⟩ := hstrict (by decide)
  refine ⟨hspells, askable, valid, accepts, (hparse _).2 ⟨items, hspells, askable, rfl⟩, job, hjob,
    ?_, ?_, ?_⟩
  · rw [hsettings]
    rfl
  · rw [hsettings]
    decide +kernel
  · rw [hstatus]
    decide +kernel

end FlowLines.CommandLine
