import HardenAudit.Proofs.Launching
import HardenAudit.Proofs.Passing
import HardenAudit.Proofs.Writing
import HardenAudit.Toolchain.External
import Mathlib.Data.List.Forall2

/-!
# Every failure is logged once

A log is made of what the tools write and of what the audit writes itself.  What the tools write changes
nothing else, so the audit's own records are those of a run whose tools are muted.  Of its own the audit
closes each fixture with one record, which tells its failure or that it passed, and opens a run with one;
all else that it writes is for debugging.

    records of the tools do not change a run                           (run_alike)
    at a level that the tools keep quiet, a fixture only closes         (records_process)
    … and a list of fixtures closes one after the other                 (records_processAll)
    the external tools are quiet but for warnings and debugging         (quiet_toolchain)
-/

namespace HardenAudit

variable {ρ : Type}

/-! ## Algorithm -/

/-- The records of one level in a log, in order. -/
def Level.records (l : Level) (log : List Record) : List Record := log.filter (·.level = l)

/-- The record tells the failure of a result: its fixture, its code and its message. -/
def Record.Tells (r : FixtureResult) (record : Record) : Prop :=
  ∃ e, r.failure = some e ∧ record =
    { level := .error
      message := "Harness error in " ++ r.name ++ ": code=" ++ toString e.code
        ++ ", message=" ++ e.message
      fixture := some r.name }

/-- The record that a fixture passed. -/
def Record.ofPass (r : FixtureResult) : Record := ⟨.info, r.name ++ " passed", some r.name⟩

/-- The record of a failure of a whole run, which belongs to no fixture. -/
def Record.ofAbort (context : String) (e : Failure) : Record where
  level := .error
  message := "Harness error in " ++ context ++ ": code=" ++ toString e.code ++ ", message=" ++ e.message
  fixture := none

/-- Answers that differ in their records at most. -/
structure Answer.Alike {α : Type} (a b : Answer ρ α) : Prop where
  result : a.result = b.result
  world : a.world = b.world
  returns : a.returns = b.returns

namespace Toolchain

/-- The tools write no record of a level. -/
structure Quiet (tools : Toolchain ρ) (l : Level) : Prop where
  compile : ∀ source output w, l.records (tools.compile source output w).log = []
  analyze : ∀ artifact w, l.records (tools.analyze artifact w).log = []

/-- The same tools without their records. -/
def muted (tools : Toolchain ρ) : Toolchain ρ where
  preflight := tools.preflight
  compile source output w := { tools.compile source output w with log := [] }
  analyze artifact w := { tools.analyze artifact w with log := [] }

/-- Tools that give the same results and leave the same worlds; their records may differ. -/
structure Alike (tools others : Toolchain ρ) : Prop where
  preflight : tools.preflight = others.preflight
  compile : ∀ source output w,
    (tools.compile source output w).Alike (others.compile source output w)
  analyze : ∀ artifact w, (tools.analyze artifact w).Alike (others.analyze artifact w)

end Toolchain

/-- Journals that differ in their records at most. -/
structure Journal.Alike (j k : Journal ρ) : Prop where
  world : j.world = k.world
  calls : j.calls = k.calls
  stores : j.stores = k.stores
  returns : j.returns = k.returns

/-- Journals that are alike piece by piece are alike. -/
theorem Journal.Alike.append {j j' k k' : Journal ρ} (h : j.Alike j') (hnext : k.Alike k') :
    (j.append k).Alike (j'.append k') where
  world := hnext.world
  calls := by unfold Journal.append; rw [h.calls, hnext.calls]
  stores := by unfold Journal.append; rw [h.stores, hnext.stores]
  returns := by unfold Journal.append; rw [h.returns, hnext.returns]

namespace Audit

/-- The audit with its tools muted, so that all records are its own. -/
def muted (a : Audit ρ) : Audit ρ := ⟨a.paths, a.tools.muted⟩

/-- The record that opens a run. -/
def opening (a : Audit ρ) (fixtures : List Fixture) : Record :=
  ⟨.info, "validating " ++ toString fixtures.length ++ " fixtures into " ++ a.paths.outputDir.text, none⟩

/-- The log of a run that gives results: the failures are told once each, in order, and so are the
passes by what the audit writes itself. -/
structure LogsResults (a : Audit ρ) (fixtures : List Fixture) (w : World ρ)
    (results : List FixtureResult) : Prop where
  errors : List.Forall₂ Record.Tells (results.filter fun r => !r.passed)
    (Level.error.records (a.run fixtures w).2.log)
  muted : (a.muted.run fixtures w).1 = .ok results ∧
    (a.muted.run fixtures w).2.Alike (a.run fixtures w).2
  infos : Level.info.records (a.muted.run fixtures w).2.log =
    a.opening fixtures :: (results.filter fun r => r.passed).map Record.ofPass
  /-- Tools that write no such records either leave just those of the audit. -/
  quiet : a.tools.Quiet .info → Level.info.records (a.run fixtures w).2.log =
    Level.info.records (a.muted.run fixtures w).2.log

/-- The log of a run that fails as a whole is one record, with the step that failed. -/
inductive LogsAbort (a : Audit ρ) (w : World ρ) (e : Failure) : List Record → Prop where
  | unready (h : a.tools.preflight w.files = .error e) :
    LogsAbort a w e [.ofAbort "preflight" e]
  | unprepared (ready : a.tools.preflight w.files = .ok ())
    (h : (prepareOutput w.files a.paths.outputDir).1 = .error e) :
    LogsAbort a w e [.ofAbort "output directory" e]

/-! ## Records of the tools do not change a run -/

variable {a : Audit ρ} {others : Toolchain ρ} {f : Fixture} {w : World ρ} {j k : Journal ρ}

theorem conclude_alike (h : j.Alike k) (text : String) :
    (Audit.conclude ⟨a.paths, others⟩ f text j).1 = (a.conclude f text k).1 ∧
    (Audit.conclude ⟨a.paths, others⟩ f text j).2.Alike (a.conclude f text k).2 := by
  have hfiles : j.files = k.files := congrArg World.files h.world
  unfold conclude
  dsimp only
  rw [hfiles]
  generalize persist k.files a.paths.outputDir f.artifactStem text = stored
  obtain ⟨result, fs⟩ := stored
  have hstored : (j.storing ⟨a.textPath f, text⟩ fs).Alike (k.storing ⟨a.textPath f, text⟩ fs) := by
    unfold Journal.storing
    rw [h.world, h.stores]
    exact ⟨rfl, h.calls, rfl, h.returns⟩
  cases result with
  | error e => exact ⟨rfl, hstored⟩
  | ok path => exact ⟨rfl, hstored.world, hstored.calls, hstored.stores, hstored.returns⟩

theorem examine_alike (htools : others.Alike a.tools) (h : j.Alike k) (artifact : Path) :
    (Audit.examine ⟨a.paths, others⟩ f artifact j).1 = (a.examine f artifact k).1 ∧
    (Audit.examine ⟨a.paths, others⟩ f artifact j).2.Alike (a.examine f artifact k).2 := by
  obtain ⟨hresult, hworld, hreturns⟩ := htools.analyze artifact k.world
  have hafter : (j.after (.analyze artifact) (others.analyze artifact j.world)).Alike
      (k.after (.analyze artifact) (a.tools.analyze artifact k.world)) := by
    rw [h.world]
    exact ⟨hworld, congrArg (· ++ _) h.calls, h.stores,
      by unfold Journal.after; rw [h.returns, hreturns]⟩
  unfold examine
  dsimp only
  rw [h.world] at hafter ⊢
  rw [hresult]
  cases (a.tools.analyze artifact k.world).result with
  | error e => exact ⟨rfl, hafter⟩
  | ok text => exact conclude_alike hafter text

theorem evaluate_alike (htools : others.Alike a.tools) :
    (Audit.evaluate ⟨a.paths, others⟩ f w).1 = (a.evaluate f w).1 ∧
    (Audit.evaluate ⟨a.paths, others⟩ f w).2.Alike (a.evaluate f w).2 := by
  obtain ⟨hresult, hworld, hreturns⟩ := htools.compile (a.source f) (a.output f) w
  have hafter : (Journal.after { world := w } (.compile (a.source f) (a.output f))
        (others.compile (a.source f) (a.output f) w)).Alike
      (Journal.after { world := w } (.compile (a.source f) (a.output f))
        (a.tools.compile (a.source f) (a.output f) w)) :=
    ⟨hworld, rfl, rfl, by unfold Journal.after; rw [hreturns]⟩
  have hsource : Audit.source ⟨a.paths, others⟩ f = a.source f := rfl
  have houtput : Audit.output ⟨a.paths, others⟩ f = a.output f := rfl
  unfold evaluate
  rw [hsource, houtput]
  cases checkSource w.files (a.source f) with
  | error e => exact ⟨rfl, rfl, rfl, rfl, rfl⟩
  | ok =>
    dsimp only
    rw [hresult]
    cases (a.tools.compile (a.source f) (a.output f) w).result with
    | error e => exact ⟨rfl, hafter⟩
    | ok artifact => exact examine_alike htools hafter artifact

theorem process_alike (htools : others.Alike a.tools) (f : Fixture) (w : World ρ) :
    (Audit.process ⟨a.paths, others⟩ f w).1 = (a.process f w).1 ∧
    (Audit.process ⟨a.paths, others⟩ f w).2.Alike (a.process f w).2 := by
  obtain ⟨hevaluation, hjournal⟩ := evaluate_alike (f := f) (w := w) htools
  unfold process
  generalize Audit.evaluate ⟨a.paths, others⟩ f w = x at hevaluation hjournal ⊢
  generalize a.evaluate f w = y at hevaluation hjournal ⊢
  obtain ⟨evaluation, j⟩ := x
  obtain ⟨evaluation', k⟩ := y
  cases hevaluation
  exact ⟨rfl, hjournal.world, hjournal.calls, hjournal.stores, hjournal.returns⟩

theorem processAll_alike (htools : others.Alike a.tools) (fixtures : List Fixture) :
    ∀ w : World ρ,
      (Audit.processAll ⟨a.paths, others⟩ fixtures w).1 = (a.processAll fixtures w).1 ∧
      (Audit.processAll ⟨a.paths, others⟩ fixtures w).2.Alike (a.processAll fixtures w).2 := by
  induction fixtures with
  | nil => exact fun w => ⟨rfl, rfl, rfl, rfl, rfl⟩
  | cons f rest ih =>
    intro w
    obtain ⟨hresult, hjournal⟩ := process_alike htools f w
    rw [processAll, processAll]
    generalize Audit.process ⟨a.paths, others⟩ f w = x at hresult hjournal ⊢
    generalize a.process f w = y at hresult hjournal ⊢
    obtain ⟨result, j⟩ := x
    obtain ⟨result', k⟩ := y
    have hworld := hjournal.world
    dsimp only at hresult hworld hjournal ⊢
    obtain ⟨hresults, hrest⟩ := ih k.world
    rw [hworld, hresult, hresults]
    exact ⟨rfl, hjournal.append hrest⟩

/-- With tools that only write other records, a run differs in its records at most. -/
theorem run_alike (htools : others.Alike a.tools) (fixtures : List Fixture) (w : World ρ) :
    (Audit.run ⟨a.paths, others⟩ fixtures w).1 = (a.run fixtures w).1 ∧
    (Audit.run ⟨a.paths, others⟩ fixtures w).2.Alike (a.run fixtures w).2 := by
  unfold run
  dsimp only
  rw [htools.preflight]
  cases a.tools.preflight w.files with
  | error e => exact ⟨rfl, rfl, rfl, rfl, rfl⟩
  | ok =>
    dsimp only
    generalize prepareOutput w.files a.paths.outputDir = prepared
    obtain ⟨result, fs⟩ := prepared
    cases result with
    | error e => exact ⟨rfl, rfl, rfl, rfl, rfl⟩
    | ok =>
      obtain ⟨hresults, hjournal⟩ := processAll_alike htools fixtures { w with files := fs }
      dsimp only
      rw [hresults]
      exact ⟨rfl, Journal.Alike.append ⟨rfl, rfl, rfl, rfl⟩ hjournal⟩

theorem muted_alike (tools : Toolchain ρ) : tools.muted.Alike tools where
  preflight := rfl
  compile _ _ _ := ⟨rfl, rfl, rfl⟩
  analyze _ _ := ⟨rfl, rfl, rfl⟩

theorem quiet_muted (tools : Toolchain ρ) (l : Level) : tools.muted.Quiet l where
  compile _ _ _ := rfl
  analyze _ _ := rfl

/-! ## The records of a fixture and of a list of fixtures -/

end Audit

namespace Level

variable {l : Level}

theorem records_append (log more : List Record) :
    l.records (log ++ more) = l.records log ++ l.records more := List.filter_append ..

theorem records_cons (r : Record) (log : List Record) :
    l.records (r :: log) = if r.level = l then r :: l.records log else l.records log := by
  unfold records
  rw [List.filter_cons]
  simp only [decide_eq_true_eq]

theorem records_within (name : String) (log : List Record) :
    l.records (log.map (Record.within name)) = (l.records log).map (Record.within name) := by
  unfold records
  rw [List.filter_map]
  rfl

end Level

namespace Audit

variable {a : Audit ρ} {l : Level} {j : Journal ρ}

/-- The record that closes a fixture, as part of its processing. -/
def told (r : FixtureResult) : Record := (closing r).within r.name

theorem records_conclude (hl : l ≠ .debug) (f : Fixture) (text : String) :
    l.records (a.conclude f text j).2.log = l.records j.log := by
  unfold conclude
  dsimp only
  generalize persist j.files a.paths.outputDir f.artifactStem text = stored
  obtain ⟨result, fs⟩ := stored
  cases result with
  | error e => rfl
  | ok path =>
    dsimp only [Journal.note, Journal.storing]
    rw [Level.records_append, Level.records_cons, if_neg (Ne.symm hl)]
    exact List.append_nil _

theorem records_examine (hquiet : a.tools.Quiet l) (hl : l ≠ .debug) (f : Fixture) (artifact : Path) :
    l.records (a.examine f artifact j).2.log = l.records j.log := by
  have hafter : l.records (j.after (.analyze artifact) (a.tools.analyze artifact j.world)).log =
      l.records j.log := by
    unfold Journal.after
    rw [Level.records_append, hquiet.analyze, List.append_nil]
  unfold examine
  dsimp only
  split
  · exact hafter
  · rw [records_conclude hl, hafter]

theorem records_evaluate (hquiet : a.tools.Quiet l) (hl : l ≠ .debug) (f : Fixture) (w : World ρ) :
    l.records (a.evaluate f w).2.log = [] := by
  have hafter : l.records (Journal.after { world := w } (.compile (a.source f) (a.output f))
      (a.tools.compile (a.source f) (a.output f) w)).log = [] := by
    unfold Journal.after
    rw [Level.records_append, hquiet.compile, List.append_nil]
    rfl
  unfold evaluate
  split
  · rfl
  · dsimp only
    split
    · exact hafter
    · rw [records_examine hquiet hl, hafter]

theorem name_ofEvaluation (f : Fixture) (evaluation : Except Failure Evaluation) :
    (FixtureResult.ofEvaluation f evaluation).name = f.name := by
  unfold FixtureResult.ofEvaluation
  split
  · rfl
  · split <;> rfl

/-- At a level that the tools keep quiet, a fixture only writes the record that closes it. -/
theorem records_process (hquiet : a.tools.Quiet l) (hl : l ≠ .debug) (f : Fixture) (w : World ρ) :
    l.records (a.process f w).2.log = l.records [told (a.process f w).1] := by
  have hevaluate := records_evaluate hquiet hl f w
  unfold process
  generalize a.evaluate f w = evaluated at hevaluate ⊢
  obtain ⟨evaluation, j⟩ := evaluated
  dsimp only [Journal.note] at hevaluate ⊢
  rw [Level.records_within, Level.records_append, hevaluate, List.nil_append, ← Level.records_within]
  unfold told
  rw [name_ofEvaluation]
  rfl

/-- Fixtures one after the other are closed one after the other. -/
theorem records_processAll (hquiet : a.tools.Quiet l) (hl : l ≠ .debug) (fixtures : List Fixture) :
    ∀ w : World ρ, l.records (a.processAll fixtures w).2.log =
      l.records ((a.processAll fixtures w).1.map told) := by
  induction fixtures with
  | nil => exact fun w => rfl
  | cons f rest ih =>
    intro w
    have hhead := records_process hquiet hl f w
    rw [processAll]
    generalize a.process f w = processed at hhead ⊢
    obtain ⟨result, j⟩ := processed
    dsimp only [Journal.append] at hhead ⊢
    rw [Level.records_append, hhead, ih, ← Level.records_append]
    rfl

/-! ## What the closing records tell -/

/-- Every result of a list of fixtures passed, or holds its failure. -/
theorem mem_processAll (fixtures : List Fixture) : ∀ w : World ρ,
    ∀ r ∈ (a.processAll fixtures w).1, r.passed = true ↔ r.failure = none := by
  induction fixtures with
  | nil => exact fun w r h => absurd h List.not_mem_nil
  | cons f rest ih =>
    intro w r hr
    rw [(a.processAll_cons f rest w).1] at hr
    rcases List.mem_cons.mp hr with hhead | hr
    · rw [hhead, passed_iff]
      exact a.process_passes_iff f w
    · exact ih _ r hr

theorem tells_told {r : FixtureResult} {e : Failure} (h : r.failure = some e) :
    Record.Tells r (told r) := by
  refine ⟨e, h, ?_⟩
  unfold told closing
  rw [h]
  rfl

theorem told_of_pass {r : FixtureResult} (h : r.failure = none) : told r = Record.ofPass r := by
  unfold told closing
  rw [h]
  rfl

theorem errors_told (results : List FixtureResult)
    (h : ∀ r ∈ results, r.passed = true ↔ r.failure = none) :
    List.Forall₂ Record.Tells (results.filter fun r => !r.passed)
      (Level.error.records (results.map told)) := by
  induction results with
  | nil => exact .nil
  | cons r rest ih =>
    obtain ⟨hr, hrest⟩ := List.forall_mem_cons.mp h
    rw [List.map_cons, Level.records_cons, List.filter_cons]
    cases hfailure : r.failure with
    | none =>
      rw [told_of_pass hfailure, hr.mpr hfailure]
      exact ih hrest
    | some e =>
      have hfailed : r.passed = false := by
        rw [← Bool.not_eq_true, hr, hfailure]
        exact fun h => by cases h
      have hlevel : (told r).level = .error := by
        obtain ⟨e', -, htold⟩ := tells_told hfailure
        rw [htold]
      rw [hfailed, if_pos hlevel]
      exact .cons (tells_told hfailure) (ih hrest)

theorem infos_told (results : List FixtureResult)
    (h : ∀ r ∈ results, r.passed = true ↔ r.failure = none) :
    Level.info.records (results.map told) = (results.filter fun r => r.passed).map Record.ofPass := by
  induction results with
  | nil => rfl
  | cons r rest ih =>
    obtain ⟨hr, hrest⟩ := List.forall_mem_cons.mp h
    rw [List.map_cons, Level.records_cons, List.filter_cons, ih hrest]
    cases hfailure : r.failure with
    | none =>
      rw [told_of_pass hfailure, hr.mpr hfailure]
      rfl
    | some e =>
      have hfailed : ¬ r.passed = true := by
        rw [hr, hfailure]
        exact fun h => by cases h
      obtain ⟨e', -, htold⟩ := tells_told hfailure
      rw [htold, if_neg hfailed]
      rfl

/-! ## The log of a run -/

/-- How the log of a run is made: one record that the run failed as a whole, or one that it begins and
then those of the fixtures. -/
theorem run_log (a : Audit ρ) (fixtures : List Fixture) (w : World ρ) :
    (∃ e, (a.run fixtures w).1 = .error e ∧ LogsAbort a w e (a.run fixtures w).2.log) ∨
    ∃ w', (a.run fixtures w).1 = .ok (a.processAll fixtures w').1 ∧
      (a.run fixtures w).2.log = a.opening fixtures :: (a.processAll fixtures w').2.log := by
  unfold run
  cases hready : a.tools.preflight w.files with
  | error e => exact .inl ⟨e, rfl, .unready hready⟩
  | ok =>
    dsimp only
    cases hprepared : prepareOutput w.files a.paths.outputDir with
    | mk result fs =>
      cases result with
      | error e => exact .inl ⟨e, rfl, .unprepared hready (congrArg Prod.fst hprepared)⟩
      | ok => exact .inr ⟨{ w with files := fs }, rfl, rfl⟩

theorem records_run {fixtures : List Fixture} {w : World ρ} {results : List FixtureResult}
    (hquiet : a.tools.Quiet l) (hl : l ≠ .debug) (h : (a.run fixtures w).1 = .ok results) :
    l.records (a.run fixtures w).2.log = l.records (a.opening fixtures :: results.map told) ∧
    ∀ r ∈ results, r.passed = true ↔ r.failure = none := by
  rcases a.run_log fixtures w with ⟨e, herror, -⟩ | ⟨w', hok, hlog⟩
  · rw [herror] at h
    cases h
  · rw [hok, Except.ok.injEq] at h
    subst h
    rw [hlog, Level.records_cons, Level.records_cons, records_processAll hquiet hl]
    exact ⟨rfl, mem_processAll fixtures w'⟩

theorem logsResults {fixtures : List Fixture} {w : World ρ} {results : List FixtureResult}
    (hquiet : a.tools.Quiet .error) (h : (a.run fixtures w).1 = .ok results) :
    a.LogsResults fixtures w results := by
  obtain ⟨hsame, halike⟩ := run_alike (muted_alike a.tools) fixtures w
  have hmuted : (a.muted.run fixtures w).1 = .ok results := hsame.trans h
  have hlevel : Level.info ≠ .debug := by decide
  obtain ⟨hinfos, hpassed⟩ := records_run (quiet_muted a.tools .info) hlevel hmuted
  have hopening : Level.info.records (a.muted.opening fixtures :: results.map told) =
      a.opening fixtures :: (results.filter fun r => r.passed).map Record.ofPass := by
    rw [Level.records_cons, infos_told results hpassed]
    rfl
  refine ⟨?_, ⟨hmuted, halike⟩, hinfos.trans hopening, fun hinfo => ?_⟩
  · rw [(records_run hquiet (by decide) h).1, Level.records_cons]
    exact errors_told results hpassed
  · rw [(records_run hinfo hlevel h).1, hinfos]
    rfl

end Audit

/-! ## External tools -/

namespace External

open Launch (Machine)

variable {l : Level}

/-- Running a program tells no more than warnings. -/
theorem records_run (machine : Machine ρ) (hdebug : l ≠ .debug) (hwarn : l ≠ .warn)
    (command : Launch.Command) (limit : Span) (w : World ρ) : l.records (Launch.run machine command limit w).log = [] := by
  have hspawning : l.records [Launch.spawning command] = [] :=
    (Level.records_cons _ _).trans (if_neg (Ne.symm hdebug))
  have hran := Launch.run_ran machine command limit w
  generalize Launch.run machine command limit w = answer at hran ⊢
  cases hran with
  | refused e => exact hspawning
  | unasked b time reason => exact hspawning
  | late b time =>
    rw [← List.singleton_append, Level.records_append, hspawning, List.nil_append, Level.records_cons,
      if_neg (Ne.symm hwarn)]
    rfl
  | ended b time seen status => exact hspawning

/-- The external tools write nothing but warnings and records for debugging. -/
theorem quiet_toolchain (machine : Machine ρ) (s : Settings) (hdebug : l ≠ .debug) (hwarn : l ≠ .warn) :
    (toolchain machine s).Quiet l where
  compile source output w := by
    have hrun := records_run machine hdebug hwarn (compileCommand s.tools source output)
      (.ofMilliseconds s.limits.compile) w
    show l.records (External.compile machine s.tools s.limits.compile source output w).log = []
    unfold External.compile
    dsimp only
    split
    · exact hrun
    · split
      · rw [Level.records_append, hrun, Level.records_cons, if_neg (Ne.symm hdebug)]
        rfl
      · exact hrun
  analyze artifact w := by
    have hrun := records_run machine hdebug hwarn (analyzeCommand s.tools artifact)
      (.ofMilliseconds s.limits.analyze) w
    show l.records (External.analyze machine s.tools s.limits.analyze artifact w).log = []
    unfold External.analyze
    dsimp only
    split
    · exact hrun
    · rw [Level.records_append, hrun, List.nil_append]
      split
      · rfl
      · rw [Level.records_cons, if_neg (Ne.symm hwarn)]
        rfl

end External

/-! ## Top theorem -/

/-- **Every failure is logged once.**  If the tools write no errors of their own, the errors in the log of
a run are the failures of its results, in order; its other messages are that it begins and which fixtures
passed; and a run that fails as a whole writes just one record, which says in which step.  The external
tools write nothing but warnings and records for debugging. -/
theorem Audit.run_logs_failures_once (a : Audit ρ) (hquiet : a.tools.Quiet .error)
    (fixtures : List Fixture) (w : World ρ) :
    (∀ results, (a.run fixtures w).1 = .ok results → a.LogsResults fixtures w results) ∧
    (∀ e, (a.run fixtures w).1 = .error e → a.LogsAbort w e (a.run fixtures w).2.log) ∧
    ∀ (machine : Launch.Machine ρ) s l, l ≠ .debug → l ≠ .warn →
      (External.toolchain machine s).Quiet l := by
  refine ⟨fun results h => logsResults hquiet h, fun e h => ?_,
    fun machine s l => External.quiet_toolchain machine s⟩
  rcases a.run_log fixtures w with ⟨e', herror, hlog⟩ | ⟨w', hok, -⟩
  · rw [herror, Except.error.injEq] at h
    exact h ▸ hlog
  · rw [hok] at h
    cases h

/-- A fixture that passes, one without a source and one with a wrong count, with tools that write records
of their own: the two failures are logged, in order. -/
theorem Audit.run_logs_failures_once_mixed :
    let tools : Toolchain Unit := {
      preflight := fun _ => .ok ()
      compile := fun _ o w => { result := .ok o, world := w, log := [⟨.info, "compiling", none⟩] }
      analyze := fun _ w =>
        { result := .ok "Load instruction", world := w, log := [⟨.warn, "analysing", none⟩] } }
    let a : Audit Unit := ⟨{ fixtureRoot := ⟨"/"⟩, outputDir := ⟨"/out"⟩ }, tools⟩
    let file : Node := { matter := .file [], mode := 0o644 }
    let w : World Unit := ⟨([["one.c"], ["three.c"]].foldl (fun fs l => fs.put l file)
      (({} : FileSystem).put ["out"] { matter := .directory, mode := 0o755 })), ()⟩
    let fixtures := [Fixture.make "One" "one.c" [("load", 1)], Fixture.make "Two" "two.c" [],
      Fixture.make "Three" "three.c" [("load", 0)]]
    tools.Quiet .error ∧
    (∃ results, (a.run fixtures w).1 = .ok results ∧ a.LogsResults fixtures w results) ∧
    (Level.error.records (a.run fixtures w).2.log).map (·.message) =
      ["Harness error in Two: code=2002, message=Source file not found: /two.c",
        "Harness error in Three: code=2004, message=Diagnostic counts mismatched: "
          ++ "load: expected 0, got 1"] := by
  intro tools a file w fixtures
  have hquiet : tools.Quiet .error := ⟨fun _ _ _ => rfl, fun _ _ => rfl⟩
  have hready : ((a.run fixtures w).1.toOption).isSome = true := by decide +kernel
  obtain ⟨results, hok⟩ := Option.isSome_iff_exists.mp hready
  have hrun := toOption_eq_some_iff.mp hok
  exact ⟨hquiet, ⟨results, hrun, (a.run_logs_failures_once hquiet fixtures w).1 results hrun⟩,
    by decide +kernel⟩

end HardenAudit
