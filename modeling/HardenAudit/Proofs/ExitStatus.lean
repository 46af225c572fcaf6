import HardenAudit.CommandLine.Execute
import HardenAudit.Proofs.Returning

/-!
# The exit status of a run

A run that ends exits with zero iff nothing failed from the settings to the JSON report, and with one in
every other case.  The run as a whole is followed from the outside in: what stops it before a fixture is
touched, what the fixtures did, and what became of the report.  A run that is stuck in one of its fixtures
has no exit status, and no limit on the tools helps it.

    the report is written iff its directory is made and its file written     (writeSummary_eq_none_iff)
    what is reported exits with zero iff nothing failed                      (reportRun_exit)
    a program with settings reports on its run, if the run ever returns      (execute_of_ok)
-/

namespace HardenAudit

namespace CommandLine

open Launch (Machine)

/-! ## Algorithm -/

/-- The JSON report of some results is written: first the directory for it is made, and then the
file. -/
def SummaryWritten (fs : FileSystem) (path : Path) (results : List FixtureResult) : Prop :=
  ∃ between fs', makeSummaryDirectory fs path = (none, between) ∧
    between.writeText path (Report.json results).pretty = .ok fs'

theorem writeSummary_eq_none_iff (fs : FileSystem) (path : Path) (results : List FixtureResult) :
    (writeSummary fs path results).1 = none ↔ SummaryWritten fs path results := by
  unfold writeSummary SummaryWritten
  constructor
  · intro h
    split at h
    · cases h
    · next between hmade =>
      split at h
      · next fs' hwrite => exact ⟨between, fs', hmade, hwrite⟩
      · cases h
  · rintro ⟨between, fs', hmade, hwrite⟩
    rw [hmade]
    dsimp only
    rw [hwrite]

/-! ## From the results to the exit status -/

variable {ρ : Type}

/-- The audit that the settings call for. -/
def auditOf (machine : Machine ρ) (settings : Settings) : Audit ρ :=
  ⟨settings.paths, External.toolchain machine settings⟩

variable (machine : Machine ρ) (settings : Settings) (summary : Option Path) (w : World ρ)

theorem preflight_auditOf :
    (auditOf machine settings).tools.preflight = External.preflight settings.tools := by
  unfold auditOf External.toolchain
  dsimp only

/-- The tools are ready if the plugin is there. -/
theorem ready_iff (fs : FileSystem) : (auditOf machine settings).tools.preflight fs = .ok () ↔
    fs.pathExists settings.tools.pluginPath = true := by
  rw [preflight_auditOf]
  unfold External.preflight
  split
  · next h => exact ⟨fun _ => h, fun _ => rfl⟩
  · next h => exact ⟨fun h' => (by cases h'), fun h' => absurd h' h⟩

/-- With results, the exit status is zero iff all of them pass and the report is written. -/
theorem reportRun_of_ok (fs : FileSystem) (results : List FixtureResult) :
    ((reportRun summary fs (.ok results)).exit = 0 ↔
      (∀ r ∈ results, r.passed = true) ∧
        ∀ path, summary = some path → SummaryWritten fs path results) ∧
    (reportRun summary fs (.ok results)).exit ≤ 1 := by
  unfold reportRun
  dsimp only
  rw [← Summary.exitCode_eq_zero_iff]
  cases summary with
  | none =>
    refine ⟨⟨fun h => ⟨h, fun path hpath => by cases hpath⟩, fun h => h.1⟩, ?_⟩
    exact Summary.exitCode_le_one _
  | some path =>
    have hwritten := writeSummary_eq_none_iff fs path results
    cases hsummary : writeSummary fs path results with
    | mk trouble fs' =>
      rw [hsummary] at hwritten
      dsimp only
      rw [hsummary]
      cases trouble with
      | none =>
        refine ⟨⟨fun h => ⟨h, ?_⟩, fun h => h.1⟩, Summary.exitCode_le_one _⟩
        rintro path' ⟨⟩
        exact hwritten.mp rfl
      | some t =>
        refine ⟨⟨fun h => (by cases h), fun h => ?_⟩, Nat.le_refl 1⟩
        cases hwritten.mpr (h.2 path rfl)

/-- What is reported on a run exits with zero iff nothing failed. -/
theorem reportRun_exit :
    ((reportRun summary ((auditOf machine settings).run Fixture.registry w).2.files
        ((auditOf machine settings).run Fixture.registry w).1).exit = 0 ↔ ∃ fs w',
      w.files.pathExists settings.tools.pluginPath = true ∧
      w.files.makeTree settings.paths.outputDir = (none, fs) ∧
      (auditOf machine settings).AllPass Fixture.registry { w with files := fs } w' ∧
      ∀ path, summary = some path → SummaryWritten w'.files path
        ((auditOf machine settings).processAll Fixture.registry { w with files := fs }).1) ∧
    (reportRun summary ((auditOf machine settings).run Fixture.registry w).2.files
        ((auditOf machine settings).run Fixture.registry w).1).exit ≤ 1 := by
  have hplugin := ready_iff machine settings w.files
  rcases (auditOf machine settings).run_cases Fixture.registry w with
    ⟨fs, hready, htree, hresults, hworld⟩ | ⟨e, herror, hnot⟩
  · rw [hresults]
    obtain ⟨hexit, hle⟩ := reportRun_of_ok summary
      ((auditOf machine settings).run Fixture.registry w).2.files
      ((auditOf machine settings).processAll Fixture.registry { w with files := fs }).1
    refine ⟨?_, hle⟩
    rw [hexit]
    unfold Journal.files
    rw [hworld]
    constructor
    · rintro ⟨hpassed, hwritten⟩
      exact ⟨fs, _, hplugin.mp hready, htree,
        (Audit.processAll_passed_iff _ _ _ _).mpr ⟨hpassed, rfl⟩, hwritten⟩
    · rintro ⟨fs', w', -, htree', hpass, hwritten⟩
      have hsame : fs' = fs := by
        have := htree'.symm.trans htree
        exact (Prod.mk.inj this).2
      subst hsame
      obtain ⟨hpassed, rfl⟩ := (Audit.processAll_passed_iff _ _ _ _).mp hpass
      exact ⟨hpassed, hwritten⟩
  · -- what stopped the run is one of the conditions
    rw [herror]
    refine ⟨⟨fun h => (by cases h), ?_⟩, Nat.le_refl 1⟩
    rintro ⟨fs, w', hexists, htree, -⟩
    exact absurd ⟨hplugin.mpr hexists, fs, htree⟩ hnot

variable {w} {args : List String} {i : Invocation} {log : List Record}

/-- A program without settings ends with one, and leaves what it found. -/
theorem execute_of_error {e : Settings.LoadError} (hparse : parse args = .ok i)
    (hresolve : Settings.resolve w.files (i.options.config.map Path.mk) = (.error e, log)) :
    ∃ o, execute machine args w = some o ∧ o.exit = 1 ∧ o.files = w.files := by
  unfold execute
  rw [hparse]
  dsimp only
  unfold perform
  rw [hresolve]
  exact ⟨_, rfl, rfl, rfl⟩

/-- A program with settings reports on its run, if the run ever returns. -/
theorem execute_of_ok {settings : Settings} (hparse : parse args = .ok i) (hverb : i.verb = .run)
    (hresolve : Settings.resolve w.files (i.options.config.map Path.mk) = (.ok settings, log)) :
    ∃ stderr, execute machine args w =
      if ((auditOf machine settings).run Fixture.registry w).2.returns then
        some { reportRun (i.options.summaryJson.map Path.mk)
            ((auditOf machine settings).run Fixture.registry w).2.files
            ((auditOf machine settings).run Fixture.registry w).1 with stderr := stderr }
      else none := by
  unfold execute
  rw [hparse]
  dsimp only
  unfold perform
  rw [hresolve, hverb]
  unfold runVerb auditOf
  dsimp only
  generalize Audit.run _ _ _ = ran
  obtain ⟨result, j⟩ := ran
  dsimp only
  cases j.returns with
  | true => exact ⟨_, rfl⟩
  | false => exact ⟨"", rfl⟩

section

variable (hparse : parse args = .ok i) (hverb : i.verb = .run)

include hparse hverb

/-- The exit status of a run that ends. -/
theorem exit_of_execute {o : Outcome} (h : execute machine args w = some o) :
    (o.exit = 0 ↔ ∃ settings log fs w',
      Settings.resolve w.files (i.options.config.map Path.mk) = (.ok settings, log) ∧
      w.files.pathExists settings.tools.pluginPath = true ∧
      w.files.makeTree settings.paths.outputDir = (none, fs) ∧
      (auditOf machine settings).AllPass Fixture.registry { w with files := fs } w' ∧
      ∀ path, i.options.summaryJson.map Path.mk = some path → SummaryWritten w'.files path
        ((auditOf machine settings).processAll Fixture.registry { w with files := fs }).1) ∧
    (o.exit = 0 ∨ o.exit = 1) := by
  cases hresolve : Settings.resolve w.files (i.options.config.map Path.mk) with
  | mk result log =>
    cases result with
    | error e =>
      obtain ⟨o', hexecute, hexit, -⟩ := execute_of_error machine hparse hresolve
      obtain rfl := Option.some.inj (hexecute.symm.trans h)
      rw [hexit]
      refine ⟨⟨fun h => (by cases h), ?_⟩, .inr rfl⟩
      rintro ⟨settings, log', fs, w', h, -⟩
      cases h
    | ok settings =>
      obtain ⟨stderr, hexecute⟩ := execute_of_ok machine hparse hverb hresolve
      obtain ⟨hexit, hle⟩ :=
        reportRun_exit machine settings (i.options.summaryJson.map Path.mk) w
      rw [h] at hexecute
      split at hexecute
      · obtain rfl := Option.some.inj hexecute
        refine ⟨?_, Nat.le_one_iff_eq_zero_or_eq_one.mp hle⟩
        rw [hexit]
        constructor
        · rintro ⟨fs, w', h⟩
          exact ⟨settings, log, fs, w', rfl, h⟩
        · rintro ⟨settings', log', fs, w', hsame, h⟩
          cases hsame
          exact ⟨fs, w', h⟩
      · cases hexecute

/-- A run does not end just if its fixtures are stuck. -/
theorem execute_eq_none_iff : execute machine args w = none ↔ ∃ settings log fs,
    Settings.resolve w.files (i.options.config.map Path.mk) = (.ok settings, log) ∧
    w.files.pathExists settings.tools.pluginPath = true ∧
    w.files.makeTree settings.paths.outputDir = (none, fs) ∧
    (auditOf machine settings).Stuck Fixture.registry { w with files := fs } := by
  cases hresolve : Settings.resolve w.files (i.options.config.map Path.mk) with
  | mk result log =>
    cases result with
    | error e =>
      obtain ⟨o, hexecute, -⟩ := execute_of_error machine hparse hresolve
      rw [hexecute]
      refine iff_of_false (fun h => by cases h) ?_
      rintro ⟨settings, log', fs, h, -⟩
      cases h
    | ok settings =>
      obtain ⟨stderr, hexecute⟩ := execute_of_ok machine hparse hverb hresolve
      have hstuck : execute machine args w = none ↔
          ((auditOf machine settings).run Fixture.registry w).2.returns = false := by
        rw [hexecute]
        cases ((auditOf machine settings).run Fixture.registry w).2.returns <;> simp
      rw [hstuck, Audit.run_returns_eq_false_iff]
      constructor
      · rintro ⟨fs, hready, h⟩
        exact ⟨settings, log, fs, rfl, (ready_iff machine settings w.files).mp hready, h⟩
      · rintro ⟨settings', log', fs, hsame, hplugin, h⟩
        cases hsame
        exact ⟨fs, (ready_iff machine settings w.files).mpr hplugin, h⟩

end

/-! ## Top theorem -/

/-- **A run that ends exits with zero iff nothing failed.**  The settings resolve, the plugin is there, the
directory for artifacts is made, every fixture of the registry passes in the world that the one before
left, and the JSON report is written if one is asked for.  In every other case the exit status is
one: no failure is outweighed by other fixtures, the tallies or the report.  A run does not end just if a
tool that it calls has ended in time and left its streams to something that holds them for ever. -/
theorem execute_exit_status (machine : Machine ρ) (args : List String) (w : World ρ)
    (i : Invocation) (hparse : parse args = .ok i) (hverb : i.verb = .run) :
    (∀ o, execute machine args w = some o →
      (o.exit = 0 ↔ ∃ settings log fs w',
        Settings.resolve w.files (i.options.config.map Path.mk) = (.ok settings, log) ∧
        w.files.pathExists settings.tools.pluginPath = true ∧
        w.files.makeTree settings.paths.outputDir = (none, fs) ∧
        (auditOf machine settings).AllPass Fixture.registry { w with files := fs } w' ∧
        ∀ path, i.options.summaryJson.map Path.mk = some path → SummaryWritten w'.files path
          ((auditOf machine settings).processAll Fixture.registry { w with files := fs }).1) ∧
      (o.exit = 0 ∨ o.exit = 1)) ∧
    (execute machine args w = none ↔ ∃ settings log fs,
      Settings.resolve w.files (i.options.config.map Path.mk) = (.ok settings, log) ∧
      w.files.pathExists settings.tools.pluginPath = true ∧
      w.files.makeTree settings.paths.outputDir = (none, fs) ∧
      (auditOf machine settings).Stuck Fixture.registry { w with files := fs }) ∧
    ∀ settings, External.ReturnsUnlessHeld machine settings := by
  exact ⟨fun _ => exit_of_execute machine hparse hverb, execute_eq_none_iff machine hparse hverb,
    fun settings => External.returnsUnlessHeld machine settings⟩

/-! ## A place in order -/

/-- Every source and the plugin are where the settings look for them by default. -/
def orderly : FileSystem :=
  let file : Node := { matter := .file [], mode := 0o644 }
  let directory : Node := { matter := .directory, mode := 0o755 }
  [["w", "build", "FIHardeningPass.so"], ["w", "fixtures", "test_vulnerable.c"],
    ["w", "fixtures", "test_safe_equality.c"], ["w", "fixtures", "test_safe_verification.c"],
    ["w", "fixtures", "test_clean.c"]].foldl (fun fs l => fs.put l file)
      ([["w"], ["w", "build"], ["w", "fixtures"]].foldl (fun fs l => fs.put l directory)
        { here := ["w"] })

/-- An analyser that agrees with the registry, and a compiler that has ended at once with success and whose
streams are closed at a time, if they ever are. -/
def orderlyMachine (closed : Option Nat) : Machine Unit where
  launch w command _ :=
    let finding := match command.args.getLast? with
      | some "./test_results/test_vulnerable.ll" =>
        "Conditional branch: potentially vulnerable instruction"
      | some "./test_results/test_safe_verification.ll" => ""
      | _ => "potentially vulnerable instruction"
    .ok { exit := some (0, .ok (.code 0))
          stdout := []
          stderr := [⟨0, Text.Utf8.encode finding⟩]
          closed := if command.program = "clang" then closed else some 0
          after := fun _ => w }

/-- The limit of the compiler is a minute, but what it has left holds its streams for an hour. -/
theorem exit_of_orderly_late :
    (execute (orderlyMachine (some 3600000000)) [] ⟨orderly, ()⟩).map (·.exit) = some 0 := by
  decide +kernel

/-- The first fixture is stuck in the compiler. -/
theorem execute_of_orderly_endless : execute (orderlyMachine none) [] ⟨orderly, ()⟩ = none := by
  have hmade : (orderly.makeTree ⟨"./test_results"⟩).1 = none := by decide +kernel
  have hreadable : (orderly.makeTree ⟨"./test_results"⟩).2.isReadable
      ⟨"./fixtures/test_vulnerable.c"⟩ = true := by decide +kernel
  refine (execute_eq_none_iff _ (i := {}) rfl rfl).mpr
    ⟨{}, _, _, rfl, by decide +kernel, Prod.ext hmade rfl, .here (.compile hreadable ?_)⟩
  exact ((External.returnsUnlessHeld _ _).compile _ _ _).mpr
    ⟨_, 0, .code 0, by decide, rfl, rfl, Nat.zero_le _, rfl⟩

/-- With everything in order the run exits with zero, and so all fixtures pass.  If the streams of the
compiler are held for ever, then it is stuck instead. -/
theorem execute_exit_status_in_order :
    (∃ o, execute (orderlyMachine (some 3600000000)) [] ⟨orderly, ()⟩ = some o ∧ o.exit = 0 ∧
      ∃ fs w', orderly.makeTree ⟨"./test_results"⟩ = (none, fs) ∧
        (auditOf (orderlyMachine (some 3600000000)) {}).AllPass Fixture.registry ⟨fs, ()⟩ w') ∧
    ∃ fs, orderly.makeTree ⟨"./test_results"⟩ = (none, fs) ∧
      (auditOf (orderlyMachine none) {}).Stuck Fixture.registry ⟨fs, ()⟩ := by
  constructor
  · obtain ⟨o, hexecute, hzero⟩ := Option.map_eq_some_iff.mp exit_of_orderly_late
    obtain ⟨hends, -, -⟩ :=
      execute_exit_status (orderlyMachine (some 3600000000)) [] ⟨orderly, ()⟩ {} rfl rfl
    obtain ⟨settings, log, fs, w', hresolve, -, htree, hpass, -⟩ := (hends o hexecute).1.mp hzero
    cases hresolve
    exact ⟨o, hexecute, hzero, fs, w', htree, hpass⟩
  · obtain ⟨-, hstuck, -⟩ := execute_exit_status (orderlyMachine none) [] ⟨orderly, ()⟩ {} rfl rfl
    obtain ⟨settings, log, fs, hresolve, -, htree, h⟩ := hstuck.mp execute_of_orderly_endless
    cases hresolve
    exact ⟨fs, htree, h⟩

/-- If the compiler has ended and what it has left holds its streams for an hour, then all is well in the
end, although its limit is a minute; and if they are held for ever, then there is no exit status, neither
zero nor one. -/
theorem execute_outlasts_limits :
    (∃ o, execute (orderlyMachine (some 3600000000)) [] ⟨orderly, ()⟩ = some o ∧ o.exit = 0) ∧
    ¬ ∃ o, execute (orderlyMachine none) [] ⟨orderly, ()⟩ = some o ∧ (o.exit = 0 ∨ o.exit = 1) := by
  refine ⟨Option.map_eq_some_iff.mp exit_of_orderly_late, ?_⟩
  rw [execute_of_orderly_endless]
  rintro ⟨o, h, -⟩
  cases h

end CommandLine
end HardenAudit
