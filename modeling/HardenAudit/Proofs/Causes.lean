import HardenAudit.Proofs.ExitStatus
import HardenAudit.Proofs.Logging

/-!
# What can make a run with external tools fail

With the external tools there are few causes of failure, and each belongs to one stage.  A run as a whole
only fails if the plugin is not there or the directory for artifacts cannot be made.  A fixture fails since
its source is missing, since a tool cannot be launched or is too slow, since the compiler ends without
success, since the text cannot be stored, or since counts are wrong.  How the analyser ends is no cause of
anything: all that is read of it is what it wrote.

    a failure comes from one of the stages                             (failure_cases)
    the compiler fails in one of three ways                            (compilerFails)
    the analyser fails in one of two ways                              (analyzerFails)
    programs that only end differently are caught alike                (Launch.run_bare)
-/

namespace HardenAudit

open Launch (Behaviour Command ExitStatus Machine killTime)
open Text.Utf8 (decodeLossy)

variable {ρ : Type}

/-! ## Algorithm -/

namespace Launch

/-- Programs that do the same at the same times, and end with statuses that may differ. -/
structure Behaviour.SameButStatus (b b' : Behaviour ρ) : Prop where
  exit : (b.exit.map fun e => (e.1, e.2.map fun _ => ())) =
    b'.exit.map fun e => (e.1, e.2.map fun _ => ())
  stdout : b.stdout = b'.stdout
  stderr : b.stderr = b'.stderr
  closed : b.closed = b'.closed
  after : b.after = b'.after

/-- Launches that are refused alike, or launch programs that only end differently. -/
inductive LaunchedAlike : Except FileError (Behaviour ρ) → Except FileError (Behaviour ρ) → Prop where
  | refused (e : FileError) : LaunchedAlike (.error e) (.error e)
  | launched {b b' : Behaviour ρ} (same : b.SameButStatus b') : LaunchedAlike (.ok b) (.ok b')

/-- A verdict without the status that it may hold. -/
def Verdict.bare : Verdict → Verdict
  | .exited _ => .exited default
  | v => v

end Launch

namespace External

/-- Machines on which only the statuses differ with which the analyser ends. -/
structure SameButStatus (s : ToolSettings) (m m' : Machine ρ) : Prop where
  analyzer : ∀ w artifact horizon, Launch.LaunchedAlike
    (m.launch w (analyzeCommand s artifact) horizon) (m'.launch w (analyzeCommand s artifact) horizon)
  others : ∀ w command horizon, (∀ artifact, command ≠ analyzeCommand s artifact) →
    m.launch w command horizon = m'.launch w command horizon

/-- Why the compiler gives no artifact: it cannot be launched or asked after, it is not done within its own
limit, or it ends without success, and then all that it said is kept. -/
inductive CompilerFails (machine : Machine ρ) (s : Settings) (source output : Path) (w : World ρ) :
    Failure → Prop where
  | unlaunched (e : FileError) : CompilerFails machine s source output w
    (.toolLaunch (Command.shown s.tools.compiler) e.message)
  | unasked (reason : String) : CompilerFails machine s source output w
    (.toolLaunch (Command.shown s.tools.compiler) ("waiting for process: " ++ reason))
  | late : CompilerFails machine s source output w
    (.toolTimeout (Command.shown s.tools.compiler) s.limits.compile)
  | unsuccessful (b : Behaviour ρ) (time : Nat) (status : ExitStatus)
    (launch : machine.launch w (compileCommand s.tools source output)
      (killTime (.ofMilliseconds s.limits.compile)) = .ok b)
    (exit : b.exit = some (time, .ok status)) (failed : status.success = false) :
    CompilerFails machine s source output w
      (.compileFailed status.code? (decodeLossy (Behaviour.collect b.stderr)))

/-- Why the analyser gives no text: it cannot be launched or asked after, or it is not done within its own
limit. -/
inductive AnalyzerFails (s : Settings) : Failure → Prop where
  | unlaunched (e : FileError) : AnalyzerFails s (.toolLaunch (Command.shown s.tools.analyzer) e.message)
  | unasked (reason : String) : AnalyzerFails s
    (.toolLaunch (Command.shown s.tools.analyzer) ("waiting for process: " ++ reason))
  | late : AnalyzerFails s (.toolTimeout (Command.shown s.tools.analyzer) s.limits.analyze)

/-- Why a fixture fails in a world, by the stage that it fails in. -/
inductive FixtureFails (machine : Machine ρ) (s : Settings) (f : Fixture) (w : World ρ) :
    Failure → Prop where
  | missing (unreadable : w.files.isReadable (s.paths.fixtureRoot.join f.source) = false) :
    FixtureFails machine s f w (.missingSource (s.paths.fixtureRoot.join f.source))
  | compiler (e : Failure)
    (raised : (compile machine s.tools s.limits.compile (s.paths.fixtureRoot.join f.source)
      (s.paths.outputDir.join ⟨f.artifactStem ++ ".ll"⟩) w).result = .error e)
    (cause : CompilerFails machine s (s.paths.fixtureRoot.join f.source)
      (s.paths.outputDir.join ⟨f.artifactStem ++ ".ll"⟩) w e) : FixtureFails machine s f w e
  | analyzer (artifact : Path) (w' : World ρ) (e : Failure)
    (raised : (analyze machine s.tools s.limits.analyze artifact w').result = .error e)
    (cause : AnalyzerFails s e) : FixtureFails machine s f w e
  | unwritable (e : FileError) : FixtureFails machine s f w
    (.artifactWrite (s.paths.outputDir.join ⟨f.artifactStem ++ ".output"⟩) e.message)
  | mismatch (discrepancies : List Discrepancy) (some : discrepancies ≠ []) :
    FixtureFails machine s f w (.countMismatch discrepancies)

/-- The failures of a run with the external tools, of the run as a whole and of its fixtures; and what
another machine changes on which the analyser only ends differently. -/
structure FailsByCause (machine : Machine ρ) (s : Settings) (fixtures : List Fixture) (w : World ρ) :
    Prop where
  run : ∀ e, ((CommandLine.auditOf machine s).run fixtures w).1 = .error e →
    e = .fatalPrecondition s.tools.pluginPath ∨ ∃ reason, e = .artifactWrite s.paths.outputDir reason
  plugin : (∃ path, ((CommandLine.auditOf machine s).run fixtures w).1 =
    .error (.fatalPrecondition path)) ↔ w.files.pathExists s.tools.pluginPath = false
  fixture : ∀ results, ((CommandLine.auditOf machine s).run fixtures w).1 = .ok results →
    ∀ i f r e, fixtures[i]? = some f → results[i]? = some r → r.failure = some e →
      e.isFatal = false ∧ FixtureFails machine s f
        ((CommandLine.auditOf machine s).run (fixtures.take i) w).2.world e
  status : ∀ machine' : Machine ρ, SameButStatus s.tools machine machine' →
    ((CommandLine.auditOf machine s).run fixtures w).1 =
      ((CommandLine.auditOf machine' s).run fixtures w).1 ∧
    ((CommandLine.auditOf machine s).run fixtures w).2.files =
      ((CommandLine.auditOf machine' s).run fixtures w).2.files ∧
    ((CommandLine.auditOf machine s).run fixtures w).2.returns =
      ((CommandLine.auditOf machine' s).run fixtures w).2.returns

end External

/-! ## The stage that fails -/

namespace Audit

variable {a : Audit ρ} {f : Fixture} {w : World ρ}

/-- A failure comes from one of the stages. -/
theorem failure_cases {e : Failure} (h : (a.process f w).1.failure = some e) :
    (w.files.isReadable (a.source f) = false ∧ e = .missingSource (a.source f)) ∨
    (a.tools.compile (a.source f) (a.output f) w).result = .error e ∨
    (∃ artifact w', (a.tools.analyze artifact w').result = .error e) ∨
    (∃ reason : FileError, e = .artifactWrite (a.textPath f) reason.message) ∨
    ∃ text, disagreements f text ≠ [] ∧ e = .countMismatch (disagreements f text) := by
  have hway := a.process_steps f w
  rw [h] at hway
  generalize acts (a.process f w).2 = way at hway
  -- the stages in order; each either ends the way with this failure or leads on
  cases hway with
  | next head tail =>
  cases head with
  | missing unreadable =>
    cases tail.of_ended.2.1
    exact .inl ⟨unreadable, rfl⟩
  | check =>
  cases tail with
  | next head tail =>
  cases head with
  | compileFails raised =>
    cases tail.of_ended.2.1
    exact .inr (.inl raised)
  | compile =>
  cases tail with
  | next head tail =>
  cases head with
  | analyzeFails raised =>
    cases tail.of_ended.2.1
    exact .inr (.inr (.inl ⟨_, _, raised⟩))
  | analyze =>
  cases tail with
  | next head tail =>
  cases head with
  | storeFails raised =>
    cases tail.of_ended.2.1
    exact .inr (.inr (.inr (.inl ⟨_, rfl⟩)))
  | store =>
  cases tail with
  | next head tail =>
  cases head with
  | agree => cases tail.of_ended.2.1
  | disagree disagree =>
    cases tail.of_ended.2.1
    exact .inr (.inr (.inr (.inr ⟨_, disagree, rfl⟩)))

end Audit

/-! ## The tools -/

namespace External

variable {machine : Machine ρ} {s : Settings} {f : Fixture} {w : World ρ}

theorem compilerFails {source output : Path} {e : Failure}
    (h : (compile machine s.tools s.limits.compile source output w).result = .error e) :
    CompilerFails machine s source output w e := by
  have hran := Launch.run_ran machine (compileCommand s.tools source output)
    (.ofMilliseconds s.limits.compile) w
  unfold compile at h
  dsimp only at h
  generalize Launch.run machine (compileCommand s.tools source output)
    (.ofMilliseconds s.limits.compile) w = answer at hran h
  cases hran with
  | refused reason =>
    cases h
    exact .unlaunched reason
  | unasked b time seen reason =>
    cases h
    exact .unasked reason
  | late b time launch =>
    cases h
    rw [Span.toMilliseconds_ofMilliseconds]
    exact .late
  | ended b time seen status launch exit =>
    dsimp only at h
    split at h
    · cases h
    · next failed =>
      cases h
      exact .unsuccessful b time status launch exit (Bool.not_eq_true _ ▸ failed)

theorem analyzerFails {artifact : Path} {e : Failure}
    (h : (analyze machine s.tools s.limits.analyze artifact w).result = .error e) :
    AnalyzerFails s e := by
  have hran := Launch.run_ran machine (analyzeCommand s.tools artifact)
    (.ofMilliseconds s.limits.analyze) w
  unfold analyze at h
  dsimp only at h
  generalize Launch.run machine (analyzeCommand s.tools artifact)
    (.ofMilliseconds s.limits.analyze) w = answer at hran h
  cases hran with
  | refused reason =>
    cases h
    exact .unlaunched reason
  | unasked b time seen reason =>
    cases h
    exact .unasked reason
  | late b time launch =>
    cases h
    rw [Span.toMilliseconds_ofMilliseconds]
    exact .late
  | ended b time seen status launch exit => cases h

theorem fixtureFails {e : Failure}
    (h : ((CommandLine.auditOf machine s).process f w).1.failure = some e) :
    FixtureFails machine s f w e := by
  rcases Audit.failure_cases h with ⟨unreadable, rfl⟩ | raised | ⟨artifact, w', raised⟩ |
    ⟨reason, rfl⟩ | ⟨text, disagree, rfl⟩
  · exact .missing unreadable
  · exact .compiler e raised (compilerFails raised)
  · exact .analyzer artifact w' e raised (analyzerFails raised)
  · exact .unwritable reason
  · exact .mismatch _ disagree

/-- No failure of a fixture stops the run. -/
theorem FixtureFails.isFatal {e : Failure} (h : FixtureFails machine s f w e) : e.isFatal = false := by
  cases h with
  | missing => rfl
  | compiler e raised cause => cases cause <;> rfl
  | analyzer artifact w' e raised cause => cases cause <;> rfl
  | unwritable => rfl
  | mismatch => rfl

end External

/-! ## Programs that only end differently -/

namespace Launch

variable {machine machine' : Machine ρ} {b b' : Behaviour ρ}

/-- Verdicts that agree but for the status are equal or hold a status each. -/
theorem Verdict.eq_or_exited {v v' : Verdict} (h : v.bare = v'.bare) :
    v = v' ∨ ∃ status status', v = .exited status ∧ v' = .exited status' := by
  cases v with
  | exited status =>
    cases v' with
    | exited status' => exact .inr ⟨status, status', rfl, rfl⟩
    | timedOut => cases h
    | failed reason => cases h
  | timedOut =>
    cases v' with
    | timedOut => exact .inl rfl
    | exited status => cases h
    | failed reason => cases h
  | failed reason =>
    cases v' with
    | failed reason' => exact .inl h
    | exited status => cases h
    | timedOut => cases h

/-- What programs come to that only end differently is the same, but for the status. -/
theorem Verdict.bare_ofEnd {ended ended' : Except String ExitStatus}
    (h : ended.map (fun _ => ()) = ended'.map (fun _ => ())) :
    (Verdict.ofEnd ended).bare = (Verdict.ofEnd ended').bare := by
  cases ended with
  | ok status =>
    cases ended' with
    | ok status' => rfl
    | error reason' => cases h
  | error reason =>
    cases ended' with
    | ok status' => cases h
    | error reason' =>
      cases h
      rfl

/-- A look at programs that only end differently tells the same, but for the status. -/
theorem bare_observe (h : b.SameButStatus b') (deadline : Moment) (round : Nat) :
    ((b.observe round).verdict? deadline).map Verdict.bare =
      ((b'.observe round).verdict? deadline).map Verdict.bare := by
  have hexit := h.exit
  cases hb : b.exit with
  | none =>
    rw [hb] at hexit
    have hb' := Option.map_eq_none_iff.mp hexit.symm
    unfold Behaviour.observe
    rw [hb, hb']
  | some exit =>
    rw [hb] at hexit
    obtain ⟨exit', hb', hsame⟩ := Option.map_eq_some_iff.mp hexit.symm
    obtain ⟨time, ended⟩ := exit
    obtain ⟨time', ended'⟩ := exit'
    obtain ⟨rfl, hended⟩ := Prod.mk.inj hsame
    by_cases hpast : time' ≤ round * pollInterval
    · rw [verdict?_ended hb hpast, verdict?_ended hb' hpast]
      exact congrArg some (Verdict.bare_ofEnd hended.symm)
    · unfold Behaviour.observe
      rw [hb, hb']
      dsimp only
      rw [if_neg hpast, if_neg hpast]

/-- Waiting for programs that only end differently takes as many rounds. -/
theorem bare_wait {observe observe' : Nat → Observation} {deadline : Moment}
    (h : ∀ round, ((observe round).verdict? deadline).map Verdict.bare =
      ((observe' round).verdict? deadline).map Verdict.bare) : ∀ rounds round,
    (wait observe deadline rounds round).map (fun e => (e.round, e.verdict.bare)) =
      (wait observe' deadline rounds round).map (fun e => (e.round, e.verdict.bare)) := by
  intro rounds
  induction rounds with
  | zero => exact fun round => rfl
  | succ rounds ih =>
    intro round
    have hround := h round
    rw [wait, wait]
    cases hv : (observe round).verdict? deadline with
    | none =>
      rw [hv] at hround
      rw [Option.map_eq_none_iff.mp hround.symm]
      exact ih _
    | some verdict =>
      rw [hv] at hround
      obtain ⟨verdict', hv', hbare⟩ := Option.map_eq_some_iff.mp hround.symm
      rw [hv']
      exact congrArg (fun v => some (round, v)) hbare.symm

/-- Programs that only end differently are caught alike, if ever, and leave the same world. -/
theorem run_bare {command : Command} {limit : Span} {w : World ρ}
    (h : LaunchedAlike (machine.launch w command (killTime limit))
      (machine'.launch w command (killTime limit))) :
    (run machine command limit w).world = (run machine' command limit w).world ∧
    (run machine command limit w).returns = (run machine' command limit w).returns ∧
    (run machine command limit w).result.map (fun c => (c.stdout, c.stderr)) =
      (run machine' command limit w).result.map (fun c => (c.stdout, c.stderr)) := by
  unfold run
  generalize (Moment.ofMicroseconds 0).add? limit = deadline?
  cases hnul : (command.program :: command.args).any Command.hasNul with
  | true => exact ⟨rfl, rfl, rfl⟩
  | false =>
    rw [if_neg Bool.false_ne_true, if_neg Bool.false_ne_true]
    generalize machine.launch w command (killTime limit) = launched at h ⊢
    generalize machine'.launch w command (killTime limit) = launched' at h ⊢
    cases h with
    | refused e => exact ⟨rfl, rfl, rfl⟩
    | @launched b b' same =>
      cases deadline? with
      | none =>
        dsimp only
        rw [same.after]
        exact ⟨rfl, rfl, rfl⟩
      | some deadline =>
        have hwait := bare_wait (bare_observe same deadline) (roundLimit limit) 0
        dsimp only
        rw [same.after, same.closed, same.stdout, same.stderr]
        generalize wait b.observe deadline (roundLimit limit) 0 = ending at hwait ⊢
        generalize wait b'.observe deadline (roundLimit limit) 0 = ending' at hwait ⊢
        cases ending with
        | none =>
          rw [Option.map_eq_none_iff.mp hwait.symm]
          exact ⟨rfl, rfl, rfl⟩
        | some e =>
          obtain ⟨e', rfl, hsame⟩ := Option.map_eq_some_iff.mp hwait.symm
          obtain ⟨hround, hverdict⟩ := Prod.mk.inj hsame
          dsimp only
          rw [hround]
          rcases Verdict.eq_or_exited hverdict with heq | ⟨status, status', heq, heq'⟩
          · rw [heq]
            cases e.verdict <;> exact ⟨rfl, rfl, rfl⟩
          · rw [heq, heq']
            exact ⟨rfl, rfl, rfl⟩

end Launch

namespace External

open Audit (run_alike)

variable {machine machine' : Machine ρ} {s : Settings} {fixtures : List Fixture} {w : World ρ}

/-- The command of the compiler is none of the analyser, whatever the settings are. -/
theorem compileCommand_ne (s : ToolSettings) (source output artifact : Path) :
    compileCommand s source output ≠ analyzeCommand s artifact := by
  intro h
  have hlast := congrArg (fun c : Command => c.args.reverse[2]?) h
  simp only [compileCommand, analyzeCommand, List.reverse_append, List.reverse_cons, List.reverse_nil,
    List.nil_append, List.cons_append, List.getElem?_cons_succ, List.getElem?_cons_zero,
    Option.some.injEq] at hlast
  have hchars := congrArg (fun t : String => t.toList.take 2) hlast
  simp [String.toList_append] at hchars

/-- The compiler is the same where only the analyser ends differently. -/
theorem compile_alike (h : SameButStatus s.tools machine machine') (source output : Path) (w : World ρ) :
    compile machine s.tools s.limits.compile source output w =
      compile machine' s.tools s.limits.compile source output w := by
  have hlaunch := h.others w (compileCommand s.tools source output)
    (killTime (.ofMilliseconds s.limits.compile)) (compileCommand_ne s.tools source output)
  have hrun : Launch.run machine (compileCommand s.tools source output)
        (.ofMilliseconds s.limits.compile) w =
      Launch.run machine' (compileCommand s.tools source output)
        (.ofMilliseconds s.limits.compile) w := by
    unfold Launch.run
    rw [hlaunch]
  unfold compile
  rw [hrun]

/-- How the analyser ends changes only what is logged. -/
theorem analyze_alike (h : SameButStatus s.tools machine machine') (artifact : Path) (w : World ρ) :
    (analyze machine s.tools s.limits.analyze artifact w).Alike
      (analyze machine' s.tools s.limits.analyze artifact w) := by
  obtain ⟨hworld, hreturns, hresult⟩ := Launch.run_bare
    (h.analyzer w artifact (killTime (.ofMilliseconds s.limits.analyze)))
  unfold analyze
  dsimp only
  generalize Launch.run machine (analyzeCommand s.tools artifact)
    (.ofMilliseconds s.limits.analyze) w = answer at hworld hreturns hresult ⊢
  generalize Launch.run machine' (analyzeCommand s.tools artifact)
    (.ofMilliseconds s.limits.analyze) w = answer' at hworld hreturns hresult ⊢
  obtain ⟨result, world, log, returns⟩ := answer
  obtain ⟨result', world', log', returns'⟩ := answer'
  cases hworld
  cases hreturns
  cases result with
  | error e =>
    cases result' with
    | error e' =>
      cases hresult
      exact ⟨rfl, rfl, rfl⟩
    | ok capture' => cases hresult
  | ok capture =>
    cases result' with
    | error e' => cases hresult
    | ok capture' =>
      have htexts := Prod.mk.inj (Except.ok.inj hresult)
      exact ⟨congrArg Except.ok htexts.2, rfl, rfl⟩

/-- Tools of machines on which the analyser only ends differently give the same. -/
theorem toolchain_alike (h : SameButStatus s.tools machine machine') :
    (toolchain machine s).Alike (toolchain machine' s) where
  preflight := rfl
  compile source output w := by
    unfold toolchain
    dsimp only
    rw [compile_alike h source output w]
    exact ⟨rfl, rfl, rfl⟩
  analyze artifact w := analyze_alike h artifact w

/-! ## A whole run -/

/-- A run as a whole only fails if the plugin is not there or the directory cannot be made. -/
theorem run_error {e : Failure} (h : ((CommandLine.auditOf machine s).run fixtures w).1 = .error e) :
    (w.files.pathExists s.tools.pluginPath = false ∧ e = .fatalPrecondition s.tools.pluginPath) ∨
    w.files.pathExists s.tools.pluginPath = true ∧ ∃ reason, e = .artifactWrite s.paths.outputDir reason := by
  cases (CommandLine.auditOf machine s).run_ending fixtures w with
  | unready e' ready result =>
    rw [result, Except.error.injEq] at h
    rw [CommandLine.preflight_auditOf] at ready
    unfold preflight at ready
    split at ready
    · cases ready
    · next missing =>
      cases ready
      exact .inl ⟨Bool.not_eq_true _ ▸ missing, h.symm⟩
  | unprepared reason fs ready prepare result =>
    rw [result, Except.error.injEq] at h
    exact .inr ⟨(CommandLine.ready_iff machine s w.files).mp ready, _, h.symm⟩
  | processed fs ready prepare result =>
    rw [result] at h
    cases h

theorem run_of_missing_plugin (h : w.files.pathExists s.tools.pluginPath = false) :
    ((CommandLine.auditOf machine s).run fixtures w).1 =
      .error (.fatalPrecondition s.tools.pluginPath) := by
  cases hrun : ((CommandLine.auditOf machine s).run fixtures w).1 with
  | error e =>
    rcases run_error hrun with ⟨-, rfl⟩ | ⟨hexists, -⟩
    · rfl
    · rw [h] at hexists
      cases hexists
  | ok results =>
    cases (CommandLine.auditOf machine s).run_ending fixtures w with
    | unready e ready result =>
      rw [result] at hrun
      cases hrun
    | unprepared e fs ready prepare result =>
      rw [result] at hrun
      cases hrun
    | processed fs ready =>
      have hexists := (CommandLine.ready_iff machine s w.files).mp ready
      rw [h] at hexists
      cases hexists

/-- A failure of a result is one of its fixture, in the world that the fixtures before it leave. -/
theorem result_fails {results : List FixtureResult} {i : Nat} {f : Fixture} {r : FixtureResult}
    {e : Failure} (h : ((CommandLine.auditOf machine s).run fixtures w).1 = .ok results)
    (hf : fixtures[i]? = some f) (hr : results[i]? = some r) (he : r.failure = some e) :
    FixtureFails machine s f ((CommandLine.auditOf machine s).run (fixtures.take i) w).2.world e := by
  have hprocess := ((Audit.run_results h).2 i f hf).1
  rw [hr, Option.some.injEq] at hprocess
  rw [hprocess] at he
  exact fixtureFails he

/-! ## Top theorem -/

/-- **Every failure has a cause of its kind.**  A run with the external tools as a whole fails just if the
plugin is not there or the directory for artifacts cannot be made.  A fixture fails in one of its stages, by
a cause of that stage and never by one that would stop the run.  How the analyser ends is no cause: on
machines where only that differs, the results and the files are the same. -/
theorem run_fails_by_cause (machine : Machine ρ) (s : Settings) (fixtures : List Fixture) (w : World ρ) :
    FailsByCause machine s fixtures w where
  run e h := by
    rcases run_error h with ⟨-, rfl⟩ | ⟨-, hreason⟩
    · exact .inl rfl
    · exact .inr hreason
  plugin := by
    constructor
    · rintro ⟨path, h⟩
      rcases run_error h with ⟨hmissing, -⟩ | ⟨-, reason, h⟩
      · exact hmissing
      · cases h
    · exact fun h => ⟨_, run_of_missing_plugin h⟩
  fixture results h i f r e hf hr he :=
    have hfails := result_fails h hf hr he
    ⟨hfails.isFatal, hfails⟩
  status machine' h := by
    obtain ⟨hresult, hjournal⟩ :=
      run_alike (a := CommandLine.auditOf machine' s) (toolchain_alike h) fixtures w
    exact ⟨hresult, congrArg World.files hjournal.world, hjournal.returns⟩

/-- A compiler that a signal ends fails its fixture without an exit code, and an analyser that ends with
code 3 or by a signal is judged by what it wrote. -/
theorem run_fails_by_cause_signals :
    let s : Settings :=
      { tools := { pluginPath := ⟨"/one.c"⟩ }, paths := { fixtureRoot := ⟨"/"⟩, outputDir := ⟨"/out"⟩ } }
    let said (status : ExitStatus) (text : String) (w : World Unit) : Behaviour Unit :=
      ⟨some (5, .ok status), [], [⟨1, Text.Utf8.encode text⟩], some 5, fun _ => w⟩
    let machine (status : ExitStatus) : Machine Unit := ⟨fun w c _ =>
      if c = analyzeCommand s.tools ⟨c.args.getLastD ""⟩ then .ok (said status "Load instruction" w)
      else if c.args.getLastD "" = "/two.c" then .ok (said (.signal 11) "crashed" w)
      else .ok (said (.code 0) "" w)⟩
    let file : Node := { matter := .file [], mode := 0o644 }
    let w : World Unit := ⟨((({} : FileSystem).put ["out"] { matter := .directory, mode := 0o755 }).put
      ["one.c"] file).put ["two.c"] file, ()⟩
    let fixtures := [Fixture.make "One" "one.c" [("load", 1)], Fixture.make "Two" "two.c" []]
    let run (status : ExitStatus) := (CommandLine.auditOf (machine status) s).run fixtures w
    (run (.code 3)).1 = (run (.signal 9)).1 ∧
    (run (.code 3)).1.map (·.map (·.failure)) =
      .ok [none, some (.compileFailed none "crashed")] := by
  intro s said machine file w fixtures run
  have hsame : SameButStatus s.tools (machine (.code 3)) (machine (.signal 9)) := {
    analyzer := fun w artifact horizon => by
      have hlast : (analyzeCommand s.tools artifact).args.getLastD "" = artifact.text := by
        simp [analyzeCommand]
      show Launch.LaunchedAlike (if _ then _ else _) (if _ then _ else _)
      rw [hlast, if_pos rfl, if_pos rfl]
      exact .launched ⟨rfl, rfl, rfl, rfl, rfl⟩
    others := fun w c horizon h => by
      show (if _ then _ else _) = (if _ then _ else _)
      rw [if_neg (h _), if_neg (h _)] }
  exact ⟨((run_fails_by_cause (machine (.code 3)) s fixtures w).status _ hsame).1, by decide +kernel⟩

end External
end HardenAudit
