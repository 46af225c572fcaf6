import HardenAudit.Proofs.Launching
import HardenAudit.Proofs.Passing
import HardenAudit.Toolchain.External

/-!
# When a run never returns

A bounded run reads the streams of a program that has ended until they are closed.  If what the program has
started holds one of them for ever, then the run never returns, whatever its limit is.  Then the fixture
sticks whose tool this is, and with it the run of all fixtures: what stands behind the call is never done.

    a bounded run never returns just if streams are held for ever      (Launch.run_returns_eq_false_iff)
    a fixture sticks just if a call of a tool never returns            (process_returns_eq_false_iff)
    a list of fixtures is stuck just if one of them sticks             (processAll_returns_eq_false_iff)
    and so is a run that touches its fixtures                          (run_returns_eq_false_iff)
-/

namespace HardenAudit

variable {ρ : Type}

/-! ## Algorithm -/

namespace Launch

/-- A command is launched, its program ends in time, and its streams are held for ever. -/
inductive HeldOpen (machine : Machine ρ) (command : Command) (ms : UInt64) (w : World ρ) : Prop where
  | intro (b : Behaviour ρ) (time : Nat) (status : ExitStatus)
    (plain : (command.program :: command.args).any Command.hasNul = false)
    (launch : machine.launch w command (killTime (.ofMilliseconds ms)) = .ok b)
    (exit : b.exit = some (time, .ok status)) (inTime : time ≤ killTime (.ofMilliseconds ms))
    (held : b.closed = none)

end Launch

namespace Audit

/-- Among the calls that a fixture makes in a world there is one that never returns. -/
inductive Sticks (a : Audit ρ) (f : Fixture) (w : World ρ) : Prop where
  | compile (readable : w.files.isReadable (a.source f) = true)
    (never : (a.tools.compile (a.source f) (a.output f) w).returns = false)
  | analyze {compiled : Answer ρ Path} {artifact : Path}
    (readable : w.files.isReadable (a.source f) = true)
    (compile : a.tools.compile (a.source f) (a.output f) w = compiled)
    (compiles : compiled.given? = some (.ok artifact))
    (never : (a.tools.analyze artifact compiled.world).returns = false)

/-- One of several fixtures sticks, in the world that those before it left. -/
inductive Stuck (a : Audit ρ) : List Fixture → World ρ → Prop where
  | here {f : Fixture} {rest : List Fixture} {w : World ρ} (head : Sticks a f w) : Stuck a (f :: rest) w
  | later {f : Fixture} {rest : List Fixture} {w : World ρ} (head : ¬ Sticks a f w)
    (tail : Stuck a rest (a.process f w).2.world) : Stuck a (f :: rest) w

end Audit

namespace External

/-- The tools that the settings name return unless the streams of their programs are held for ever. -/
structure ReturnsUnlessHeld (machine : Launch.Machine ρ) (s : Settings) : Prop where
  compile : ∀ source output w, ((toolchain machine s).compile source output w).returns = false ↔
    Launch.HeldOpen machine (compileCommand s.tools source output) s.limits.compile w
  analyze : ∀ artifact w, ((toolchain machine s).analyze artifact w).returns = false ↔
    Launch.HeldOpen machine (analyzeCommand s.tools artifact) s.limits.analyze w

end External

/-! ## Bounded runs -/

namespace Launch

/-- A bounded run never returns just if its streams are held for ever. -/
theorem run_returns_eq_false_iff (machine : Machine ρ) (command : Command) (ms : UInt64) (w : World ρ) :
    (run machine command (.ofMilliseconds ms) w).returns = false ↔ HeldOpen machine command ms w := by
  constructor
  · intro h
    rcases run_refused_or_launched machine command (.ofMilliseconds ms) w with
      ⟨e, hrun⟩ | ⟨hplain, b, hlaunch⟩
    · rw [hrun] at h
      cases h
    by_cases hends : b.EndsBy (killTime (.ofMilliseconds ms))
    · obtain ⟨time, ended, hexit, hle⟩ := hends
      cases ended with
      | ok status =>
        obtain ⟨seen, -, -, hrun⟩ := run_in_time hplain hlaunch hexit hle
        rw [hrun] at h
        exact ⟨b, time, status, hplain, hlaunch, hexit, hle,
          Option.isNone_iff_eq_none.mp (Option.isSome_eq_false_iff.mp h)⟩
      | error reason =>
        obtain ⟨seen, -, -, hrun⟩ := run_unasked hplain hlaunch hexit hle
        rw [hrun] at h
        cases h
    · rw [run_late hplain hlaunch hends] at h
      cases h
  · rintro ⟨b, time, status, plain, launch, exit, inTime, held⟩
    obtain ⟨seen, -, -, hrun⟩ := run_in_time plain launch exit inTime
    rw [hrun, held]
    rfl

end Launch

namespace External

/-- What the run of the compiler leaves is what its call leaves, and the one returns if the other does. -/
theorem compile_passes_on (machine : Launch.Machine ρ) (s : ToolSettings) (limit : UInt64)
    (source output : Path) (w : World ρ) :
    let ran := Launch.run machine (compileCommand s source output) (.ofMilliseconds limit) w
    (compile machine s limit source output w).world = ran.world ∧
      (compile machine s limit source output w).returns = ran.returns := by
  unfold compile
  dsimp only
  split
  · exact ⟨rfl, rfl⟩
  · split <;> exact ⟨rfl, rfl⟩

theorem analyze_passes_on (machine : Launch.Machine ρ) (s : ToolSettings) (limit : UInt64)
    (artifact : Path) (w : World ρ) :
    let ran := Launch.run machine (analyzeCommand s artifact) (.ofMilliseconds limit) w
    (analyze machine s limit artifact w).world = ran.world ∧
      (analyze machine s limit artifact w).returns = ran.returns := by
  unfold analyze
  dsimp only
  split <;> exact ⟨rfl, rfl⟩

theorem returnsUnlessHeld (machine : Launch.Machine ρ) (s : Settings) :
    ReturnsUnlessHeld machine s where
  compile source output w := by
    rw [← Launch.run_returns_eq_false_iff, ← (compile_passes_on machine _ _ _ _ w).2]
    rfl
  analyze artifact w := by
    rw [← Launch.run_returns_eq_false_iff, ← (analyze_passes_on machine _ _ _ w).2]
    rfl

end External

/-! ## Fixtures -/

namespace Audit

variable {a : Audit ρ} {f : Fixture} {w : World ρ}

theorem conclude_returns (a : Audit ρ) (f : Fixture) (text : String) (j : Journal ρ) :
    (a.conclude f text j).2.returns = j.returns := by
  unfold conclude
  dsimp only
  generalize persist j.files a.paths.outputDir f.artifactStem text = stored
  obtain ⟨result, fs⟩ := stored
  cases result <;> rfl

theorem examine_returns (a : Audit ρ) (f : Fixture) (artifact : Path) (j : Journal ρ) :
    (a.examine f artifact j).2.returns = (j.returns && (a.tools.analyze artifact j.world).returns) := by
  unfold examine
  dsimp only
  cases (a.tools.analyze artifact j.world).result with
  | error e => rfl
  | ok text =>
    rw [conclude_returns]
    rfl

theorem process_returns (a : Audit ρ) (f : Fixture) (w : World ρ) :
    (a.process f w).2.returns = (a.evaluate f w).2.returns := by
  unfold process
  generalize a.evaluate f w = evaluated
  obtain ⟨evaluation, j⟩ := evaluated
  rfl

/-- A fixture sticks just if a call that it makes never returns. -/
theorem process_returns_eq_false_iff : (a.process f w).2.returns = false ↔ Sticks a f w := by
  rw [process_returns]
  unfold evaluate
  cases hcheck : checkSource w.files (a.source f) with
  | error e =>
    -- no tool is called
    have hunreadable := (checkSource_error hcheck).1
    refine iff_of_false (fun h => by cases h) fun h => ?_
    cases h with
    | compile readable => rw [hunreadable] at readable; cases readable
    | analyze readable => rw [hunreadable] at readable; cases readable
  | ok =>
    have hreadable := checkSource_ok hcheck
    have hjournal : ∀ compiled : Answer ρ Path, (Journal.after { world := w }
        (.compile (a.source f) (a.output f)) compiled).returns = compiled.returns :=
      fun _ => Bool.true_and _
    dsimp only
    constructor
    · intro h
      cases hresult : (a.tools.compile (a.source f) (a.output f) w).result with
      | error e =>
        rw [hresult] at h
        exact .compile hreadable ((hjournal _).symm.trans h)
      | ok artifact =>
        rw [hresult] at h
        dsimp only at h
        rw [examine_returns, hjournal, Bool.and_eq_false_iff] at h
        cases hreturns : (a.tools.compile (a.source f) (a.output f) w).returns with
        | false => exact .compile hreadable hreturns
        | true =>
          have hgiven := Answer.given?_eq_some_iff.mpr ⟨hreturns, hresult⟩
          rw [hreturns] at h
          exact .analyze hreadable rfl hgiven (h.resolve_left (by decide))
    · intro h
      cases h with
      | compile readable never =>
        cases hresult : (a.tools.compile (a.source f) (a.output f) w).result with
        | error e => exact (hjournal _).trans never
        | ok artifact =>
          dsimp only
          rw [examine_returns, hjournal, never, Bool.false_and]
      | analyze readable compile compiles never =>
        subst compile
        rw [(Answer.given?_eq_some_iff.mp compiles).2]
        dsimp only
        rw [examine_returns]
        exact Bool.and_eq_false_iff.mpr (.inr never)

/-! ## Fixtures one after the other -/

theorem processAll_cons_returns (a : Audit ρ) (f : Fixture) (rest : List Fixture) (w : World ρ) :
    (a.processAll (f :: rest) w).2.returns = ((a.process f w).2.returns &&
      (a.processAll rest (a.process f w).2.world).2.returns) := by
  rw [processAll]
  generalize a.process f w = processed
  obtain ⟨result, j⟩ := processed
  rfl

/-- A list of fixtures is stuck just if one of them sticks. -/
theorem processAll_returns_eq_false_iff (fixtures : List Fixture) : ∀ w : World ρ,
    (a.processAll fixtures w).2.returns = false ↔ Stuck a fixtures w := by
  induction fixtures with
  | nil =>
    intro w
    exact iff_of_false (fun h => by cases h) fun h => by cases h
  | cons f rest ih =>
    intro w
    rw [processAll_cons_returns]
    constructor
    · intro h
      cases hprocess : (a.process f w).2.returns with
      | false => exact .here (process_returns_eq_false_iff.mp hprocess)
      | true =>
        rw [hprocess, Bool.true_and] at h
        refine .later (fun hsticks => ?_) ((ih _).mp h)
        rw [process_returns_eq_false_iff.mpr hsticks] at hprocess
        cases hprocess
    · intro h
      cases h with
      | here head => rw [process_returns_eq_false_iff.mpr head, Bool.false_and]
      | later head tail => rw [(ih _).mpr tail, Bool.and_false]

/-- A run never returns just if it touches its fixtures and they are stuck. -/
theorem run_returns_eq_false_iff (a : Audit ρ) (fixtures : List Fixture) (w : World ρ) :
    (a.run fixtures w).2.returns = false ↔ ∃ fs, a.tools.preflight w.files = .ok () ∧
      w.files.makeTree a.paths.outputDir = (none, fs) ∧ Stuck a fixtures { w with files := fs } := by
  cases a.run_ending fixtures w with
  | unready e ready result world calls stores returns =>
    rw [returns]
    refine iff_of_false (fun h => by cases h) ?_
    rintro ⟨fs, ready', -⟩
    rw [ready] at ready'
    cases ready'
  | unprepared e fs ready prepare result world calls stores returns =>
    rw [returns]
    refine iff_of_false (fun h => by cases h) ?_
    rintro ⟨fs', -, prepare', -⟩
    rw [prepare] at prepare'
    cases prepare'
  | processed fs ready prepare result world returns =>
    rw [returns, processAll_returns_eq_false_iff]
    constructor
    · exact fun h => ⟨fs, ready, prepare, h⟩
    · rintro ⟨fs', -, prepare', h⟩
      obtain rfl := (Prod.mk.inj (prepare.symm.trans prepare')).2
      exact h

end Audit
end HardenAudit
