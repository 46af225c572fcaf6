import HardenAudit.Proofs.Comparing
import HardenAudit.Proofs.Counting
import HardenAudit.Proofs.Staging
import HardenAudit.Report

/-!
# When fixtures pass

A fixture passes from one world to the next if every stage succeeds and its text holds each expected
category as often as expected.  Fixtures pass one after the other if each passes in the world that the
one before left.  The results of a run say just that, and the tallies count every result, so no
failure is lost between the stages and the exit status.

    process passes ↔ Passes                                              (process_passed_iff)
    every result of processAll passes ↔ AllPass                          (processAll_passed_iff)
    a run ends in one of three ways                                      (run_ending)
    a run gives the results of its fixtures, one after the other         (run_results)
    the tallies count the results                                        (ofResults_eq)
    exitCode = 0 ↔ every result passes                                   (exitCode_eq_zero_iff)
-/

namespace HardenAudit

namespace Audit

variable {ρ : Type} {a : Audit ρ} {f : Fixture} {w w' : World ρ}

/-! ## One fixture -/

/-- Every stage of a fixture succeeds in `w`, its text holds the marker of each expected category as
often as expected, and `w'` is what is left. -/
inductive Passes (a : Audit ρ) (f : Fixture) (w : World ρ) : World ρ → Prop where
  | intro {compiled : Answer ρ Path} {analysed : Answer ρ String} {artifact : Path} {text : String}
    {fs : FileSystem}
    (readable : w.files.isReadable (a.source f) = true)
    (compile : a.tools.compile (a.source f) (a.output f) w = compiled)
    (compiles : compiled.result = .ok artifact)
    (analyse : a.tools.analyze artifact compiled.world = analysed)
    (analyses : analysed.result = .ok text)
    (stores : analysed.world.files.writeText (a.textPath f) text = .ok fs)
    (agrees : ∀ (c : Category) (n : UInt32), f.expected.find? c.key = some n →
      (Text.positions c.marker.toList text.toList).length % 2 ^ 32 = n.toNat) :
    Passes a f w { analysed.world with files := fs }

theorem disagreements_eq_nil_iff (f : Fixture) (text : String) :
    disagreements f text = [] ↔ ∀ (c : Category) (n : UInt32), f.expected.find? c.key = some n →
      (Text.positions c.marker.toList text.toList).length % 2 ^ 32 = n.toNat := by
  unfold disagreements
  rw [Expectations.discrepancies_eq_nil_iff]
  constructor
  · intro h c n hn
    rw [← c.toNat_occurrences, h c n hn]
  · intro h c n hn
    rw [← UInt32.toNat_inj, c.toNat_occurrences]
    exact h c n hn

/-- A fixture passes iff its way ends without a failure. -/
theorem passes_iff_steps :
    Passes a f w w' ↔ ∃ way, Steps a f (.waiting w) way (.ended none w') := by
  constructor
  · rintro ⟨readable, rfl, compiles, rfl, analyses, stores, agrees⟩
    exact ⟨_, .next (.check readable) (.next (.compile compiles) (.next (.analyze analyses)
      (.next (.store stores) (.next (.agree ((disagreements_eq_nil_iff f _).mpr agrees)) .done))))⟩
  · rintro ⟨way, h⟩
    -- a stage that fails ends the way with a failure, and this way ends without
    cases h with
    | next head tail =>
    cases head with
    | missing => cases tail.of_ended.2.1
    | check readable =>
    cases tail with
    | next head tail =>
    cases head with
    | compileFails => cases tail.of_ended.2.1
    | compile compiles =>
    cases tail with
    | next head tail =>
    cases head with
    | analyzeFails => cases tail.of_ended.2.1
    | analyze analyses =>
    cases tail with
    | next head tail =>
    cases head with
    | storeFails => cases tail.of_ended.2.1
    | store stores =>
    cases tail with
    | next head tail =>
    cases head with
    | disagree => cases tail.of_ended.2.1
    | agree agrees =>
      obtain ⟨-, -, rfl⟩ := tail.of_ended
      exact ⟨readable, rfl, compiles, rfl, analyses, stores,
        (disagreements_eq_nil_iff f _).mp agrees⟩

theorem passed_iff (r : FixtureResult) : r.passed = true ↔ r.outcome = .pass := by
  unfold FixtureResult.passed
  exact decide_eq_true_iff

/-- A fixture is processed to a pass iff it passes. -/
theorem process_passed_iff (a : Audit ρ) (f : Fixture) (w w' : World ρ) :
    Passes a f w w' ↔ (a.process f w).1.passed = true ∧ (a.process f w).2.world = w' := by
  have hway := a.process_steps f w
  rw [passes_iff_steps, passed_iff, a.process_passes_iff f w]
  constructor
  · rintro ⟨way, h⟩
    obtain ⟨-, hnone, hworld⟩ := h.unique rfl hway
    exact ⟨hnone.symm, hworld.symm⟩
  · rintro ⟨hnone, rfl⟩
    rw [hnone] at hway
    exact ⟨_, hway⟩

/-! ## Fixtures one after the other -/

/-- Each fixture passes, in the world that the one before left. -/
inductive AllPass (a : Audit ρ) : List Fixture → World ρ → World ρ → Prop where
  | nil {w : World ρ} : AllPass a [] w w
  | cons {f : Fixture} {rest : List Fixture} {w between w' : World ρ} (head : Passes a f w between)
    (tail : AllPass a rest between w') : AllPass a (f :: rest) w w'

theorem processAll_cons (a : Audit ρ) (f : Fixture) (rest : List Fixture) (w : World ρ) :
    (a.processAll (f :: rest) w).1 =
      (a.process f w).1 :: (a.processAll rest (a.process f w).2.world).1 ∧
    (a.processAll (f :: rest) w).2.world =
      (a.processAll rest (a.process f w).2.world).2.world := by
  rw [processAll]
  generalize a.process f w = p
  obtain ⟨r, j⟩ := p
  exact ⟨rfl, rfl⟩

theorem length_processAll (a : Audit ρ) (fixtures : List Fixture) : ∀ w : World ρ,
    (a.processAll fixtures w).1.length = fixtures.length := by
  induction fixtures with
  | nil => intro w; rfl
  | cons f rest ih =>
    intro w
    rw [(a.processAll_cons f rest w).1, List.length_cons, List.length_cons, ih]

/-- Fixtures behind others are processed in the world that those left. -/
theorem processAll_append (a : Audit ρ) (l m : List Fixture) : ∀ w : World ρ,
    (a.processAll (l ++ m) w).1 =
      (a.processAll l w).1 ++ (a.processAll m (a.processAll l w).2.world).1 ∧
    (a.processAll (l ++ m) w).2.world = (a.processAll m (a.processAll l w).2.world).2.world := by
  induction l with
  | nil =>
    intro w
    exact ⟨rfl, rfl⟩
  | cons f rest ih =>
    intro w
    obtain ⟨hresults, hworld⟩ := a.processAll_cons f rest w
    obtain ⟨hresults', hworld'⟩ := a.processAll_cons f (rest ++ m) w
    obtain ⟨hrest, hend⟩ := ih (a.process f w).2.world
    rw [List.cons_append, hresults', hworld', hresults, hworld, hrest, hend]
    exact ⟨rfl, rfl⟩

/-- A fixture is processed in the world that those before it left. -/
theorem processAll_getElem? (a : Audit ρ) {fixtures : List Fixture} (w : World ρ) {i : Nat}
    {f : Fixture} (hf : fixtures[i]? = some f) :
    let before := (a.processAll (fixtures.take i) w).2.world
    (a.processAll fixtures w).1[i]? = some (a.process f before).1 ∧
      (a.processAll (fixtures.take (i + 1)) w).2.world = (a.process f before).2.world := by
  intro before
  obtain ⟨hi, rfl⟩ := List.getElem?_eq_some_iff.mp hf
  have hsplit : fixtures = fixtures.take i ++ fixtures[i] :: fixtures.drop (i + 1) := by simp
  obtain ⟨hresults, -⟩ := a.processAll_append (fixtures.take i) (fixtures[i] :: fixtures.drop (i + 1)) w
  obtain ⟨-, hworld⟩ := a.processAll_append (fixtures.take i) [fixtures[i]] w
  have hlength : (a.processAll (fixtures.take i) w).1.length = i := by
    rw [a.length_processAll, List.length_take, Nat.min_eq_left (Nat.le_of_lt hi)]
  constructor
  · rw [← hsplit, (a.processAll_cons _ _ _).1] at hresults
    rw [hresults, List.getElem?_append_right (Nat.le_of_eq hlength), hlength, Nat.sub_self,
      List.getElem?_cons_zero]
  · rw [List.take_add_one, hf, Option.toList_some, hworld, (a.processAll_cons _ _ _).2, processAll]

/-- Every result of a list of fixtures is a pass iff they pass one after the other. -/
theorem processAll_passed_iff (a : Audit ρ) (fixtures : List Fixture) : ∀ w w',
    AllPass a fixtures w w' ↔
      (∀ r ∈ (a.processAll fixtures w).1, r.passed = true) ∧
      (a.processAll fixtures w).2.world = w' := by
  induction fixtures with
  | nil =>
    intro w w'
    constructor
    · rintro ⟨⟩
      exact ⟨fun r hr => (List.not_mem_nil hr).elim, rfl⟩
    · rintro ⟨-, rfl⟩
      exact .nil
  | cons f rest ih =>
    intro w w'
    obtain ⟨hresults, hworld⟩ := a.processAll_cons f rest w
    rw [hresults, hworld, List.forall_mem_cons]
    constructor
    · rintro (_ | ⟨head, tail⟩)
      obtain ⟨hpassed, rfl⟩ := (a.process_passed_iff f w _).mp head
      obtain ⟨hrest, hend⟩ := (ih _ w').mp tail
      exact ⟨⟨hpassed, hrest⟩, hend⟩
    · rintro ⟨⟨hpassed, hrest⟩, hend⟩
      exact .cons ((a.process_passed_iff f w _).mpr ⟨hpassed, rfl⟩) ((ih _ w').mpr ⟨hrest, hend⟩)

/-! ## A whole run -/

/-- How a run ends: the tools are not ready, the directory for artifacts cannot be made, or all fixtures
are processed one after the other. -/
inductive RunEnding (a : Audit ρ) (fixtures : List Fixture) (w : World ρ)
    (result : Except Failure (List FixtureResult)) (j : Journal ρ) : Prop where
  | unready (e : Failure) (ready : a.tools.preflight w.files = .error e) (result : result = .error e)
    (world : j.world = w) (calls : j.calls = []) (stores : j.stores = []) (returns : j.returns = true)
  | unprepared (e : FileError) (fs : FileSystem) (ready : a.tools.preflight w.files = .ok ())
    (prepare : w.files.makeTree a.paths.outputDir = (some e, fs))
    (result : result = .error (.artifactWrite a.paths.outputDir e.message))
    (world : j.world = { w with files := fs }) (calls : j.calls = []) (stores : j.stores = [])
    (returns : j.returns = true)
  | processed (fs : FileSystem) (ready : a.tools.preflight w.files = .ok ())
    (prepare : w.files.makeTree a.paths.outputDir = (none, fs))
    (result : result = .ok (a.processAll fixtures { w with files := fs }).1)
    (world : j.world = (a.processAll fixtures { w with files := fs }).2.world)
    (returns : j.returns = (a.processAll fixtures { w with files := fs }).2.returns)

theorem run_ending (a : Audit ρ) (fixtures : List Fixture) (w : World ρ) :
    RunEnding a fixtures w (a.run fixtures w).1 (a.run fixtures w).2 := by
  unfold run prepareOutput
  cases hready : a.tools.preflight w.files with
  | error e => exact .unready e hready rfl rfl rfl rfl rfl
  | ok =>
    cases htree : w.files.makeTree a.paths.outputDir with
    | mk refused fs =>
      cases refused with
      | some e => exact .unprepared e fs hready htree rfl rfl rfl rfl rfl
      | none =>
        dsimp only
        generalize hall : a.processAll fixtures { w with files := fs } = p
        refine .processed fs hready htree ?_ ?_ ?_
        · rw [hall]
        · rw [hall]
          rfl
        · rw [hall]
          rfl

/-- A run either processes all fixtures, or stops before the first one. -/
theorem run_cases (a : Audit ρ) (fixtures : List Fixture) (w : World ρ) :
    (∃ fs, a.tools.preflight w.files = .ok () ∧
      w.files.makeTree a.paths.outputDir = (none, fs) ∧
      (a.run fixtures w).1 = .ok (a.processAll fixtures { w with files := fs }).1 ∧
      (a.run fixtures w).2.world = (a.processAll fixtures { w with files := fs }).2.world) ∨
    ∃ e, (a.run fixtures w).1 = .error e ∧ ¬ (a.tools.preflight w.files = .ok () ∧
      ∃ fs, w.files.makeTree a.paths.outputDir = (none, fs)) := by
  cases a.run_ending fixtures w with
  | unready e ready result => exact .inr ⟨e, result, fun h => by rw [ready] at h; cases h.1⟩
  | unprepared e fs ready prepare result =>
    refine .inr ⟨_, result, ?_⟩
    rintro ⟨-, fs', h⟩
    rw [prepare] at h
    cases h
  | processed fs ready prepare result world => exact .inl ⟨fs, ready, prepare, result, world⟩

/-- A run that gives results gives one for each fixture, processed in the world that the run of those
before it leaves. -/
theorem run_results {a : Audit ρ} {fixtures : List Fixture} {w : World ρ}
    {results : List FixtureResult} (h : (a.run fixtures w).1 = .ok results) :
    results.length = fixtures.length ∧ ∀ i f, fixtures[i]? = some f →
      results[i]? = some (a.process f (a.run (fixtures.take i) w).2.world).1 ∧
      (a.run (fixtures.take (i + 1)) w).2.world =
        (a.process f (a.run (fixtures.take i) w).2.world).2.world := by
  cases a.run_ending fixtures w with
  | unready e ready result => rw [result] at h; cases h
  | unprepared e fs ready prepare result => rw [result] at h; cases h
  | processed fs ready prepare result =>
    rw [result, Except.ok.injEq] at h
    subst h
    -- a run of other fixtures starts from the same files
    have hothers : ∀ others, (a.run others w).2.world =
        (a.processAll others { w with files := fs }).2.world := by
      intro others
      cases a.run_ending others w with
      | unready e ready' => rw [ready] at ready'; cases ready'
      | unprepared e fs' ready' prepare' => rw [prepare] at prepare'; cases prepare'
      | processed fs' ready' prepare' result' world' =>
        rw [prepare, Prod.mk.injEq] at prepare'
        rw [world', ← prepare'.2]
    refine ⟨a.length_processAll fixtures _, fun i f hf => ?_⟩
    rw [hothers, hothers]
    exact a.processAll_getElem? _ hf

theorem run_getElem? {a : Audit ρ} {fixtures : List Fixture} {w : World ρ}
    {results : List FixtureResult} (h : (a.run fixtures w).1 = .ok results) :
    results.length = fixtures.length ∧ ∀ i f, fixtures[i]? = some f →
      ∃ w', results[i]? = some (a.process f w').1 ∧
        (a.run (fixtures.take (i + 1)) w).2.world = (a.process f w').2.world :=
  ⟨(run_results h).1, fun i f hf => ⟨_, (run_results h).2 i f hf⟩⟩

end Audit

/-! ## Tallies -/

namespace Summary

theorem foldl_add (results : List FixtureResult) : ∀ s : Summary, results.foldl add s =
    { passed := s.passed + results.countP fun r => r.passed
      failed := s.failed + results.countP fun r => !r.passed
      total := s.total + results.length } := by
  induction results with
  | nil => exact fun s => rfl
  | cons r rest ih =>
    intro s
    rw [List.foldl_cons, ih, List.countP_cons, List.countP_cons, List.length_cons]
    unfold add
    cases r.passed <;> simp <;> omega

/-- The tallies count the results. -/
theorem ofResults_eq (results : List FixtureResult) : ofResults results =
    { passed := results.countP fun r => r.passed
      failed := results.countP fun r => !r.passed
      total := results.length } := by
  unfold ofResults
  rw [foldl_add]
  simp only [Nat.zero_add]

/-- The exit status is zero iff no result failed, and one otherwise. -/
theorem exitCode_eq_zero_iff (results : List FixtureResult) :
    (ofResults results).exitCode = 0 ↔ ∀ r ∈ results, r.passed = true := by
  rw [ofResults_eq]
  unfold exitCode allPassed
  simp

theorem exitCode_le_one (s : Summary) : s.exitCode ≤ 1 := by
  unfold exitCode
  split <;> omega

end Summary
end HardenAudit
