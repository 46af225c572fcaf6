import HardenAudit.Pipeline

/-!
# A fixture goes through its stages up to the first one that fails

The stages of a fixture are steps from point to point: the source is checked, compiled and analysed,
the text is stored, and its counts are compared.  Each step either reaches the next point or ends the
fixture with the failure of its stage.  There is exactly one way from the start to an end, and
processing a fixture goes it: it ends as the way ends, and it calls tools and stores texts where the
way does.

    a step is the only one from its point                      (Step.unique)
    the way to an end is the only one                          (Steps.unique)
    processing goes the way                                    (process_steps)
    what is called and stored on the way, stage by stage       (Steps.acts_waiting)
-/

namespace HardenAudit.Audit

variable {ρ : Type} {a : Audit ρ} {f : Fixture}

/-! ## Algorithm -/

/-- The discrepancies that a text has with what a fixture expects. -/
def disagreements (f : Fixture) (text : String) : List Discrepancy :=
  f.expected.discrepancies (Counts.count text f.expected.keys)

/-- What a fixture has come to. -/
inductive Point (ρ : Type) where
  | waiting (w : World ρ)
  | checked (w : World ρ)
  | compiled (artifact : Path) (w : World ρ)
  | analysed (text : String) (w : World ρ)
  | stored (text : String) (w : World ρ)
  | ended (failure : Option Failure) (w : World ρ)

/-- What a stage does that others can see. -/
inductive Act where
  | call (c : ToolCall)
  | store (s : Store)
  deriving DecidableEq

/-- One stage: what it does, and where it leads. -/
inductive Step (a : Audit ρ) (f : Fixture) : Point ρ → List Act → Point ρ → Prop where
  | check {w} (h : w.files.isReadable (a.source f) = true) :
    Step a f (.waiting w) [] (.checked w)
  | missing {w} (h : w.files.isReadable (a.source f) = false) :
    Step a f (.waiting w) [] (.ended (some (.missingSource (a.source f))) w)
  | compile {w artifact}
    (h : (a.tools.compile (a.source f) (a.output f) w).result = .ok artifact) :
    Step a f (.checked w) [.call (.compile (a.source f) (a.output f))]
      (.compiled artifact (a.tools.compile (a.source f) (a.output f) w).world)
  | compileFails {w e}
    (h : (a.tools.compile (a.source f) (a.output f) w).result = .error e) :
    Step a f (.checked w) [.call (.compile (a.source f) (a.output f))]
      (.ended (some e) (a.tools.compile (a.source f) (a.output f) w).world)
  | analyze {w artifact text} (h : (a.tools.analyze artifact w).result = .ok text) :
    Step a f (.compiled artifact w) [.call (.analyze artifact)]
      (.analysed text (a.tools.analyze artifact w).world)
  | analyzeFails {w artifact e} (h : (a.tools.analyze artifact w).result = .error e) :
    Step a f (.compiled artifact w) [.call (.analyze artifact)]
      (.ended (some e) (a.tools.analyze artifact w).world)
  | store {w text fs} (h : w.files.writeText (a.textPath f) text = .ok fs) :
    Step a f (.analysed text w) [.store ⟨a.textPath f, text⟩]
      (.stored text { w with files := fs })
  | storeFails {w text e} (h : w.files.writeText (a.textPath f) text = .error e) :
    Step a f (.analysed text w) [.store ⟨a.textPath f, text⟩]
      (.ended (some (.artifactWrite (a.textPath f) e.message)) w)
  | agree {w text} (h : disagreements f text = []) : Step a f (.stored text w) [] (.ended none w)
  | disagree {w text} (h : disagreements f text ≠ []) :
    Step a f (.stored text w) [] (.ended (some (.countMismatch (disagreements f text))) w)

/-- Stages one after the other. -/
inductive Steps (a : Audit ρ) (f : Fixture) : Point ρ → List Act → Point ρ → Prop where
  | done {p} : Steps a f p [] p
  | next {p q r acts more} (head : Step a f p acts q) (tail : Steps a f q more r) :
    Steps a f p (acts ++ more) r

/-- Everything that a journal shows, in the order of time: a text is stored after the calls. -/
def acts (j : Journal ρ) : List Act := j.calls.map .call ++ j.stores.map .store

/-! ## Steps -/

/-- A point leads to one other point at most, in one way. -/
theorem Step.unique {p q r : Point ρ} {acts more : List Act} (h : Step a f p acts q)
    (h' : Step a f p more r) : acts = more ∧ q = r := by
  cases h <;> cases h' <;> simp_all

theorem not_step_ended {failure : Option Failure} {w : World ρ} {acts : List Act} {q : Point ρ} :
    ¬ Step a f (.ended failure w) acts q := by
  intro h
  cases h

/-- There is one way at most from a point to an end. -/
theorem Steps.unique {p q : Point ρ} {acts : List Act} (h : Steps a f p acts q) :
    ∀ {more failure failure' w w'}, q = .ended failure w →
      Steps a f p more (.ended failure' w') → acts = more ∧ failure = failure' ∧ w = w' := by
  induction h with
  | done =>
    rintro more failure failure' w w' rfl h'
    cases h' with
    | done => exact ⟨rfl, rfl, rfl⟩
    | next head => exact absurd head not_step_ended
  | next head tail ih =>
    intro more failure failure' w w' hq h'
    cases h' with
    | done => exact absurd head not_step_ended
    | next head' tail' =>
      obtain ⟨rfl, rfl⟩ := head.unique head'
      obtain ⟨rfl, hend⟩ := ih hq tail'
      exact ⟨rfl, hend⟩

/-! ## The way of a fixture -/

theorem checkSource_ok {fs : FileSystem} {p : Path} (h : checkSource fs p = .ok ()) :
    fs.isReadable p = true := by
  unfold checkSource at h
  split at h
  · next hread => exact hread
  · cases h

theorem checkSource_error {fs : FileSystem} {p : Path} {e : Failure}
    (h : checkSource fs p = .error e) : fs.isReadable p = false ∧ e = .missingSource p := by
  unfold checkSource at h
  split at h
  · cases h
  · next hread =>
    cases h
    exact ⟨Bool.not_eq_true _ ▸ hread, rfl⟩

theorem persist_ok {fs fs' : FileSystem} {dir : Path} {stem text : String}
    (h : fs.writeText (storedPath dir stem) text = .ok fs') :
    persist fs dir stem text = (.ok (storedPath dir stem), fs') := by
  unfold persist
  dsimp only
  rw [h]

theorem persist_error {fs : FileSystem} {dir : Path} {stem text : String} {e : FileError}
    (h : fs.writeText (storedPath dir stem) text = .error e) :
    persist fs dir stem text =
      (.error (.artifactWrite (storedPath dir stem) e.message), fs) := by
  unfold persist
  dsimp only
  rw [h]

/-- The failure that an evaluation stands for. -/
def failureOf (f : Fixture) (evaluation : Except Failure Evaluation) : Option Failure :=
  (FixtureResult.ofEvaluation f evaluation).failure

/-- A fixture whose text was stored ends with a failure iff the text has discrepancies. -/
theorem compare_steps (a : Audit ρ) (f : Fixture) (text : String) (path : Path) (w : World ρ) :
    Steps a f (.stored text w) [] (.ended (failureOf f
      (.ok ⟨text, Counts.count text f.expected.keys, disagreements f text, path⟩)) w) := by
  unfold failureOf FixtureResult.ofEvaluation
  dsimp only
  split
  · next hnone => exact .next (.agree hnone) .done
  · next hsome => exact .next (.disagree hsome) .done

theorem acts_of_store {j k : Journal ρ} {s : Store} (hcalls : k.calls = j.calls)
    (hstores : k.stores = j.stores ++ [s]) : acts k = acts j ++ [.store s] := by
  unfold acts
  rw [hcalls, hstores, List.map_append, List.append_assoc, List.map_singleton]

theorem acts_of_call {j k : Journal ρ} {c : ToolCall} (hcalls : k.calls = j.calls ++ [c])
    (hnone : j.stores = []) (hstores : k.stores = []) : acts k = acts j ++ [.call c] := by
  unfold acts
  rw [hcalls, hnone, hstores, List.map_append, List.map_nil, List.append_nil, List.append_nil,
    List.map_singleton]

theorem conclude_steps (a : Audit ρ) (f : Fixture) (text : String) (j : Journal ρ) :
    ∃ more, acts (a.conclude f text j).2 = acts j ++ more ∧
      Steps a f (.analysed text j.world) more
        (.ended (failureOf f (a.conclude f text j).1) (a.conclude f text j).2.world) := by
  cases hstore : j.files.writeText (a.textPath f) text with
  | error e =>
    unfold conclude
    rw [persist_error hstore]
    exact ⟨_, acts_of_store rfl rfl, .next (.storeFails hstore) .done⟩
  | ok fs =>
    unfold conclude
    rw [persist_ok hstore]
    exact ⟨_, acts_of_store rfl rfl, .next (.store hstore) (compare_steps a f text _ _)⟩

theorem examine_steps (a : Audit ρ) (f : Fixture) (artifact : Path) (j : Journal ρ)
    (hnone : j.stores = []) :
    ∃ more, acts (a.examine f artifact j).2 = acts j ++ more ∧
      Steps a f (.compiled artifact j.world) more
        (.ended (failureOf f (a.examine f artifact j).1) (a.examine f artifact j).2.world) := by
  have hcall : acts (j.after (.analyze artifact) (a.tools.analyze artifact j.world)) =
      acts j ++ [.call (.analyze artifact)] := acts_of_call rfl hnone hnone
  unfold examine
  dsimp only
  split
  · next e hanalyze => exact ⟨_, hcall, .next (.analyzeFails hanalyze) .done⟩
  · next text hanalyze =>
    obtain ⟨more, hacts, hsteps⟩ := a.conclude_steps f text
      (j.after (.analyze artifact) (a.tools.analyze artifact j.world))
    refine ⟨_, ?_, .next (.analyze hanalyze) hsteps⟩
    rw [hacts, hcall, List.append_assoc]

/-- The stages of a fixture go from the start to an end. -/
theorem evaluate_steps (a : Audit ρ) (f : Fixture) (w : World ρ) :
    Steps a f (.waiting w) (acts (a.evaluate f w).2)
      (.ended (failureOf f (a.evaluate f w).1) (a.evaluate f w).2.world) := by
  unfold evaluate
  split
  · next e hcheck =>
    obtain ⟨hread, rfl⟩ := checkSource_error hcheck
    exact .next (.missing hread) .done
  next hcheck =>
  have hread := checkSource_ok hcheck
  dsimp only
  split
  · next e hcompile =>
    have way : Steps a f (.waiting w) _ _ :=
      .next (.check hread) (.next (.compileFails hcompile) .done)
    exact way
  · next artifact hcompile =>
    obtain ⟨more, hacts, hsteps⟩ := a.examine_steps f artifact
      (Journal.after { world := w } (.compile (a.source f) (a.output f))
        (a.tools.compile (a.source f) (a.output f) w)) rfl
    have way : Steps a f (.waiting w) _ _ := .next (.check hread) (.next (.compile hcompile) hsteps)
    rw [hacts]
    exact way

theorem process_steps (a : Audit ρ) (f : Fixture) (w : World ρ) :
    Steps a f (.waiting w) (acts (a.process f w).2)
      (.ended (a.process f w).1.failure (a.process f w).2.world) := by
  have hway := a.evaluate_steps f w
  unfold process
  generalize a.evaluate f w = e at hway ⊢
  exact hway

/-! ## What is called and stored on the way -/

variable {w w' : World ρ} {failure : Option Failure} {way : List Act}

theorem Steps.of_ended {failure' : Option Failure}
    (h : Steps a f (.ended failure' w) way (.ended failure w')) :
    way = [] ∧ failure' = failure ∧ w = w' := by
  cases h with
  | done => exact ⟨rfl, rfl, rfl⟩
  | next head => exact absurd head not_step_ended

theorem Steps.acts_stored {text : String}
    (h : Steps a f (.stored text w) way (.ended failure w')) : way = [] := by
  cases h with
  | next head tail => cases head <;> exact tail.of_ended.1

theorem Steps.acts_analysed {text : String}
    (h : Steps a f (.analysed text w) way (.ended failure w')) :
    way = [.store ⟨a.textPath f, text⟩] := by
  cases h with
  | next head tail =>
    cases head with
    | store => rw [tail.acts_stored, List.append_nil]
    | storeFails => rw [tail.of_ended.1, List.append_nil]

theorem Steps.acts_compiled {artifact : Path}
    (h : Steps a f (.compiled artifact w) way (.ended failure w')) :
    way = .call (.analyze artifact) :: match (a.tools.analyze artifact w).result with
      | .ok text => [.store ⟨a.textPath f, text⟩]
      | .error _ => [] := by
  cases h with
  | next head tail =>
    cases head with
    | analyze hok => rw [tail.acts_analysed, hok, List.singleton_append]
    | analyzeFails hfail => rw [tail.of_ended.1, hfail, List.singleton_append]

theorem Steps.acts_waiting (h : Steps a f (.waiting w) way (.ended failure w')) :
    way = if w.files.isReadable (a.source f) then
        .call (.compile (a.source f) (a.output f)) ::
          match (a.tools.compile (a.source f) (a.output f) w).result with
          | .ok artifact => .call (.analyze artifact) ::
            match (a.tools.analyze artifact
              (a.tools.compile (a.source f) (a.output f) w).world).result with
            | .ok text => [.store ⟨a.textPath f, text⟩]
            | .error _ => []
          | .error _ => []
      else [] := by
  cases h with
  | next head tail =>
    cases head with
    | missing hmissing => rw [hmissing, tail.of_ended.1]; rfl
    | check hread =>
      rw [hread, if_pos rfl]
      cases tail with
      | next head tail =>
        cases head with
        | compile hok => rw [tail.acts_compiled, hok]; rfl
        | compileFails hfail => rw [tail.of_ended.1, hfail]; rfl

theorem Steps.compile_mem (h : Steps a f (.waiting w) way (.ended failure w')) (s o : Path) :
    .call (.compile s o) ∈ way ↔
      w.files.isReadable (a.source f) = true ∧ s = a.source f ∧ o = a.output f := by
  rw [h.acts_waiting]
  cases hread : w.files.isReadable (a.source f) with
  | false => simp
  | true =>
    cases hcompile : (a.tools.compile (a.source f) (a.output f) w).result with
    | error e => simp
    | ok artifact =>
      cases hanalyze : (a.tools.analyze artifact
        (a.tools.compile (a.source f) (a.output f) w).world).result <;> simp [hanalyze]

theorem Steps.analyze_mem (h : Steps a f (.waiting w) way (.ended failure w')) (artifact : Path) :
    .call (.analyze artifact) ∈ way ↔ w.files.isReadable (a.source f) = true ∧
      (a.tools.compile (a.source f) (a.output f) w).result = .ok artifact := by
  rw [h.acts_waiting]
  cases hread : w.files.isReadable (a.source f) with
  | false => simp
  | true =>
    cases hcompile : (a.tools.compile (a.source f) (a.output f) w).result with
    | error e => simp
    | ok made =>
      cases hanalyze : (a.tools.analyze made
        (a.tools.compile (a.source f) (a.output f) w).world).result <;> simp [hanalyze, eq_comm]

theorem Steps.store_mem (h : Steps a f (.waiting w) way (.ended failure w')) (s : Store) :
    .store s ∈ way ↔ ∃ artifact text, w.files.isReadable (a.source f) = true ∧
      (a.tools.compile (a.source f) (a.output f) w).result = .ok artifact ∧
      (a.tools.analyze artifact (a.tools.compile (a.source f) (a.output f) w).world).result =
        .ok text ∧ s = ⟨a.textPath f, text⟩ := by
  rw [h.acts_waiting]
  cases hread : w.files.isReadable (a.source f) with
  | false => simp
  | true =>
    cases hcompile : (a.tools.compile (a.source f) (a.output f) w).result with
    | error e => simp
    | ok artifact =>
      cases hanalyze : (a.tools.analyze artifact
        (a.tools.compile (a.source f) (a.output f) w).world).result <;> simp [hanalyze]

/-- Nothing is done twice. -/
theorem Steps.acts_nodup (h : Steps a f (.waiting w) way (.ended failure w')) : way.Nodup := by
  rw [h.acts_waiting]
  split
  · split
    · split <;> simp
    · simp
  · simp

/-! ## Top theorem -/

theorem mem_calls (j : Journal ρ) (c : ToolCall) : c ∈ j.calls ↔ .call c ∈ acts j := by
  unfold acts
  simp

theorem mem_stores (j : Journal ρ) (s : Store) : s ∈ j.stores ↔ .store s ∈ acts j := by
  unfold acts
  simp

theorem process_passes_iff (a : Audit ρ) (f : Fixture) (w : World ρ) :
    (a.process f w).1.outcome = .pass ↔ (a.process f w).1.failure = none := by
  unfold process
  generalize a.evaluate f w = e
  obtain ⟨evaluation, j⟩ := e
  unfold FixtureResult.ofEvaluation
  cases evaluation with
  | error e => simp
  | ok ev =>
    dsimp only
    split <;> simp

/-- **A fixture performs its stages up to the first one that fails, and no other.**  What it calls and
stores, how it ends and the world that it leaves are those of the one way from the start to an end.
So the compiler is called iff the source can be read, the analyser iff the compiler succeeded, and a
text is stored iff the analyser gave one, each once at most and with just these arguments; and the
fixture passes iff no stage failed. -/
theorem process_performs_stages (a : Audit ρ) (f : Fixture) (w : World ρ) :
    let r := (a.process f w).1
    let j := (a.process f w).2
    let readable := w.files.isReadable (a.paths.fixtureRoot.join f.source) = true
    let compiled := a.tools.compile (a.source f) (a.output f) w
    Steps a f (.waiting w) (acts j) (.ended r.failure j.world) ∧
    (∀ way failure w', Steps a f (.waiting w) way (.ended failure w') →
      way = acts j ∧ failure = r.failure ∧ w' = j.world) ∧
    (∀ source output, .compile source output ∈ j.calls ↔
      readable ∧ source = a.source f ∧ output = a.output f) ∧
    (∀ artifact, .analyze artifact ∈ j.calls ↔ readable ∧ compiled.result = .ok artifact) ∧
    (∀ s, s ∈ j.stores ↔ ∃ artifact text, readable ∧ compiled.result = .ok artifact ∧
      (a.tools.analyze artifact compiled.world).result = .ok text ∧
      s = ⟨a.paths.outputDir.join ⟨f.artifactStem ++ ".output"⟩, text⟩) ∧
    (acts j).Nodup ∧
    (r.outcome = .pass ↔ r.failure = none) := by
  intro r j readable compiled
  have hway : Steps a f (.waiting w) (acts j) (.ended r.failure j.world) := a.process_steps f w
  refine ⟨hway, fun way failure w' h => ?_, fun source output => ?_, fun artifact => ?_, fun s => ?_,
    hway.acts_nodup, a.process_passes_iff f w⟩
  · obtain ⟨hsame, hfailure, hworld⟩ := hway.unique rfl h
    exact ⟨hsame.symm, hfailure.symm, hworld.symm⟩
  · rw [mem_calls]
    exact hway.compile_mem source output
  · rw [mem_calls]
    exact hway.analyze_mem artifact
  · rw [mem_stores]
    exact hway.store_mem s

/-- A compiler that runs out of time: it was called on the source, nothing was analysed or stored, and
the fixture fails with what the compiler reported. -/
theorem process_performs_stages_late_compiler :
    let tools : Toolchain Unit := {
      preflight := fun _ => .ok ()
      compile := fun _ _ w => { result := .error (.toolTimeout "clang" 1), world := w }
      analyze := fun _ w => { result := .ok "", world := w } }
    let a : Audit Unit := ⟨{ fixtureRoot := ⟨"/"⟩, outputDir := ⟨"/out"⟩ }, tools⟩
    let f := Fixture.make "One" "one.c" [("load", 1)]
    let w : World Unit :=
      ⟨({} : FileSystem).put ["one.c"] { matter := .file [], mode := 0o644 }, ()⟩
    .compile ⟨"/one.c"⟩ ⟨"/out/one.ll"⟩ ∈ (a.process f w).2.calls ∧
    (∀ artifact, .analyze artifact ∉ (a.process f w).2.calls) ∧
    (∀ s, s ∉ (a.process f w).2.stores) ∧
    (a.process f w).1.failure = some (.toolTimeout "clang" 1) := by
  intro tools a f w
  have hread : w.files.isReadable (a.source f) = true := by decide +kernel
  have hsource : ⟨"/one.c"⟩ = a.source f := by decide +kernel
  have houtput : ⟨"/out/one.ll"⟩ = a.output f := by decide +kernel
  obtain ⟨-, hunique, hcompile, hanalyze, hstore, -⟩ := process_performs_stages a f w
  have way : Steps a f (.waiting w) _ _ := .next (.check hread) (.next (.compileFails rfl) .done)
  refine ⟨(hcompile _ _).mpr ⟨hread, hsource, houtput⟩, ?_, ?_, (hunique _ _ _ way).2.1.symm⟩
  · intro artifact h
    cases ((hanalyze artifact).mp h).2
  · intro s h
    obtain ⟨artifact, text, -, hnever, -⟩ := (hstore s).mp h
    cases hnever

end HardenAudit.Audit
