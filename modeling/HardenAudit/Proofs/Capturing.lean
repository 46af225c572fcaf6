import HardenAudit.Proofs.Overwriting
import HardenAudit.Proofs.Passing

/-!
# What the tools make of a fixture

Up to the point where a text is stored, a fixture only goes through the tools.  What they make of it is
a text or the first failure, and a world.  All that comes after that is the audit's own doing: it stores
the text if there is one, and judges it.

    a fixture ends in one of three ways, by what the tools made of it       (process_ending)
    the files are those that the tools left, with the text written          (files_process)
    a stored text is that of the tools, and its counts are those it has     (files_process_cases)
    a fixture of a list is processed in the world that those before it left (processAll_split)
-/

namespace HardenAudit.Audit

open Text (Utf8.encode)

variable {ρ : Type} {a : Audit ρ} {f : Fixture} {w : World ρ}

/-! ## Algorithm -/

/-- What the tools make of a fixture: its text or the first failure, and the world that they leave. -/
def captured (a : Audit ρ) (f : Fixture) (w : World ρ) : Except Failure String × World ρ :=
  match checkSource w.files (a.source f) with
  | .error e => (.error e, w)
  | .ok () =>
    let compiled := a.tools.compile (a.source f) (a.output f) w
    match compiled.result with
    | .error e => (.error e, compiled.world)
    | .ok artifact =>
      let analysed := a.tools.analyze artifact compiled.world
      (analysed.result, analysed.world)

/-- The evaluation of a text that was stored. -/
def evaluationOfText (a : Audit ρ) (f : Fixture) (text : String) : Evaluation :=
  ⟨text, Counts.count text f.expected.keys, disagreements f text, a.textPath f⟩

/-- How the processing of a fixture ends, by what the tools make of it: there is no text, the text
cannot be stored, or it is stored and judged. -/
inductive Ending (a : Audit ρ) (f : Fixture) (w : World ρ) (evaluation : Except Failure Evaluation)
    (j : Journal ρ) : Prop where
  | failed (e : Failure) (captured : (a.captured f w).1 = .error e) (result : evaluation = .error e)
    (world : j.world = (a.captured f w).2) (stores : j.stores = [])
  | refused (text : String) (e : FileError) (captured : (a.captured f w).1 = .ok text)
    (write : (a.captured f w).2.files.writeText (a.textPath f) text = .error e)
    (result : evaluation = .error (.artifactWrite (a.textPath f) e.message))
    (world : j.world = (a.captured f w).2) (stores : j.stores = [⟨a.textPath f, text⟩])
  | stored (text : String) (fs : FileSystem) (captured : (a.captured f w).1 = .ok text)
    (write : (a.captured f w).2.files.writeText (a.textPath f) text = .ok fs)
    (result : evaluation = .ok (a.evaluationOfText f text))
    (world : j.world = { (a.captured f w).2 with files := fs })
    (stores : j.stores = [⟨a.textPath f, text⟩])

/-! ## One fixture -/

/-- A text that the tools gave is stored and judged, or it cannot be stored. -/
theorem conclude_ending {text : String} {j : Journal ρ} (hnone : j.stores = [])
    (htext : (a.captured f w).1 = .ok text) (hworld : (a.captured f w).2 = j.world) :
    Ending a f w (a.conclude f text j).1 (a.conclude f text j).2 := by
  have hstores : j.stores ++ [⟨a.textPath f, text⟩] = [⟨a.textPath f, text⟩] := by
    rw [hnone, List.nil_append]
  have hsame : (a.captured f w).2.files = j.files := by
    rw [hworld]
    rfl
  cases hwrite : (a.captured f w).2.files.writeText (a.textPath f) text with
  | error e =>
    have hpersist : persist j.files a.paths.outputDir f.artifactStem text =
      (.error (.artifactWrite (a.textPath f) e.message), j.files) :=
      persist_error (by rw [← hsame]; exact hwrite)
    unfold conclude
    rw [hpersist]
    exact .refused text e htext hwrite rfl hworld.symm hstores
  | ok fs =>
    have hpersist : persist j.files a.paths.outputDir f.artifactStem text =
      (.ok (a.textPath f), fs) := persist_ok (by rw [← hsame]; exact hwrite)
    unfold conclude
    rw [hpersist]
    exact .stored text fs htext hwrite rfl (by rw [hworld]; rfl) hstores

theorem evaluate_ending (a : Audit ρ) (f : Fixture) (w : World ρ) :
    Ending a f w (a.evaluate f w).1 (a.evaluate f w).2 := by
  unfold evaluate
  cases hcheck : checkSource w.files (a.source f) with
  | error e =>
    have hcaptured : a.captured f w = (.error e, w) := by
      unfold captured
      rw [hcheck]
    exact .failed e (by rw [hcaptured]) rfl (by rw [hcaptured]) rfl
  | ok =>
    dsimp only
    cases hcompile : (a.tools.compile (a.source f) (a.output f) w).result with
    | error e =>
      have hcaptured : a.captured f w =
          (.error e, (a.tools.compile (a.source f) (a.output f) w).world) := by
        unfold captured
        rw [hcheck]
        dsimp only
        rw [hcompile]
      exact .failed e (by rw [hcaptured]) rfl (by rw [hcaptured]; rfl) rfl
    | ok artifact =>
      have hcaptured : a.captured f w = (
          (a.tools.analyze artifact (a.tools.compile (a.source f) (a.output f) w).world).result,
          (a.tools.analyze artifact (a.tools.compile (a.source f) (a.output f) w).world).world) := by
        unfold captured
        rw [hcheck]
        dsimp only
        rw [hcompile]
      unfold examine
      dsimp only [Journal.after]
      cases hanalyze : (a.tools.analyze artifact
          (a.tools.compile (a.source f) (a.output f) w).world).result with
      | error e => exact .failed e (by rw [hcaptured, hanalyze]) rfl (by rw [hcaptured]) rfl
      | ok text => exact conclude_ending rfl (by rw [hcaptured, hanalyze]) (by rw [hcaptured])

theorem process_ending (a : Audit ρ) (f : Fixture) (w : World ρ) : ∃ evaluation,
    (a.process f w).1 = .ofEvaluation f evaluation ∧ Ending a f w evaluation (a.process f w).2 := by
  have hending := a.evaluate_ending f w
  unfold process
  generalize a.evaluate f w = e at hending ⊢
  obtain ⟨evaluation, j⟩ := e
  refine ⟨evaluation, rfl, ?_⟩
  -- the last record changes neither the world nor what was to be stored
  cases hending with
  | failed e captured result world stores => exact .failed e captured result world stores
  | refused text e captured write result world stores =>
    exact .refused text e captured write result world stores
  | stored text fs captured write result world stores =>
    exact .stored text fs captured write result world stores

/-- The files are those that the tools left, with the text written if there is one. -/
theorem files_process (a : Audit ρ) (f : Fixture) (w : World ρ) : (a.process f w).2.files =
    (a.captured f w).2.files.overwriteAll
      ((a.process f w).2.stores.map fun s => (s.path, Utf8.encode s.text)) := by
  obtain ⟨evaluation, -, hending⟩ := a.process_ending f w
  unfold Journal.files
  cases hending with
  | failed e captured result world stores =>
    rw [world, stores, List.map_nil, FileSystem.overwriteAll_nil]
  | refused text e captured write result world stores =>
    unfold FileSystem.writeText at write
    rw [world, stores, List.map_singleton, FileSystem.overwriteAll_cons, FileSystem.overwriteAll_nil]
    unfold FileSystem.overwritten
    rw [write]
  | stored text fs captured write result world stores =>
    unfold FileSystem.writeText at write
    rw [world, stores, List.map_singleton, FileSystem.overwriteAll_cons, FileSystem.overwriteAll_nil]
    unfold FileSystem.overwritten
    rw [write]

theorem diagnosticsPath_ofEvaluation (f : Fixture) (ev : Evaluation) :
    (FixtureResult.ofEvaluation f (.ok ev)).diagnosticsPath = some ev.diagnosticsPath := by
  unfold FixtureResult.ofEvaluation
  dsimp only
  split
  · rfl
  · rfl

theorem counts_ofEvaluation (f : Fixture) (ev : Evaluation) :
    (FixtureResult.ofEvaluation f (.ok ev)).counts = ev.counts := by
  unfold FixtureResult.ofEvaluation
  dsimp only
  split
  · rfl
  · rfl

theorem diagnosticsPath_evaluationOfText (a : Audit ρ) (f : Fixture) (text : String) :
    (a.evaluationOfText f text).diagnosticsPath = a.textPath f := by
  unfold evaluationOfText
  dsimp only

/-- The text of a fixture is written to its file, or nothing is. -/
theorem files_process_cases (a : Audit ρ) (f : Fixture) (w : World ρ) :
    (a.process f w).1.diagnosticsPath = none ∧ (a.process f w).2.files = (a.captured f w).2.files ∨
    (a.process f w).1.diagnosticsPath = some (a.textPath f) ∧ ∃ text,
      (a.captured f w).1 = .ok text ∧
      (a.process f w).1.counts = Counts.count text f.expected.keys ∧
      (a.captured f w).2.files.write (a.textPath f) (Utf8.encode text) =
        .ok (a.process f w).2.files := by
  obtain ⟨evaluation, hresult, hending⟩ := a.process_ending f w
  rw [hresult]
  unfold Journal.files
  cases hending with
  | failed e captured result world stores =>
    rw [result, world]
    exact .inl ⟨rfl, rfl⟩
  | refused text e captured write result world stores =>
    rw [result, world]
    exact .inl ⟨rfl, rfl⟩
  | stored text fs captured write result world stores =>
    rw [result, diagnosticsPath_ofEvaluation, diagnosticsPath_evaluationOfText, world]
    refine .inr ⟨rfl, text, captured, ?_, write⟩
    rw [counts_ofEvaluation]
    unfold evaluationOfText
    dsimp only

/-! ## Fixtures one after the other -/

/-- A fixture of a list is processed in the world that those before it left, and those behind it in the
world that it left. -/
theorem processAll_split {fixtures : List Fixture} {before after : List (Fixture × FixtureResult)}
    {r : FixtureResult}
    (h : fixtures.zip (a.processAll fixtures w).1 = before ++ (f, r) :: after) :
    let world := (a.processAll (before.map (·.1)) w).2.world
    fixtures = before.map (·.1) ++ f :: after.map (·.1) ∧ r = (a.process f world).1 ∧
    after.map (·.2) = (a.processAll (after.map (·.1)) (a.process f world).2.world).1 ∧
    (a.processAll fixtures w).2.world =
      (a.processAll (after.map (·.1)) (a.process f world).2.world).2.world := by
  intro world
  have hlength := a.length_processAll fixtures w
  have hfixtures : fixtures = before.map (·.1) ++ f :: after.map (·.1) := by
    have := congrArg (List.map Prod.fst) h
    rwa [List.map_fst_zip (by omega), List.map_append, List.map_cons] at this
  have hresults : (a.processAll fixtures w).1 = before.map (·.2) ++ r :: after.map (·.2) := by
    have := congrArg (List.map Prod.snd) h
    rwa [List.map_snd_zip (by omega), List.map_append, List.map_cons] at this
  obtain ⟨hall, hworld⟩ := a.processAll_append (before.map (·.1)) (f :: after.map (·.1)) w
  obtain ⟨hcons, hend⟩ := a.processAll_cons f (after.map (·.1)) world
  rw [← hfixtures] at hall hworld
  rw [hall, hcons] at hresults
  obtain ⟨-, hrest⟩ := List.append_inj hresults (by
    rw [a.length_processAll, List.length_map, List.length_map])
  obtain ⟨hr, hafter⟩ := List.cons.inj hrest
  exact ⟨hfixtures, hr.symm, hafter.symm, by rw [hworld, hend]⟩

end HardenAudit.Audit
