import HardenAudit.Proofs.Passing
import HardenAudit.Proofs.Writing

/-!
# The parts of a result agree

A result is made on one of three branches: the fixture was not analysed to the end, it agrees, or it
disagrees.  The reports read its parts independently, so these must not contradict each other.  What
an evaluation holds is tied to the fixture by the stages behind it, and the result is made from the
evaluation alone.

    an evaluation judges a text, which was stored                    (evaluate_eq_ok)
    a result that is made from such an evaluation is consistent      (consistent_ofEvaluation)
    every result of a fixture is consistent                          (process_consistent)
-/

namespace HardenAudit

open Text (Utf8.encode)

/-! ## Algorithm -/

/-- The parts of the result of a fixture agree with each other, with the fixture, and with the files
at the time when the result was given. -/
structure Consistent (f : Fixture) (r : FixtureResult) (fs : FileSystem) : Prop where
  passes : r.outcome = .pass ↔ r.failure = none
  /-- The text is kept iff a count is wrong; the failure then lists just the wrong counts, and the text
  is what the ordinary file holds in which it was stored. -/
  shown : r.mismatchOutput.isSome = true ↔ r.discrepancies ≠ []
  mismatch : r.discrepancies ≠ [] → r.failure = some (.countMismatch r.discrepancies) ∧
    ∃ path text, r.diagnosticsPath = some path ∧ r.mismatchOutput = some text ∧
      (fs.isFile path = true → fs.content? path = some (Utf8.encode text))
  stored : r.diagnosticsPath.isSome = true ↔ r.outcome = .pass ∨ r.discrepancies ≠ []
  /-- Counted are the expected categories, once the text was stored. -/
  counted : ∀ c, (r.counts.get? c).isSome = true ↔
    r.diagnosticsPath.isSome = true ∧ (f.expected.find? (Category.key c)).isSome = true
  /-- A counted category is in disagreement iff its count is not the expected one, and then with just
  these two numbers. -/
  compared : ∀ c n, r.counts.get? c = some n → ∃ e, f.expected.find? (Category.key c) = some e ∧
    ((∃ d ∈ r.discrepancies, d.category = c) ↔ n ≠ e) ∧
    ∀ d ∈ r.discrepancies, d.category = c → d = ⟨c, e, n⟩
  name : r.name = f.name
  source : r.source = f.source

/-! ## Counts and discrepancies of one text -/

theorem Counts.isSome_get?_count (text : String) (expected : Expectations) (c : Category) :
    ((Counts.count text expected.keys).get? c).isSome = true ↔
      (expected.find? c.key).isSome = true := by
  rw [← expected.mem_keys_iff c.key]
  unfold Counts.count
  rw [Counts.get?_ofFn]
  by_cases h : c.key ∈ expected.keys
  · simp [h]
  · simp [h]

theorem compared_of_count {text : String} {expected : Expectations} {c : Category} {n : UInt32}
    (h : (Counts.count text expected.keys).get? c = some n) :
    ∃ e, expected.find? c.key = some e ∧
      ((∃ d ∈ expected.discrepancies (Counts.count text expected.keys), d.category = c) ↔ n ≠ e) ∧
      ∀ d ∈ expected.discrepancies (Counts.count text expected.keys), d.category = c →
        d = ⟨c, e, n⟩ := by
  have hasked : (expected.find? c.key).isSome = true := by
    rw [← Counts.isSome_get?_count text, h]
    rfl
  obtain ⟨e, he⟩ := Option.isSome_iff_exists.mp hasked
  have hentry : ∀ d ∈ expected.discrepancies (Counts.count text expected.keys), d.category = c →
      d = ⟨c, e, n⟩ ∧ n ≠ e := by
    rintro ⟨c', e', n'⟩ hd rfl
    obtain ⟨hfind, hcount, hne⟩ := (expected.mem_discrepancies_iff _ _).mp hd
    dsimp only at hfind hcount hne
    rw [h, Option.getD_some] at hcount
    rw [he, Option.some.injEq] at hfind
    subst hcount hfind
    exact ⟨rfl, hne⟩
  refine ⟨e, he, ⟨?_, fun hne => ⟨⟨c, e, n⟩, ?_, rfl⟩⟩, fun d hd hc => (hentry d hd hc).1⟩
  · rintro ⟨d, hd, hc⟩
    exact (hentry d hd hc).2
  · rw [expected.mem_discrepancies_iff]
    exact ⟨he, by rw [h, Option.getD_some], hne⟩

/-! ## From the evaluation to the result -/

/-- An evaluation holds what was counted in its text, and how this differs from what is expected. -/
structure Evaluation.Judges (ev : Evaluation) (f : Fixture) : Prop where
  counts : ev.counts = Counts.count ev.text f.expected.keys
  discrepancies : ev.discrepancies = f.expected.discrepancies ev.counts

theorem consistent_of_error (f : Fixture) (e : Failure) (fs : FileSystem) :
    Consistent f (.ofEvaluation f (.error e)) fs where
  passes := ⟨fun h => (by cases h), fun h => (by cases h)⟩
  shown := ⟨fun h => (by cases h), fun h => absurd rfl h⟩
  mismatch h := absurd rfl h
  stored := ⟨fun h => (by cases h), fun h => (by rcases h with h | h; cases h; exact absurd rfl h)⟩
  counted c := ⟨fun h => (by cases c <;> cases h), fun h => (by cases h.1)⟩
  compared c n h := by cases c <;> cases h
  name := rfl
  source := rfl

/-- The parts of a result agree if it comes from an evaluation whose text was stored. -/
theorem consistent_ofEvaluation {f : Fixture} {ev : Evaluation} {fs : FileSystem}
    (hjudges : ev.Judges f)
    (hstored : fs.isFile ev.diagnosticsPath = true →
      fs.content? ev.diagnosticsPath = some (Utf8.encode ev.text)) :
    Consistent f (.ofEvaluation f (.ok ev)) fs := by
  obtain ⟨text, counts, discrepancies, path⟩ := ev
  obtain ⟨hcounts, hdiscrepancies⟩ := hjudges
  dsimp only at hcounts hdiscrepancies hstored
  subst hcounts
  unfold FixtureResult.ofEvaluation
  dsimp only
  split
  · next hnone =>
    refine ⟨?_, ?_, fun h => absurd rfl h, ?_, fun c => ?_, fun c n h => ?_, rfl, rfl⟩
    · simp
    · simp
    · simp
    · rw [Counts.isSome_get?_count]
      simp
    · rw [← hnone, hdiscrepancies]
      exact compared_of_count h
  · next hsome =>
    refine ⟨?_, ?_, fun _ => ⟨rfl, path, text, rfl, rfl, hstored⟩, ?_, fun c => ?_, fun c n h => ?_,
      rfl, rfl⟩
    · simp
    · simp [hsome]
    · simp [hsome]
    · rw [Counts.isSome_get?_count]
      simp
    · rw [hdiscrepancies]
      exact compared_of_count h

/-! ## From the stages to the evaluation -/

namespace Audit

variable {ρ : Type} (a : Audit ρ) (f : Fixture)

/-- What is evaluated was stored: the files are those before with the text written, and the evaluation
judges this text. -/
def Stored (ev : Evaluation) (fs : FileSystem) : Prop :=
  ev.Judges f ∧ ev.diagnosticsPath = a.textPath f ∧
    ∃ before, FileSystem.writeText before (a.textPath f) ev.text = .ok fs

variable {a f} {ev : Evaluation}

theorem conclude_eq_ok {text : String} {j : Journal ρ} (h : (a.conclude f text j).1 = .ok ev) :
    a.Stored f ev (a.conclude f text j).2.files := by
  unfold conclude at h ⊢
  cases hstore : j.files.writeText (a.textPath f) text with
  | error e =>
    rw [persist_error hstore] at h
    cases h
  | ok fs =>
    have hpersist : persist j.files a.paths.outputDir f.artifactStem text =
      (.ok (a.textPath f), fs) := persist_ok hstore
    rw [hpersist] at h ⊢
    dsimp only at h ⊢
    rw [Except.ok.injEq] at h
    subst h
    exact ⟨⟨rfl, rfl⟩, by dsimp only, j.files, hstore⟩

theorem examine_eq_ok {artifact : Path} {j : Journal ρ} (h : (a.examine f artifact j).1 = .ok ev) :
    a.Stored f ev (a.examine f artifact j).2.files := by
  unfold examine at h ⊢
  dsimp only at h ⊢
  split at h
  · cases h
  · exact conclude_eq_ok h

theorem evaluate_eq_ok {w : World ρ} (h : (a.evaluate f w).1 = .ok ev) :
    a.Stored f ev (a.evaluate f w).2.files := by
  unfold evaluate at h ⊢
  split at h
  · cases h
  · dsimp only at h ⊢
    split at h
    · cases h
    · exact examine_eq_ok h

/-- The parts of the result of a fixture agree. -/
theorem process_consistent (a : Audit ρ) (f : Fixture) (w : World ρ) :
    Consistent f (a.process f w).1 (a.process f w).2.files := by
  have hstored : ∀ ev, (a.evaluate f w).1 = .ok ev → a.Stored f ev (a.evaluate f w).2.files :=
    fun _ => evaluate_eq_ok
  unfold process
  generalize a.evaluate f w = e at hstored ⊢
  obtain ⟨evaluation, j⟩ := e
  show Consistent f (.ofEvaluation f evaluation) j.files
  cases evaluation with
  | error e => exact consistent_of_error f e j.files
  | ok ev =>
    obtain ⟨hjudges, hpath, before, hwrite⟩ := hstored ev rfl
    refine consistent_ofEvaluation hjudges fun hfile => ?_
    rw [hpath] at hfile ⊢
    exact FileSystem.content?_write before _ _ _ hwrite hfile

/-! ## Top theorem -/

/-- **The parts of a result agree**, for a fixture that is processed alone, and for each fixture of a
run when it was processed: then the files are those that the run up to this fixture leaves. -/
theorem results_consistent (a : Audit ρ) :
    (∀ f w, Consistent f (a.process f w).1 (a.process f w).2.files) ∧
    ∀ fixtures w results, (a.run fixtures w).1 = .ok results →
      results.length = fixtures.length ∧ ∀ i f, fixtures[i]? = some f →
        ∃ r, results[i]? = some r ∧ Consistent f r (a.run (fixtures.take (i + 1)) w).2.files := by
  refine ⟨a.process_consistent, fun fixtures w results h => ?_⟩
  obtain ⟨hlength, hget⟩ := run_getElem? h
  refine ⟨hlength, fun i f hf => ?_⟩
  obtain ⟨w', hresult, hworld⟩ := hget i f hf
  refine ⟨_, hresult, ?_⟩
  unfold Journal.files
  rw [hworld]
  exact a.process_consistent f w'

/-- Two fixtures with one stem, of which the first disagrees: when it was processed, its text is in the
file. -/
theorem results_consistent_shared_stem :
    let tools : Toolchain Unit := {
      preflight := fun _ => .ok ()
      compile := fun s _ w => { result := .ok s, world := w }
      analyze := fun p w =>
        { result := .ok (if p = ⟨"/a/x.c"⟩ then "Load instruction" else ""), world := w } }
    let a : Audit Unit := ⟨{ fixtureRoot := ⟨"/"⟩, outputDir := ⟨"/out"⟩ }, tools⟩
    let file : Node := { matter := .file [], mode := 0o644 }
    let directory : Node := { matter := .directory, mode := 0o755 }
    let w : World Unit := ⟨[["a"], ["b"], ["out"]].foldl (fun fs l => fs.put l directory)
      ([["a", "x.c"], ["b", "x.c"]].foldl (fun fs l => fs.put l file) {}), ()⟩
    let f := Fixture.make "A" "a/x.c" [("load", 0)]
    let fixtures := [f, Fixture.make "B" "b/x.c" [("load", 0)]]
    ∃ results r, (a.run fixtures w).1 = .ok results ∧ results[0]? = some r ∧
      r.mismatchOutput = some "Load instruction" ∧
      Consistent f r (a.run (fixtures.take 1) w).2.files := by
  intro tools a file directory w f fixtures
  have hfirst : ((a.run fixtures w).1.toOption.bind (·[0]?)).bind (·.mismatchOutput) =
      some "Load instruction" := by decide +kernel
  obtain ⟨r, hresult, hkept⟩ := Option.bind_eq_some_iff.mp hfirst
  obtain ⟨results, hok, hr⟩ := Option.bind_eq_some_iff.mp hresult
  have hrun := toOption_eq_some_iff.mp hok
  obtain ⟨r', hr', hconsistent⟩ := ((results_consistent a).2 fixtures w results hrun).2 0 f rfl
  cases hr.symm.trans hr'
  exact ⟨results, r, hrun, hr, hkept, hconsistent⟩

/-- The file in which a text was stored need not hold it for ever: the next fixture with the same stem
stores its own text over it; and what is stored on a device is kept nowhere. -/
theorem stored_text_lost :
    let tools : Toolchain Unit := {
      preflight := fun _ => .ok ()
      compile := fun s _ w => { result := .ok s, world := w }
      analyze := fun p w =>
        { result := .ok (if p = ⟨"/a/x.c"⟩ then "Load instruction" else ""), world := w } }
    let a : Audit Unit := ⟨{ fixtureRoot := ⟨"/"⟩, outputDir := ⟨"/out"⟩ }, tools⟩
    let file : Node := { matter := .file [], mode := 0o644 }
    let directory : Node := { matter := .directory, mode := 0o755 }
    let w : World Unit := ⟨[["a"], ["b"], ["dev"], ["out"]].foldl (fun fs l => fs.put l directory)
      ([["a", "x.c"], ["b", "x.c"]].foldl (fun fs l => fs.put l file) {}), ()⟩
    let w' : World Unit := ⟨(w.files.put ["dev", "null"] { matter := .device, mode := 0o666 }).put
      ["out", "x.output"] { matter := .link "/dev/null", mode := 0o777 }, ()⟩
    let f := Fixture.make "A" "a/x.c" [("load", 0)]
    let fixtures := [f, Fixture.make "B" "b/x.c" [("load", 0)]]
    (∃ results r path text, (a.run fixtures w).1 = .ok results ∧ results[0]? = some r ∧
      r.diagnosticsPath = some path ∧ r.mismatchOutput = some text ∧
      (a.run fixtures w).2.files.content? path ≠ some (Utf8.encode text)) ∧
    ∃ path text, (a.process f w').1.diagnosticsPath = some path ∧
      (a.process f w').1.mismatchOutput = some text ∧
      (a.process f w').2.files.content? path ≠ some (Utf8.encode text) := by
  intro tools a file directory w w' f fixtures
  have hfirst : ((a.run fixtures w).1.toOption.bind (·[0]?)).bind
      (fun r => r.diagnosticsPath.bind fun p => r.mismatchOutput.map fun t => (p, t)) =
        some (⟨"/out/x.output"⟩, "Load instruction") := by decide +kernel
  have hfile : (a.run fixtures w).2.files.content? ⟨"/out/x.output"⟩ = some [] := by decide +kernel
  refine ⟨?_, ⟨"/out/x.output"⟩, "Load instruction", by decide +kernel⟩
  obtain ⟨r, hresult, hboth⟩ := Option.bind_eq_some_iff.mp hfirst
  obtain ⟨results, hok, hr⟩ := Option.bind_eq_some_iff.mp hresult
  obtain ⟨path, hpath, hboth⟩ := Option.bind_eq_some_iff.mp hboth
  obtain ⟨text, htext, hboth⟩ := Option.map_eq_some_iff.mp hboth
  cases hboth
  refine ⟨results, r, _, _, toOption_eq_some_iff.mp hok, hr, hpath, htext, ?_⟩
  rw [hfile]
  decide +kernel

end Audit
end HardenAudit
