import Mathlib.Data.List.Forall2
import Mathlib.Data.List.Nodup
import HardenAudit.Proofs.Dates
import HardenAudit.Proofs.Naming
import HardenAudit.Proofs.Passing
import HardenAudit.Toolchain.Scripted

/-!
# Fixtures do not disturb each other

All fixtures of a run write into one directory, and each is processed in the world that those before it
left.  If what the tools do is determined by the paths that they are called with, then a fixture only
depends on whether its source can be read and on where its text lands.  Both are kept while other files
are written, so each fixture has the result that it has alone; and writes for different fixtures can be
reordered if they land in different files.

    a fixture, by its source and by where its text lands              (evaluate_eq)
    processing one fixture disturbs no source                         (process_files)
    fixtures one after the other leave what each of them writes       (processAll_files)
    fixtures one after the other have the results they have alone     (processAll_alone)
-/

namespace HardenAudit

open Text (Bytes Utf8.encode)

variable {ρ : Type}

/-! ## Algorithm -/

/-- What tools do is determined by the paths that they are called with: what they answer, and what the
compiler writes to its output path, if it writes at all.  Nothing else is written. -/
structure Determined (tools : Toolchain ρ) where
  compiled : (source output : Path) → Except Failure Path
  content : (source output : Path) → Option Bytes
  analysed : (artifact : Path) → Except Failure String
  compile_result : ∀ source output w, (tools.compile source output w).result = compiled source output
  compile_files : ∀ source output w, (tools.compile source output w).world.files.undated =
    match content source output with
    | some c => (w.files.overwritten output c).undated
    | none => w.files.undated
  analyze_result : ∀ artifact w, (tools.analyze artifact w).result = analysed artifact
  analyze_files : ∀ artifact w, (tools.analyze artifact w).world.files.undated = w.files.undated

/-- Scripted tools are determined by their tables. -/
def Scripted.determined (ready : Option Failure) (compilations : List (String × Scripted.Compilation))
    (analyses : List (String × Scripted.Analysis)) :
    Determined (ρ := ρ) ⟨Scripted.preflight ready, Scripted.compile compilations,
      Scripted.analyze analyses⟩ where
  compiled source output :=
    let entry := (compilations.lookup source.text).getD {}
    match entry.failure with
    | some e => .error e
    | none => .ok (entry.artifact.getD output)
  content source _ :=
    let entry := (compilations.lookup source.text).getD {}
    if entry.failure.isNone then some (Utf8.encode entry.content) else none
  analysed artifact :=
    let entry := (analyses.lookup artifact.text).getD {}
    match entry.failure with
    | some e => .error e
    | none => .ok entry.text
  compile_result source output w := by
    unfold Scripted.compile
    dsimp only
    cases ((compilations.lookup source.text).getD {}).failure with
    | some e => rfl
    | none => rfl
  compile_files source output w := by
    unfold Scripted.compile
    dsimp only
    cases ((compilations.lookup source.text).getD {}).failure with
    | some e => rfl
    | none => rfl
  analyze_result artifact w := by
    unfold Scripted.analyze
    dsimp only
    cases ((analyses.lookup artifact.text).getD {}).failure with
    | some e => rfl
    | none => rfl
  analyze_files artifact w := by
    unfold Scripted.analyze
    dsimp only
    cases ((analyses.lookup artifact.text).getD {}).failure with
    | some e => rfl
    | none => rfl

/-- Tools whose files are determined keep the working directory. -/
theorem Determined.compile_grounded {tools : Toolchain ρ} (d : Determined tools) (source output : Path)
    {w : World ρ} (hw : w.files.Grounded) : (tools.compile source output w).world.files.Grounded := by
  rw [← FileSystem.grounded_undated_iff, d.compile_files]
  cases d.content source output with
  | none => exact (FileSystem.grounded_undated_iff _).mpr hw
  | some content =>
    exact (FileSystem.grounded_undated_iff _).mpr
      (hw.grows (FileSystem.grows_overwritten hw output content))

theorem Determined.analyze_grounded {tools : Toolchain ρ} (d : Determined tools) (artifact : Path)
    {w : World ρ} (hw : w.files.Grounded) : (tools.analyze artifact w).world.files.Grounded := by
  rw [← FileSystem.grounded_undated_iff, d.analyze_files, FileSystem.grounded_undated_iff]
  exact hw

namespace Audit

variable {a : Audit ρ} {f : Fixture} {w : World ρ}

/-- The evaluation of a text that was to be stored. -/
def judged (a : Audit ρ) (f : Fixture) (text : String) :
    Except FileError Location → Except Failure Evaluation
  | .error e => .error (.artifactWrite (a.textPath f) e.message)
  | .ok _ => .ok
    ⟨text, Counts.count text f.expected.keys, disagreements f text, a.textPath f⟩

/-- The evaluation of a fixture, by whether its source can be read and where its text lands. -/
def evaluationOf (d : Determined a.tools) (f : Fixture) (readable : Bool)
    (landing : Bytes → Except FileError Location) : Except Failure Evaluation :=
  if readable then do
    let artifact ← d.compiled (a.source f) (a.output f)
    let text ← d.analysed artifact
    a.judged f text (landing (Utf8.encode text))
  else .error (.missingSource (a.source f))

/-- What the compiler writes for a fixture. -/
def artifactWrites (d : Determined a.tools) (f : Fixture) : List (Path × Bytes) :=
  ((d.content (a.source f) (a.output f)).map fun c => (a.output f, c)).toList

/-- What is stored for a fixture. -/
def textWrites (d : Determined a.tools) (f : Fixture) : List (Path × Bytes) :=
  match d.compiled (a.source f) (a.output f) >>= d.analysed with
  | .ok text => [(a.textPath f, Utf8.encode text)]
  | .error _ => []

/-- What is written for a fixture whose source can be read. -/
def writesOf (d : Determined a.tools) (f : Fixture) : List (Path × Bytes) :=
  artifactWrites d f ++ textWrites d f

/-! ## One fixture -/

/-- How a text is judged depends on where it lands. -/
theorem conclude_eq (a : Audit ρ) (f : Fixture) (text : String) {j : Journal ρ} {fs : FileSystem}
    (hj : j.files.Grounded) (hfs : j.files.undated = fs) :
    (a.conclude f text j).1 = a.judged f text (fs.landing (a.textPath f) (Utf8.encode text)) ∧
    (a.conclude f text j).2.files.undated = fs.overwritten (a.textPath f) (Utf8.encode text) := by
  subst hfs
  rw [FileSystem.landing_undated hj, ← FileSystem.undated_overwritten hj]
  have hwrite := j.files.write_eq (a.textPath f) (Utf8.encode text)
  unfold conclude FileSystem.overwritten
  cases hl : j.files.landing (a.textPath f) (Utf8.encode text) with
  | error e =>
    rw [hl] at hwrite
    have hpersist : persist j.files a.paths.outputDir f.artifactStem text =
      (.error (.artifactWrite (a.textPath f) e.message), j.files) := persist_error hwrite
    rw [hpersist, hwrite]
    exact ⟨rfl, rfl⟩
  | ok loc =>
    rw [hl] at hwrite
    have hpersist : persist j.files a.paths.outputDir f.artifactStem text =
      (.ok (a.textPath f), _) := persist_ok hwrite
    rw [hpersist, hwrite]
    exact ⟨rfl, rfl⟩

theorem examine_eq (d : Determined a.tools) (f : Fixture) (artifact : Path) {j : Journal ρ}
    {fs : FileSystem} (hj : j.files.Grounded) (hfs : j.files.undated = fs) :
    (a.examine f artifact j).1 = (d.analysed artifact >>= fun text =>
      a.judged f text (fs.landing (a.textPath f) (Utf8.encode text))) ∧
    (a.examine f artifact j).2.files.undated = match d.analysed artifact with
      | .ok text => fs.overwritten (a.textPath f) (Utf8.encode text)
      | .error _ => fs := by
  have hfiles := (d.analyze_files artifact j.world).trans hfs
  have hsame := d.analyze_grounded artifact (w := j.world) hj
  rw [← d.analyze_result artifact j.world]
  unfold examine
  dsimp only
  cases (a.tools.analyze artifact j.world).result with
  | error e => exact ⟨rfl, hfiles⟩
  | ok text =>
    dsimp only [bind, Except.bind]
    exact a.conclude_eq f text (j := j.after (.analyze artifact) (a.tools.analyze artifact j.world))
      hsame hfiles

theorem compile_files_eq (d : Determined a.tools) (f : Fixture) (hw : w.files.Grounded) :
    (a.tools.compile (a.source f) (a.output f) w).world.files.undated =
      w.files.undated.overwriteAll (artifactWrites d f) := by
  rw [d.compile_files]
  unfold artifactWrites
  cases d.content (a.source f) (a.output f) with
  | none =>
    dsimp only [Option.map, Option.toList]
    rw [FileSystem.overwriteAll_nil]
  | some c =>
    dsimp only [Option.map, Option.toList]
    rw [FileSystem.overwriteAll_cons, FileSystem.overwriteAll_nil,
      FileSystem.undated_overwritten hw]

/-- How a fixture is evaluated depends on whether its source can be read and on where its text lands;
and what is left is what it has written. -/
theorem evaluate_eq (d : Determined a.tools) (f : Fixture) (hw : w.files.Grounded) :
    (a.evaluate f w).1 = evaluationOf d f (w.files.isReadable (a.source f))
      ((w.files.undated.overwriteAll (artifactWrites d f)).landing (a.textPath f)) ∧
    (a.evaluate f w).2.files.undated = if w.files.isReadable (a.source f) then
        w.files.undated.overwriteAll (writesOf d f)
      else w.files.undated := by
  have hfiles := compile_files_eq d f hw
  have hsame := d.compile_grounded (a.source f) (a.output f) hw
  unfold evaluate evaluationOf writesOf textWrites
  rw [FileSystem.overwriteAll_append]
  cases hread : checkSource w.files (a.source f) with
  | error e =>
    obtain ⟨hno, rfl⟩ := checkSource_error hread
    rw [hno, if_neg Bool.false_ne_true, if_neg Bool.false_ne_true]
    exact ⟨rfl, rfl⟩
  | ok =>
    rw [checkSource_ok hread, if_pos rfl, if_pos rfl, ← d.compile_result (a.source f) (a.output f) w]
    dsimp only
    cases (a.tools.compile (a.source f) (a.output f) w).result with
    | error e =>
      dsimp only [bind, Except.bind]
      rw [FileSystem.overwriteAll_nil]
      exact ⟨rfl, hfiles⟩
    | ok artifact =>
      obtain ⟨hresult, hleft⟩ := examine_eq d f artifact
        (j := Journal.after { world := w } (.compile (a.source f) (a.output f))
          (a.tools.compile (a.source f) (a.output f) w)) hsame hfiles
      dsimp only [bind, Except.bind] at hresult ⊢
      rw [hresult, hleft]
      cases d.analysed artifact with
      | error e =>
        dsimp only
        rw [FileSystem.overwriteAll_nil]
        exact ⟨rfl, rfl⟩
      | ok text =>
        dsimp only
        rw [FileSystem.overwriteAll_cons, FileSystem.overwriteAll_nil]
        dsimp only
        exact ⟨rfl, rfl⟩

/-! ## One fixture among others -/

/-- The files that are written for a fixture. -/
def artifacts (a : Audit ρ) (f : Fixture) : List Path := [a.output f, a.textPath f]

/-- No source is a file that is written for a fixture. -/
def SourcesApart (a : Audit ρ) (fixtures : List Fixture) (fs : FileSystem) : Prop :=
  ∀ f ∈ fixtures, ∀ g ∈ fixtures, ∀ p ∈ a.artifacts g, ¬ fs.SameFile (a.source f) p

instance (a : Audit ρ) (fixtures : List Fixture) (fs : FileSystem) :
    Decidable (SourcesApart a fixtures fs) :=
  inferInstanceAs (Decidable (∀ f ∈ fixtures, ∀ g ∈ fixtures, ∀ p ∈ a.artifacts g,
    ¬ fs.SameFile (a.source f) p))

/-- Files that are written under different stems are different files. -/
def ArtifactsApart (a : Audit ρ) (fixtures : List Fixture) (fs : FileSystem) : Prop :=
  ∀ f ∈ fixtures, ∀ g ∈ fixtures, f.artifactStem ≠ g.artifactStem →
    ∀ p ∈ a.artifacts f, ∀ q ∈ a.artifacts g, ¬ fs.SameFile p q

instance (a : Audit ρ) (fixtures : List Fixture) (fs : FileSystem) :
    Decidable (ArtifactsApart a fixtures fs) :=
  inferInstanceAs (Decidable (∀ f ∈ fixtures, ∀ g ∈ fixtures, f.artifactStem ≠ g.artifactStem →
    ∀ p ∈ a.artifacts f, ∀ q ∈ a.artifacts g, ¬ fs.SameFile p q))

/-- Between two file systems only such files changed that are no sources. -/
structure Undisturbed (a : Audit ρ) (fixtures : List Fixture) (fs fs' : FileSystem) : Prop where
  ways : FileSystem.Extends fs fs'
  sources : ∀ f ∈ fixtures, fs'.isReadable (a.source f) = fs.isReadable (a.source f)

/-- What is written for a fixture, in a file system in which its source can be read or not. -/
def attempts (d : Determined a.tools) (fs : FileSystem) (f : Fixture) : List (Path × Bytes) :=
  if fs.isReadable (a.source f) then writesOf d f else []

/-- The result of a fixture in a file system. -/
def resultIn (d : Determined a.tools) (fs : FileSystem) (f : Fixture) : FixtureResult :=
  .ofEvaluation f (evaluationOf d f (fs.isReadable (a.source f)) (fs.landing (a.textPath f)))

variable {fixtures : List Fixture} {fs : FileSystem}

theorem Undisturbed.refl (a : Audit ρ) (fixtures : List Fixture) (fs : FileSystem) :
    Undisturbed a fixtures fs fs := ⟨.refl fs, fun _ _ => rfl⟩

theorem Undisturbed.trans {fs' fs'' : FileSystem} (h : Undisturbed a fixtures fs fs')
    (h' : Undisturbed a fixtures fs' fs'') : Undisturbed a fixtures fs fs'' :=
  ⟨h.ways.trans h'.ways, fun f hf => by rw [h'.sources f hf, h.sources f hf]⟩

theorem Undisturbed.undated_iff {fs' : FileSystem} :
    Undisturbed a fixtures fs fs'.undated ↔ Undisturbed a fixtures fs fs' := by
  constructor
  · intro h
    exact h.trans ⟨FileSystem.undated_extends fs', fun f _ => (fs'.isReadable_undated _).symm⟩
  · intro h
    exact h.trans ⟨FileSystem.extends_undated fs', fun f _ => fs'.isReadable_undated _⟩

theorem mem_artifacts {d : Determined a.tools} {x : Path × Bytes} (h : x ∈ attempts d fs f) :
    x.1 ∈ a.artifacts f := by
  unfold attempts at h
  unfold artifacts
  split at h
  · rcases List.mem_append.mp h with h | h
    · unfold artifactWrites at h
      obtain ⟨c, -, rfl⟩ := Option.map_eq_some_iff.mp (Option.mem_toList.mp h)
      dsimp only
      exact List.mem_cons_self
    · unfold textWrites at h
      split at h
      · rw [List.mem_singleton.mp h]
        dsimp only
        exact List.mem_cons_of_mem _ List.mem_cons_self
      · cases h
  · cases h

theorem undisturbed_overwriteAll (hfs : fs.Grounded) (hapart : SourcesApart a fixtures fs)
    {writes : List (Path × Bytes)}
    (h : ∀ x ∈ writes, ∃ g ∈ fixtures, x.1 ∈ a.artifacts g) :
    Undisturbed a fixtures fs (fs.overwriteAll writes) := by
  refine ⟨FileSystem.extends_overwriteAll writes hfs, fun f hf => ?_⟩
  refine FileSystem.isReadable_overwriteAll writes hfs fun x hx => ?_
  obtain ⟨g, hg, hpath⟩ := h x hx
  exact hapart f hf g hg x.1 hpath

theorem process_eq (a : Audit ρ) (f : Fixture) (w : World ρ) :
    (a.process f w).1 = .ofEvaluation f (a.evaluate f w).1 ∧
    (a.process f w).2.world = (a.evaluate f w).2.world := by
  unfold process
  generalize a.evaluate f w = e
  exact ⟨rfl, rfl⟩

/-- The result of a fixture does not depend on the reason why its text was refused, but for the
failure that names it. -/
theorem passed_evaluationOf (d : Determined a.tools) (f : Fixture) (readable : Bool)
    {landing landing' : Bytes → Except FileError Location}
    (h : ∀ content, Akin (landing content) (landing' content)) :
    (FixtureResult.ofEvaluation f (evaluationOf d f readable landing')).passed =
      (FixtureResult.ofEvaluation f (evaluationOf d f readable landing)).passed := by
  unfold evaluationOf
  cases readable with
  | false => rfl
  | true =>
    rw [if_pos rfl, if_pos rfl]
    cases d.compiled (a.source f) (a.output f) with
    | error e => rfl
    | ok artifact =>
      dsimp only [bind, Except.bind]
      cases d.analysed artifact with
      | error e => rfl
      | ok text =>
        dsimp only
        rcases h (Utf8.encode text) with hsame | ⟨hmissing, hobstacle⟩
        · rw [hsame]
        · rw [hmissing, hobstacle]
          rfl

theorem evaluationOf_congr (d : Determined a.tools) (f : Fixture) {readable : Bool}
    {landing landing' : Bytes → Except FileError Location}
    (h : readable = true → landing = landing') :
    evaluationOf d f readable landing = evaluationOf d f readable landing' := by
  cases readable with
  | false => rfl
  | true => rw [h rfl]

theorem SourcesApart.extends {fs' : FileSystem} (h : SourcesApart a fixtures fs)
    (hext : FileSystem.Extends fs fs') : SourcesApart a fixtures fs' := by
  intro f hf g hg p hp
  rw [hext.sameFile_iff]
  exact h f hf g hg p hp

/-- A fixture writes what it would write first of all, and disturbs no source. -/
theorem process_files (d : Determined a.tools) (hfs : fs.Grounded)
    (hapart : SourcesApart a fixtures fs) (hf : f ∈ fixtures)
    (hw : Undisturbed a fixtures fs w.files) :
    (a.process f w).2.world.files.undated = w.files.undated.overwriteAll (attempts d fs f) ∧
    Undisturbed a fixtures fs (a.process f w).2.world.files := by
  have hground := hfs.grows hw.ways.grows
  have hfiles : (a.process f w).2.world.files.undated =
      w.files.undated.overwriteAll (attempts d fs f) := by
    rw [(a.process_eq f w).2]
    refine (evaluate_eq d f hground).2.trans ?_
    unfold attempts
    rw [hw.sources f hf]
    split
    · rfl
    · rw [FileSystem.overwriteAll_nil]
  refine ⟨hfiles, Undisturbed.undated_iff.mp ?_⟩
  have hundated := Undisturbed.undated_iff.mpr hw
  rw [hfiles]
  exact hundated.trans (undisturbed_overwriteAll (hfs.grows hundated.ways.grows)
    (hapart.extends hundated.ways) fun x hx => ⟨f, hf, mem_artifacts hx⟩)

theorem landing_undisturbed (hfs : fs.Grounded) (hw : Undisturbed a fixtures fs w.files)
    (writes : List (Path × Bytes)) (p : Path) (content : Bytes) :
    Akin (fs.landing p content) ((w.files.undated.overwriteAll writes).landing p content) := by
  have hundated := hw.ways.trans (FileSystem.extends_undated w.files)
  have hmore := FileSystem.extends_overwriteAll writes (hfs.grows hundated.grows)
  exact (hundated.trans hmore).grows.landing hfs p content

/-- A fixture passes iff it would pass first of all. -/
theorem process_passed (d : Determined a.tools) (hfs : fs.Grounded) (hf : f ∈ fixtures)
    (hw : Undisturbed a fixtures fs w.files) :
    (a.process f w).1.passed = (resultIn d fs f).passed := by
  rw [(a.process_eq f w).1, (evaluate_eq d f (hfs.grows hw.ways.grows)).1, hw.sources f hf]
  exact passed_evaluationOf d f _ fun content => landing_undisturbed hfs hw _ _ content

/-- A fixture has the result that it would have first of all. -/
theorem process_result (d : Determined a.tools) (hfs : fs.Grounded) (hf : f ∈ fixtures)
    (hw : Undisturbed a fixtures fs w.files)
    (hlands : fs.isReadable (a.source f) = true →
      ∀ content, fs.landing (a.textPath f) content ≠ .error .notFound) :
    (a.process f w).1 = resultIn d fs f := by
  rw [(a.process_eq f w).1, (evaluate_eq d f (hfs.grows hw.ways.grows)).1, hw.sources f hf]
  unfold resultIn
  refine congrArg _ (evaluationOf_congr d f fun hread => ?_)
  funext content
  exact (landing_undisturbed hfs hw _ _ content).eq_of_ne (hlands hread content)

/-! ## Fixtures one after the other -/

/-- Fixtures leave what each of them writes, one after the other, and disturb no source. -/
theorem processAll_files (d : Determined a.tools) (hfs : fs.Grounded)
    (hapart : SourcesApart a fixtures fs) (l : List Fixture) : ∀ {w : World ρ},
    (∀ f ∈ l, f ∈ fixtures) → Undisturbed a fixtures fs w.files →
      (a.processAll l w).2.world.files.undated =
        w.files.undated.overwriteAll (l.flatMap (attempts d fs)) ∧
      Undisturbed a fixtures fs (a.processAll l w).2.world.files := by
  induction l with
  | nil =>
    intro w _ hw
    rw [processAll]
    exact ⟨(FileSystem.overwriteAll_nil _).symm, hw⟩
  | cons f rest ih =>
    intro w hmem hw
    obtain ⟨hf, hrest⟩ := List.forall_mem_cons.mp hmem
    obtain ⟨hfiles, hnext⟩ := process_files d hfs hapart hf hw
    obtain ⟨hall, hend⟩ := ih hrest hnext
    rw [(a.processAll_cons f rest w).2]
    refine ⟨?_, hend⟩
    rw [hall, hfiles, List.flatMap_cons, FileSystem.overwriteAll_append]

/-- The result is the one that the fixture has alone, in the world in which the directory was prepared;
if its text cannot be stored because a link leads into a missing directory, then at least the verdict
is. -/
def Alone (a : Audit ρ) (start : World ρ) (f : Fixture) (r : FixtureResult) : Prop :=
  r.passed = (a.process f start).1.passed ∧
    (¬ start.files.Dangles (a.textPath f) → r = (a.process f start).1)

/-- A text that can be stored in a directory that was prepared has a place there. -/
theorem landing_textPath_ne (hfs : fs.Grounded)
    (hdir : a.paths.outputDir.text = "" ∨ fs.isDirectory a.paths.outputDir = true)
    (hlink : ¬ fs.Dangles (a.textPath f)) (hread : fs.isReadable (a.source f) = true)
    (content : Bytes) : fs.landing (a.textPath f) content ≠ .error .notFound := by
  obtain ⟨stem, hstem⟩ := FileSystem.stem_of_readable hfs hread
  have hname : f.artifactStem = stem := by
    unfold Fixture.artifactStem
    rw [hstem]
    rfl
  unfold textPath storedPath at hlink ⊢
  rw [hname] at hlink ⊢
  refine FileSystem.landing_ne_notFound hfs hdir ?_ ?_ hlink content
  · intro hempty
    have hlist := congrArg String.toList hempty
    simp at hlist
  · have hslash := Path.slash_not_mem_stem hstem
    rw [String.toList_append, List.mem_append]
    rintro (h | h)
    · exact hslash h
    · revert h
      decide

theorem processAll_alone (d : Determined a.tools) {start : World ρ} (hfs : start.files.Grounded)
    (hdir : a.paths.outputDir.text = "" ∨ start.files.isDirectory a.paths.outputDir = true)
    (hapart : SourcesApart a fixtures start.files) (l : List Fixture) : ∀ {w : World ρ},
    (∀ f ∈ l, f ∈ fixtures) → Undisturbed a fixtures start.files w.files →
      List.Forall₂ (Alone a start) l (a.processAll l w).1 := by
  induction l with
  | nil => exact fun _ _ => .nil
  | cons f rest ih =>
    intro w hmem hw
    obtain ⟨hf, hrest⟩ := List.forall_mem_cons.mp hmem
    have hstart := Undisturbed.refl a fixtures start.files
    rw [(a.processAll_cons f rest w).1]
    refine .cons ⟨?_, fun hlink => ?_⟩ (ih hrest (process_files d hfs hapart hf hw).2)
    · rw [process_passed d hfs hf hw, process_passed d hfs hf hstart]
    · have hlands := landing_textPath_ne (f := f) hfs hdir hlink
      rw [process_result d hfs hf hw hlands, process_result d hfs hf hstart hlands]

/-! ## Whole runs -/

/-- The world in which the fixtures of a run are processed. -/
def prepared (a : Audit ρ) (w : World ρ) : World ρ :=
  { w with files := (w.files.makeTree a.paths.outputDir).2 }

/-- What a run that gives results starts from, and every other run from the same world. -/
theorem run_prepared {results : List FixtureResult} (h : (a.run fixtures w).1 = .ok results) :
    w.files.makeTree a.paths.outputDir = (none, (a.prepared w).files) ∧
    ∀ others, (a.run others w).1 = .ok (a.processAll others (a.prepared w)).1 ∧
      (a.run others w).2.world = (a.processAll others (a.prepared w)).2.world := by
  rcases a.run_cases fixtures w with ⟨fs, hready, htree, -, -⟩ | ⟨e, herror, -⟩
  · have hfiles : (a.prepared w).files = fs := by
      unfold prepared
      rw [htree]
    refine ⟨by rw [htree, hfiles], fun others => ?_⟩
    rcases a.run_cases others w with ⟨fs', -, htree', hresults, hleft⟩ | ⟨e, -, hnot⟩
    · rw [htree] at htree'
      cases htree'
      unfold prepared
      rw [htree]
      exact ⟨hresults, hleft⟩
    · exact absurd ⟨hready, fs, htree⟩ hnot
  · rw [herror] at h
    cases h

theorem prepared_spec {results : List FixtureResult} (hwork : w.files.Grounded)
    (h : (a.run fixtures w).1 = .ok results) : (a.prepared w).files.Grounded ∧
      (a.paths.outputDir.text = "" ∨
        (a.prepared w).files.isDirectory a.paths.outputDir = true) := by
  have htree := (run_prepared h).1
  refine ⟨?_, FileSystem.isDirectory_makeTree htree⟩
  have hkeeps := w.files.keeps_makeTree a.paths.outputDir
  rw [htree] at hkeeps
  exact hwork.keeps hkeeps

/-- In every run from the same world a fixture has the result that it has alone. -/
theorem run_alone (d : Determined a.tools) {results : List FixtureResult}
    (hwork : w.files.Grounded) (hrun : (a.run fixtures w).1 = .ok results)
    (hapart : SourcesApart a fixtures (a.prepared w).files) (others : List Fixture)
    (hmem : ∀ f ∈ others, f ∈ fixtures) :
    ∃ rs, (a.run others w).1 = .ok rs ∧ List.Forall₂ (Alone a (a.prepared w)) others rs := by
  obtain ⟨hground, hdir⟩ := prepared_spec hwork hrun
  exact ⟨_, ((run_prepared hrun).2 others).1,
    processAll_alone d hground hdir hapart others hmem (.refl a fixtures _)⟩

/-- A run leaves what each of its fixtures writes, and only files change that are no sources. -/
theorem run_files (d : Determined a.tools) {results : List FixtureResult}
    (hwork : w.files.Grounded) (hrun : (a.run fixtures w).1 = .ok results)
    (hapart : SourcesApart a fixtures (a.prepared w).files) (others : List Fixture)
    (hmem : ∀ f ∈ others, f ∈ fixtures) :
    (a.run others w).2.files.undated = (a.prepared w).files.undated.overwriteAll
      (others.flatMap (attempts d (a.prepared w).files)) ∧
    Undisturbed a fixtures (a.prepared w).files (a.run others w).2.files := by
  unfold Journal.files
  rw [((run_prepared hrun).2 others).2]
  exact processAll_files d (prepared_spec hwork hrun).1 hapart others hmem (.refl a fixtures _)

/-! ## Top theorem -/

/-- **Fixtures do not disturb each other.**  If no source is a file that is written for a fixture, then
every result of a run is the one that its fixture has alone, in every run of these fixtures, whatever
their order and number; and if different fixtures write different files, then the files that are left
do not depend on the order. -/
theorem run_isolates (d : Determined a.tools) {results : List FixtureResult}
    (hwork : w.files.Grounded) (hrun : (a.run fixtures w).1 = .ok results)
    (hapart : SourcesApart a fixtures (a.prepared w).files) :
    List.Forall₂ (Alone a (a.prepared w)) fixtures results ∧
    (∀ others, (∀ f ∈ others, f ∈ fixtures) → ∃ rs, (a.run others w).1 = .ok rs ∧
      List.Forall₂ (Alone a (a.prepared w)) others rs) ∧
    ((fixtures.map (·.artifactStem)).Nodup → ArtifactsApart a fixtures (a.prepared w).files →
      ∀ others, others.Perm fixtures →
        (a.run others w).2.files.undated = (a.run fixtures w).2.files.undated) := by
  have halone := run_alone d hwork hrun hapart
  refine ⟨?_, halone, fun hstems hfiles others hperm => ?_⟩
  · obtain ⟨rs, hrs, hall⟩ := halone fixtures fun _ => id
    rw [hrun] at hrs
    cases hrs
    exact hall
  · have hground := (FileSystem.grounded_undated_iff _).mpr (prepared_spec hwork hrun).1
    rw [(run_files d hwork hrun hapart others fun f => hperm.mem_iff.mp).1,
      (run_files d hwork hrun hapart fixtures fun _ => id).1]
    refine (FileSystem.overwriteAll_perm hground _ hperm.symm
      fun f hf g hg hne p hp q hq => ?_).symm
    rw [(FileSystem.extends_undated _).sameFile_iff]
    have hstem : f.artifactStem ≠ g.artifactStem := fun hsame =>
      hne (List.inj_on_of_nodup_map hstems hf hg hsame)
    exact hfiles f hf g hg hstem p.1 (mem_artifacts hp) q.1 (mem_artifacts hq)

/-- The first of two fixtures fails to compile: in both orders each has its own result, and the same files
are left. -/
theorem run_isolates_failing_neighbour :
    let compilations := [("/f/a.c", { failure := some (.compileFailed (some 1) "no") })]
    let analyses := [("/f/out/b.ll", { text := "Load instruction" })]
    let a : Audit Unit := ⟨{ fixtureRoot := ⟨"/"⟩, outputDir := ⟨"/f/out"⟩ },
      ⟨Scripted.preflight none, Scripted.compile compilations, Scripted.analyze analyses⟩⟩
    let file : Node := { matter := .file [], mode := 0o644 }
    let w : World Unit := ⟨[["f", "a.c"], ["f", "b.c"]].foldl (fun fs l => fs.put l file)
      (({} : FileSystem).put ["f"] { matter := .directory, mode := 0o755 }), ()⟩
    let f := Fixture.make "A" "f/a.c" [("load", 0)]
    let g := Fixture.make "B" "f/b.c" [("load", 1)]
    ∃ r r', (a.run [f, g] w).1 = .ok [r, r'] ∧ (a.run [g, f] w).1 = .ok [r', r] ∧
      r.passed = false ∧ r'.passed = true ∧
      (a.run [g, f] w).2.files.undated = (a.run [f, g] w).2.files.undated := by
  intro compilations analyses a file w f g
  have hverdicts : ((a.run [f, g] w).1.toOption.map fun rs => rs.map (·.passed)) =
      some [false, true] := by decide +kernel
  have hwork : w.files.Grounded := .of_here_eq_nil rfl
  have hapart : SourcesApart a [f, g] (a.prepared w).files := by decide +kernel
  have hfiles : ArtifactsApart a [f, g] (a.prepared w).files := by decide +kernel
  have hf : ¬ (a.prepared w).files.Dangles (a.textPath f) := by decide +kernel
  have hg : ¬ (a.prepared w).files.Dangles (a.textPath g) := by decide +kernel
  have hstems : ([f, g].map (·.artifactStem)).Nodup := by decide +kernel
  obtain ⟨results, hok, hpassed⟩ := Option.map_eq_some_iff.mp hverdicts
  have hrun := toOption_eq_some_iff.mp hok
  obtain ⟨halone, hothers, hleft⟩ :=
    run_isolates (Scripted.determined none compilations analyses) hwork hrun hapart
  obtain ⟨rs, hswapped, hrs⟩ := hothers [g, f] (by simp [or_comm])
  obtain ⟨r, _, hr, hrest, rfl⟩ := List.forall₂_cons_left_iff.mp halone
  obtain ⟨r', _, hr', hnil, rfl⟩ := List.forall₂_cons_left_iff.mp hrest
  obtain rfl := List.forall₂_nil_left_iff.mp hnil
  obtain ⟨s', _, hs', hrest, rfl⟩ := List.forall₂_cons_left_iff.mp hrs
  obtain ⟨s, _, hs, hnil, rfl⟩ := List.forall₂_cons_left_iff.mp hrest
  obtain rfl := List.forall₂_nil_left_iff.mp hnil
  have hsame : s = r := (hs.2 hf).trans (hr.2 hf).symm
  have hsame' : s' = r' := (hs'.2 hg).trans (hr'.2 hg).symm
  subst hsame hsame'
  simp only [List.map_cons, List.map_nil, List.cons.injEq, and_true] at hpassed
  exact ⟨s, s', hrun, hswapped, hpassed.1, hpassed.2,
    hleft hstems hfiles [g, f] (List.Perm.swap _ _ _)⟩

/-- Links in the directory for artifacts can tie fixtures to each other.  If a text shall be stored
through a link into a directory that is missing, then the reason why it cannot be depends on whether
the directory's name was taken by another fixture.  And if two texts are stored in one file under two
names, then the last fixture decides what is in it. -/
theorem linked_artifacts_tie_fixtures :
    let analyses := [("/out/a.ll", { text := "text of a" })]
    let a : Audit Unit := ⟨{ fixtureRoot := ⟨"/"⟩, outputDir := ⟨"/out"⟩ },
      ⟨Scripted.preflight none, Scripted.compile [], Scripted.analyze analyses⟩⟩
    let file : Node := { matter := .file [], mode := 0o644 }
    let directory : Node := { matter := .directory, mode := 0o755 }
    let tree : FileSystem := [["f", "a.c"], ["f", "b.c"]].foldl (fun fs l => fs.put l file)
      ([["f"], ["out"]].foldl (fun fs l => fs.put l directory) {})
    let w : World Unit :=
      ⟨tree.put ["out", "b.output"] { matter := .link "a.ll/x", mode := 0o777 }, ()⟩
    let w' : World Unit :=
      ⟨{ tree with
        entries := (tree.entries.insert ["out", "a.output"] (.shared 0)).insert
          ["out", "b.output"] (.shared 0)
        shared := tree.shared.insert 0 file }, ()⟩
    let f := Fixture.make "A" "f/a.c" [("load", 0)]
    let g := Fixture.make "B" "f/b.c" [("load", 0)]
    Nonempty (Determined a.tools) ∧ f.artifactStem ≠ g.artifactStem ∧
    (SourcesApart a [f, g] (a.prepared w).files ∧
      ∃ r r', (a.run [f, g] w).1 = .ok [r, r'] ∧ r' ≠ (a.process g (a.prepared w)).1) ∧
    SourcesApart a [f, g] (a.prepared w').files ∧
      (∃ results, (a.run [f, g] w').1 = .ok results) ∧
      (a.run [g, f] w').2.files.undated ≠ (a.run [f, g] w').2.files.undated := by
  intro analyses a file directory tree w w' f g
  have hfailures : ((a.run [f, g] w).1.toOption.map fun rs => rs.map (·.failure)) =
      some [none, some (.artifactWrite (a.textPath g) FileError.notDirectory.message)] := by
    decide +kernel
  have halone : (a.process g (a.prepared w)).1.failure =
      some (.artifactWrite (a.textPath g) FileError.notFound.message) := by decide +kernel
  refine ⟨⟨Scripted.determined none [] analyses⟩, by decide +kernel, ⟨by decide +kernel, ?_⟩,
    by decide +kernel, ?_, fun hsame => ?_⟩
  · obtain ⟨results, hok, hreasons⟩ := Option.map_eq_some_iff.mp hfailures
    obtain ⟨r, rest, rfl, -, hrest⟩ := List.map_eq_cons_iff.mp hreasons
    obtain ⟨r', more, rfl, hr', hnil⟩ := List.map_eq_cons_iff.mp hrest
    obtain rfl := List.map_eq_nil_iff.mp hnil
    refine ⟨r, r', toOption_eq_some_iff.mp hok, fun hsame => ?_⟩
    rw [hsame, halone] at hr'
    exact absurd hr' (by decide +kernel)
  · have hok : (a.run [f, g] w').1.toOption.isSome = true := by decide +kernel
    obtain ⟨results, hresults⟩ := Option.isSome_iff_exists.mp hok
    exact ⟨results, toOption_eq_some_iff.mp hresults⟩
  · have hnode := congrArg (fun fs => fs.shared.find? 0) hsame
    revert hnode
    decide +kernel

end Audit
end HardenAudit
