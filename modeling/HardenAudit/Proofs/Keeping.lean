import HardenAudit.Proofs.Isolation
import HardenAudit.Proofs.Rewriting

/-!
# What the files for artifacts hold after a run

Several fixtures may have one stem, and then their texts go to one file.  A run leaves the last text that
was stored there, and as long as none was stored it leaves the file alone; artifacts are other files.
This needs that different names of the directory stand for different files.  They do, unless somebody
has linked them.

    an artifact and a text, and texts of two stems, are two files     (not_sameFile_storedPath)
    processing a fixture keeps every file but its own                 (process_keeps)
    fixtures one after the other keep every file but their own        (processAll_keeps)
    a text is kept if all fixtures behind it spare it                 (textKept_of_spared)
-/

namespace HardenAudit

open Text (Bytes Utf8.encode)
open FileSystem (Extends)

variable {ρ : Type}

/-! ## Algorithm -/

/-- The compiler writes at most to the output path that it is given, and the analyser writes nothing. -/
structure Tidy (tools : Toolchain ρ) : Prop where
  compile : ∀ source output (w : World ρ),
    w.files.Rewrites output (tools.compile source output w).world.files
  analyze : ∀ artifact (w : World ρ), ∃ time,
    (tools.analyze artifact w).world.files = { w.files with time := time }

/-- Scripted tools are tidy. -/
theorem Scripted.tidy (ready : Option Failure) (compilations : List (String × Scripted.Compilation))
    (analyses : List (String × Scripted.Analysis)) :
    Tidy (ρ := ρ) ⟨Scripted.preflight ready, Scripted.compile compilations,
      Scripted.analyze analyses⟩ where
  compile source output w := by
    unfold Scripted.compile
    dsimp only
    cases ((compilations.lookup source.text).getD {}).failure with
    | some e => exact .refl
    | none => exact .write .refl _
  analyze artifact w := by
    unfold Scripted.analyze
    dsimp only
    cases ((analyses.lookup artifact.text).getD {}).failure with
    | some e => exact ⟨w.files.time, rfl⟩
    | none => exact ⟨w.files.time, rfl⟩

/-- The stem of the fixture has no slash in it; only one that is taken from its name can have one. -/
def Fixture.Plain (f : Fixture) : Prop := '/' ∉ f.artifactStem.toList

instance (f : Fixture) : Decidable f.Plain := inferInstanceAs (Decidable ('/' ∉ _))

namespace Audit

/-- Links do not lead from a file that is written for a fixture to the text of a fixture that is stored
under another name, or back. -/
def LinksApart (a : Audit ρ) (fixtures : List Fixture) (fs : FileSystem) : Prop :=
  ∀ f ∈ fixtures, f.Plain → ∀ g ∈ fixtures, g.Plain → ∀ p ∈ a.artifacts g, p ≠ a.textPath f →
    fs.Apart (a.textPath f) p

instance (a : Audit ρ) (fixtures : List Fixture) (fs : FileSystem) :
    Decidable (LinksApart a fixtures fs) :=
  inferInstanceAs (Decidable (∀ f ∈ fixtures, f.Plain → ∀ g ∈ fixtures, g.Plain →
    ∀ p ∈ a.artifacts g, p ≠ a.textPath f → fs.Apart (a.textPath f) p))

/-- The text of a fixture, which is processed after others, was stored: the tools gave it, it is counted
in the result, and in the end its file holds it. -/
structure TextKept (a : Audit ρ) (w : World ρ) (others : List Fixture) (f : Fixture)
    (r : FixtureResult) (start final : FileSystem) (text : String) : Prop where
  path : r.diagnosticsPath = some (a.textPath f)
  captured : (a.captured f (a.run others w).2.world).1 = .ok text
  counts : r.counts = Counts.count text f.expected.keys
  holds : FileSystem.Holds start final (a.textPath f) text

/-- What the files for artifacts hold after a run from `w` that had prepared the directory in `start`. -/
structure Left (a : Audit ρ) (fixtures : List Fixture) (results : List FixtureResult) (w : World ρ)
    (start final : FileSystem) : Prop where
  /-- For each stem under which a text was stored, its file holds the text of the last fixture with this
  stem whose text was stored. -/
  last : ∀ stem, (∃ x ∈ fixtures.zip results, x.1.artifactStem = stem ∧ x.2.diagnosticsPath ≠ none) →
    ∃ before f r after text, fixtures.zip results = before ++ (f, r) :: after ∧
      f.artifactStem = stem ∧
      (∀ x ∈ after, x.1.artifactStem = stem → x.2.diagnosticsPath = none) ∧
      a.TextKept w (before.map (·.1)) f r start final text
  /-- If no text was stored under a stem, then its file is as it was when the directory was prepared; and
  if it was there before the run, then it is as it was then. -/
  failed : ∀ f ∈ fixtures, f.Plain → (∀ x ∈ fixtures.zip results,
      x.1.artifactStem = f.artifactStem → x.2.diagnosticsPath = none) →
    final.seen? (a.textPath f) = start.seen? (a.textPath f) ∧
    ∀ n, w.files.seen? (a.textPath f) = some n → final.seen? (a.textPath f) = some n
  /-- What the tools do for a fixture, after whatever others, changes no file in which the text of a stem
  is stored. -/
  tools : ∀ others f (stem : String), '/' ∉ stem.toList →
    start.Apart (storedPath a.paths.outputDir stem) (a.output f) →
    (a.captured f (a.run others w).2.world).2.files.seen? (storedPath a.paths.outputDir stem) =
      (a.run others w).2.files.seen? (storedPath a.paths.outputDir stem)
  /-- Everything that was there before is as it was, unless it is a file that is written for a fixture. -/
  others : ∀ q n, w.files.seen? q = some n →
    (∀ f ∈ fixtures, f.Plain → ∀ p ∈ a.artifacts f, ¬ start.SameFile q p) → final.seen? q = some n
  /-- If no two fixtures have one stem, then every text that was stored is there. -/
  distinct : (fixtures.map (·.artifactStem)).Nodup →
    ∀ before f r after, fixtures.zip results = before ++ (f, r) :: after →
      r.diagnosticsPath ≠ none →
      ∃ text, a.TextKept w (before.map (·.1)) f r start final text

variable {a : Audit ρ} {f g : Fixture} {fixtures : List Fixture} {w : World ρ} {fs start : FileSystem}

theorem exists_entryName (hf : f.Plain) {p : Path} (hp : p ∈ a.artifacts f) :
    ∃ name, Path.EntryName name ∧ p = a.paths.outputDir.join ⟨name⟩ := by
  unfold artifacts at hp
  rcases List.mem_cons.mp hp with rfl | hp
  · exact ⟨f.artifactStem ++ ".ll", .of_append hf (by decide) (by decide), by rw [output]⟩
  · rw [List.mem_singleton] at hp
    exact ⟨f.artifactStem ++ ".output", .of_append hf (by decide) (by decide),
      by rw [hp, textPath, storedPath]⟩

/-- The text of a fixture with another stem is stored under another name. -/
theorem textPath_ne (hf : f.Plain) (hg : g.Plain) (hne : g.artifactStem ≠ f.artifactStem) :
    a.textPath g ≠ a.textPath f := by
  intro hsame
  have hslash : ∀ f : Fixture, f.Plain → '/' ∉ (f.artifactStem ++ ".output").toList :=
    fun f hf => (Path.EntryName.of_append hf (by decide) (by decide)).slash
  unfold textPath storedPath at hsame
  have hnames := Path.join_inj (hslash g hg) (hslash f hf) hsame
  exact hne ((String.append_left_inj _).mp hnames)

/-- An artifact has another name than a text. -/
theorem output_ne_storedPath (hg : g.Plain) {stem : String} (hstem : '/' ∉ stem.toList) :
    a.output g ≠ storedPath a.paths.outputDir stem := by
  intro hsame
  unfold output storedPath at hsame
  refine append_ll_ne_append_output _ _ (Path.join_inj ?_ ?_ hsame)
  · exact (Path.EntryName.of_append hg (by decide) (by decide)).slash
  · exact (Path.EntryName.of_append hstem (by decide) (by decide)).slash

/-- What is written for a fixture under another name than that of a text is another file. -/
theorem not_sameFile_storedPath (hfs : fs.Grounded)
    (hdir : a.paths.outputDir.text = "" ∨ fs.isDirectory a.paths.outputDir = true) {stem : String}
    (hstem : '/' ∉ stem.toList) (hg : g.Plain) {p : Path} (hp : p ∈ a.artifacts g)
    (hne : p ≠ storedPath a.paths.outputDir stem)
    (hapart : fs.Apart (storedPath a.paths.outputDir stem) p) :
    ¬ fs.SameFile (storedPath a.paths.outputDir stem) p := by
  by_cases hlinked : fs.linked (storedPath a.paths.outputDir stem) = true ∨ fs.linked p = true
  · exact hapart hlinked
  obtain ⟨hstored, hp'⟩ := not_or.mp hlinked
  obtain ⟨other, hother, rfl⟩ := exists_entryName hg hp
  have hname : Path.EntryName (stem ++ ".output") := .of_append hstem (by decide) (by decide)
  unfold storedPath at hne hstored ⊢
  exact FileSystem.not_sameFile_join hfs hdir hname hother (fun hsame => hne (by rw [hsame]))
    (by simpa using hstored) (by simpa using hp')

/-! ## One fixture -/

/-- Until a text is stored, the tools write to the output path of the fixture only. -/
theorem captured_rewrites (htools : Tidy a.tools) (f : Fixture) (w : World ρ) :
    w.files.Rewrites (a.output f) (a.captured f w).2.files := by
  have hcompile := htools.compile (a.source f) (a.output f) w
  unfold captured
  split
  · exact .refl
  dsimp only
  split
  · exact hcompile
  · next artifact _ =>
    obtain ⟨time, hanalyze⟩ := htools.analyze artifact
      (a.tools.compile (a.source f) (a.output f) w).world
    dsimp only
    rw [hanalyze]
    exact .wait hcompile time

/-- A fixture whose source can be read has a stem without a slash. -/
theorem plain_of_readable (hfs : w.files.Grounded)
    (hread : w.files.isReadable (a.source f) = true) : f.Plain := by
  obtain ⟨stem, hstem⟩ := FileSystem.stem_of_readable hfs hread
  unfold Fixture.Plain
  rw [artifactStem_eq hstem]
  exact Path.slash_not_mem_stem hstem

/-- A path does not lead to a file that is written for the fixture. -/
structure Spares (a : Audit ρ) (start : FileSystem) (q : Path) (f : Fixture) (r : FixtureResult) :
    Prop where
  output : ¬ start.SameFile q (a.output f)
  text : r.diagnosticsPath ≠ none → ¬ start.SameFile q (a.textPath f)

/-- Processing a fixture keeps every file but its own. -/
theorem process_keeps (htools : Tidy a.tools) (hstart : start.Grounded)
    (hw : Extends start w.files) (f : Fixture) : Extends start (a.process f w).2.files ∧
      ∀ q, (f.Plain → a.Spares start q f (a.process f w).1) →
        (a.process f w).2.files.seen? q = w.files.seen? q := by
  have hground := hstart.grows hw.grows
  cases hread : w.files.isReadable (a.source f) with
  | false =>
    have hworld := (process_of_unreadable hread).2.2
    unfold Journal.files
    rw [hworld]
    exact ⟨hw, fun _ _ => rfl⟩
  | true =>
    have hplain := plain_of_readable hground hread
    have htool := captured_rewrites htools f w
    have hmore := htool.extend hground
    have hleft : ∀ q, a.Spares start q f (a.process f w).1 →
        (a.captured f w).2.files.seen? q = w.files.seen? q :=
      fun q hq => htool.seen? hground (mt (hw.sameFile_iff q _).mp hq.output)
    rcases a.files_process_cases f w with ⟨-, hfiles⟩ | ⟨hpath, text, -, -, hwrite⟩
    · rw [hfiles]
      exact ⟨hw.trans hmore, fun q hq => hleft q (hq hplain)⟩
    · have hfiles : (a.process f w).2.files =
          (a.captured f w).2.files.overwritten (a.textPath f) (Utf8.encode text) := by
        unfold FileSystem.overwritten
        rw [hwrite]
      have hground' := hground.grows hmore.grows
      rw [hfiles]
      refine ⟨(hw.trans hmore).trans (FileSystem.extends_overwritten hground' _ _), fun q hq => ?_⟩
      have hother := (hq hplain).text (by rw [hpath]; exact Option.some_ne_none _)
      rw [FileSystem.seen?_overwritten hground'
        (mt ((hw.trans hmore).sameFile_iff q _).mp hother), hleft q (hq hplain)]

/-! ## Fixtures one after the other -/

/-- Fixtures keep every file but their own. -/
theorem processAll_keeps (htools : Tidy a.tools) (hstart : start.Grounded) (l : List Fixture) :
    ∀ {w : World ρ}, Extends start w.files → Extends start (a.processAll l w).2.world.files ∧
      ∀ q, (∀ x ∈ l.zip (a.processAll l w).1, x.1.Plain → a.Spares start q x.1 x.2) →
        (a.processAll l w).2.world.files.seen? q = w.files.seen? q := by
  induction l with
  | nil => exact fun hw => ⟨hw, fun _ _ => rfl⟩
  | cons f rest ih =>
    intro w hw
    obtain ⟨hfirst, hkept⟩ := process_keeps htools hstart hw f
    obtain ⟨hall, hkeptall⟩ := ih hfirst
    obtain ⟨hresults, hworld⟩ := a.processAll_cons f rest w
    rw [hresults, hworld]
    refine ⟨hall, fun q hq => ?_⟩
    rw [List.zip_cons_cons] at hq
    obtain ⟨hqf, hqrest⟩ := List.forall_mem_cons.mp hq
    dsimp only at hqf
    rw [hkeptall q hqrest]
    exact hkept q hqf

/-! ## Whole runs -/

/-- Among the elements with a property there is a last one. -/
theorem exists_last {α : Type} {P : α → Prop} (l : List α) (h : ∃ x ∈ l, P x) :
    ∃ before x after, l = before ++ x :: after ∧ P x ∧ ∀ y ∈ after, ¬ P y := by
  induction l with
  | nil =>
    obtain ⟨x, hx, -⟩ := h
    cases hx
  | cons y rest ih =>
    by_cases hrest : ∃ x ∈ rest, P x
    · obtain ⟨before, x, after, rfl, hx, hafter⟩ := ih hrest
      exact ⟨y :: before, x, after, rfl, hx, hafter⟩
    · refine ⟨[], y, rest, rfl, ?_, fun x hx hPx => hrest ⟨x, hx, hPx⟩⟩
      obtain ⟨x, hx, hPx⟩ := h
      rcases List.mem_cons.mp hx with rfl | hx
      · exact hPx
      · exact absurd ⟨x, hx, hPx⟩ hrest

/-- The tools make no text of a source that cannot be read. -/
theorem captured_of_unreadable (h : w.files.isReadable (a.source f) = false) :
    a.captured f w = (.error (.missingSource (a.source f)), w) := by
  unfold captured checkSource
  rw [h, if_neg Bool.false_ne_true]

/-- A fixture whose text was stored has a stem without a slash. -/
theorem plain_of_stored (hfs : w.files.Grounded) (h : (a.process f w).1.diagnosticsPath ≠ none) :
    f.Plain := by
  cases hread : w.files.isReadable (a.source f) with
  | true => exact plain_of_readable hfs hread
  | false =>
    rcases a.files_process_cases f w with ⟨hnone, -⟩ | ⟨-, text, htext, -⟩
    · exact absurd hnone h
    · rw [captured_of_unreadable hread] at htext
      cases htext

section Run

variable {results : List FixtureResult} {r : FixtureResult}
  {before after : List (Fixture × FixtureResult)}

/-- A fixture under whose stem no text is stored spares the texts of that stem. -/
theorem spares_textPath (hfs : fs.Grounded)
    (hdir : a.paths.outputDir.text = "" ∨ fs.isDirectory a.paths.outputDir = true)
    (hlinks : LinksApart a fixtures fs) (hf : f ∈ fixtures) (hplain : f.Plain) (hg : g ∈ fixtures)
    (hplain' : g.Plain) (hstem : g.artifactStem = f.artifactStem → r.diagnosticsPath = none) :
    a.Spares fs (a.textPath f) g r := by
  have hother : ∀ p ∈ a.artifacts g, p ≠ a.textPath f → ¬ fs.SameFile (a.textPath f) p :=
    fun p hp hne => not_sameFile_storedPath hfs hdir hplain hplain' hp hne
      (hlinks f hf hplain g hg hplain' p hp hne)
  refine ⟨hother _ List.mem_cons_self (output_ne_storedPath hplain' hplain), fun hstored => ?_⟩
  exact hother _ (List.mem_cons_of_mem _ List.mem_cons_self)
    (textPath_ne hplain hplain' (mt hstem hstored))

/-- A fixture of a run is processed in the world that a run of the fixtures before it leaves. -/
theorem run_split (hrun : (a.run fixtures w).1 = .ok results)
    (hsplit : fixtures.zip results = before ++ (f, r) :: after) :
    let world := (a.run (before.map (·.1)) w).2.world
    fixtures = before.map (·.1) ++ f :: after.map (·.1) ∧ r = (a.process f world).1 ∧
    after = (after.map (·.1)).zip (a.processAll (after.map (·.1)) (a.process f world).2.world).1 ∧
    (a.run fixtures w).2.world =
      (a.processAll (after.map (·.1)) (a.process f world).2.world).2.world := by
  intro world
  obtain ⟨-, hruns⟩ := run_prepared hrun
  have hworld : world = (a.processAll (before.map (·.1)) (a.prepared w)).2.world := (hruns _).2
  obtain ⟨hall, hend⟩ := hruns fixtures
  rw [hrun, Except.ok.injEq] at hall
  subst hall
  obtain ⟨hfixtures, hr, hafter, hlast⟩ := processAll_split hsplit
  rw [hworld, hend]
  refine ⟨hfixtures, hr, ?_, hlast⟩
  rw [← hafter]
  exact List.zip_of_prod rfl rfl

/-- What a run is about to process and what it starts from goes on while fixtures are processed. -/
theorem run_extends (htools : Tidy a.tools) (hwork : w.files.Grounded)
    (hrun : (a.run fixtures w).1 = .ok results) (others : List Fixture) :
    Extends (a.prepared w).files (a.run others w).2.world.files := by
  rw [((run_prepared hrun).2 others).2]
  exact (processAll_keeps htools (prepared_spec hwork hrun).1 others (.refl _)).1

/-- What every fixture of a run spares is as it was when the directory was prepared. -/
theorem run_keeps (htools : Tidy a.tools) (hwork : w.files.Grounded)
    (hrun : (a.run fixtures w).1 = .ok results) {q : Path}
    (hq : ∀ x ∈ fixtures.zip results, x.1.Plain → a.Spares (a.prepared w).files q x.1 x.2) :
    (a.run fixtures w).2.files.seen? q = (a.prepared w).files.seen? q := by
  obtain ⟨hresults, hworld⟩ := (run_prepared hrun).2 fixtures
  rw [hrun, Except.ok.injEq] at hresults
  unfold Journal.files
  rw [hworld]
  refine (processAll_keeps htools (prepared_spec hwork hrun).1 fixtures (.refl _)).2 q ?_
  rwa [← hresults]

/-- What was there before a run is there when the directory was prepared. -/
theorem seen?_prepared (hwork : w.files.Grounded) (hrun : (a.run fixtures w).1 = .ok results)
    {q : Path} {n : Node} (hn : w.files.seen? q = some n) :
    (a.prepared w).files.seen? q = some n := by
  have hmade := w.files.made_makeTree a.paths.outputDir
  rw [(run_prepared hrun).1] at hmade
  exact hmade.leads.seen? hmade.keeps hwork hn

/-- A fixture of a run whose text was stored has a stem without a slash. -/
theorem plain_of_split (htools : Tidy a.tools) (hwork : w.files.Grounded)
    (hrun : (a.run fixtures w).1 = .ok results)
    (hsplit : fixtures.zip results = before ++ (f, r) :: after) (hstored : r.diagnosticsPath ≠ none) :
    f.Plain := by
  obtain ⟨-, hr, -, -⟩ := run_split hrun hsplit
  rw [hr] at hstored
  have hworld := run_extends htools hwork hrun (before.map (·.1))
  exact plain_of_stored ((prepared_spec hwork hrun).1.grows hworld.grows) hstored

theorem mem_of_mem_zip {x : Fixture × FixtureResult} (hx : x ∈ fixtures.zip results) :
    x.1 ∈ fixtures := (List.of_mem_zip (b := x.2) hx).1

theorem mem_of_split {x : Fixture × FixtureResult}
    (hsplit : fixtures.zip results = before ++ (f, r) :: after) (hx : x ∈ (f, r) :: after) :
    x.1 ∈ fixtures := by
  have hmem : x ∈ fixtures.zip results := by
    rw [hsplit]
    exact List.mem_append_right _ hx
  exact mem_of_mem_zip hmem

/-- A text that was stored is kept if it is spared by all fixtures that are processed later. -/
theorem textKept_of_spared (htools : Tidy a.tools) (hwork : w.files.Grounded)
    (hrun : (a.run fixtures w).1 = .ok results)
    (hsplit : fixtures.zip results = before ++ (f, r) :: after) (hstored : r.diagnosticsPath ≠ none)
    (hafter : ∀ x ∈ after, x.1.Plain → a.Spares (a.prepared w).files (a.textPath f) x.1 x.2) :
    ∃ text, a.TextKept w (before.map (·.1)) f r (a.prepared w).files (a.run fixtures w).2.files text := by
  obtain ⟨-, hr, hrest, hend⟩ := run_split hrun hsplit
  have hstart := (prepared_spec hwork hrun).1
  have hworld := run_extends htools hwork hrun (before.map (·.1))
  generalize hw' : (a.run (before.map (·.1)) w).2.world = world at hr hrest hend hworld
  obtain ⟨hnext, -⟩ := process_keeps htools hstart hworld f
  rcases a.files_process_cases f world with ⟨hnone, -⟩ | ⟨hpath, text, htext, hcounts, hwrite⟩
  · rw [← hr] at hnone
    exact absurd hnone hstored
  rw [← hr] at hpath hcounts
  have hground := hstart.grows hworld.grows
  have htool := hworld.trans ((captured_rewrites htools f world).extend hground)
  have hkept := (processAll_keeps htools hstart (after.map (·.1)) hnext).2 (a.textPath f)
    (by rw [← hrest]; exact hafter)
  refine ⟨text, hpath, by rw [hw']; exact htext, hcounts, ?_⟩
  rcases FileSystem.content?_written hstart htool hwrite with hcontent | hdevice
  · left
    unfold Journal.files at hcontent ⊢
    rw [FileSystem.content?_eq, hend, hkept, ← FileSystem.content?_eq]
    exact hcontent
  · exact .inr hdevice

end Run

/-! ## Top theorem -/

/-- **After a run the files for artifacts hold what was stored last.**  If the tools are tidy and linked
names are kept apart, then the file of a stem holds the text of the last fixture with this stem whose
text was stored; if there is none, the file is as it was; artifacts of the compiler never are such a
file; and every other file is as it was.  So if no stem occurs twice, then every result leads to the text
that its counts were taken from. -/
theorem run_leaves (htools : Tidy a.tools) {results : List FixtureResult} (hwork : w.files.Grounded)
    (hrun : (a.run fixtures w).1 = .ok results)
    (hlinks : LinksApart a fixtures (a.prepared w).files) :
    a.Left fixtures results w (a.prepared w).files (a.run fixtures w).2.files := by
  obtain ⟨hstart, hdir⟩ := prepared_spec hwork hrun
  constructor
  case last =>
    intro stem hstem
    obtain ⟨before, ⟨f, r⟩, after, hsplit, ⟨rfl, hstored⟩, hafter⟩ := exists_last _ hstem
    dsimp only at hstored hafter
    have hlast : ∀ x ∈ after, x.1.artifactStem = f.artifactStem → x.2.diagnosticsPath = none :=
      fun x hx hsame => by_contra fun hne => hafter x hx ⟨hsame, hne⟩
    obtain ⟨text, hkept⟩ := textKept_of_spared htools hwork hrun hsplit hstored fun x hx hplain =>
      spares_textPath hstart hdir hlinks (mem_of_split hsplit List.mem_cons_self)
        (plain_of_split htools hwork hrun hsplit hstored)
        (mem_of_split hsplit (List.mem_cons_of_mem _ hx)) hplain (hlast x hx)
    exact ⟨before, f, r, after, text, hsplit, rfl, hlast, hkept⟩
  case failed =>
    intro f hf hplain hnone
    have hsame := run_keeps htools hwork hrun fun x hx hplain' =>
      spares_textPath hstart hdir hlinks hf hplain (mem_of_mem_zip hx) hplain' (hnone x hx)
    exact ⟨hsame, fun n hn => hsame.trans (seen?_prepared hwork hrun hn)⟩
  case tools =>
    intro others f stem hstem hapart
    have hworld := run_extends htools hwork hrun others
    unfold Journal.files
    generalize (a.run others w).2.world = world at hworld ⊢
    have hground := hstart.grows hworld.grows
    cases hread : world.files.isReadable (a.source f) with
    | false => rw [captured_of_unreadable hread]
    | true =>
      have hplain := plain_of_readable hground hread
      have hother := not_sameFile_storedPath hstart hdir hstem hplain List.mem_cons_self
        (output_ne_storedPath hplain hstem) hapart
      exact (captured_rewrites htools f world).seen? hground
        (mt (hworld.sameFile_iff _ _).mp hother)
  case others =>
    intro q n hn hspared
    have hsame := run_keeps htools hwork hrun fun x hx hplain => by
      have hpaths := hspared x.1 (mem_of_mem_zip hx) hplain
      exact ⟨hpaths _ List.mem_cons_self,
        fun _ => hpaths _ (List.mem_cons_of_mem _ List.mem_cons_self)⟩
    rw [hsame, seen?_prepared hwork hrun hn]
  case distinct =>
    intro hnodup before f r after hsplit hstored
    refine textKept_of_spared htools hwork hrun hsplit hstored fun x hx hplain => ?_
    refine spares_textPath hstart hdir hlinks (mem_of_split hsplit List.mem_cons_self)
      (plain_of_split htools hwork hrun hsplit hstored)
      (mem_of_split hsplit (List.mem_cons_of_mem _ hx)) hplain fun hsame => ?_
    -- a later fixture has another stem
    rw [(run_split hrun hsplit).1, List.map_append, List.map_cons] at hnodup
    obtain ⟨hnot, -⟩ := List.nodup_cons.mp (List.nodup_append.mp hnodup).2.1
    refine absurd ?_ hnot
    rw [← hsame]
    exact List.mem_map_of_mem (List.mem_map_of_mem hx)

/-- The first of two fixtures with one stem stores the longer text: in the end the file holds just the
text of the second one. -/
theorem run_leaves_shared_stem :
    let compilations := [("/f/x.c", { artifact := some ⟨"/f/x.c"⟩ })]
    let analyses := [("/f/x.c", { text := "Load instruction" }), ("/f/out/x.ll", { text := "-" })]
    let a : Audit Unit := ⟨{ fixtureRoot := ⟨"/"⟩, outputDir := ⟨"/f/out"⟩ },
      ⟨Scripted.preflight none, Scripted.compile compilations, Scripted.analyze analyses⟩⟩
    let file : Node := { matter := .file [], mode := 0o644 }
    let directory : Node := { matter := .directory, mode := 0o755 }
    let w : World Unit := ⟨[["f", "x.c"], ["g", "x.c"]].foldl (fun fs l => fs.put l file)
      ([["f"], ["g"]].foldl (fun fs l => fs.put l directory) {}), ()⟩
    let fixtures := [Fixture.make "A" "f/x.c" [("load", 1)], Fixture.make "B" "g/x.c" [],
      Fixture.make "C" "g/none.c" []]
    ∃ results, (a.run fixtures w).1 = .ok results ∧
      a.Left fixtures results w (a.prepared w).files (a.run fixtures w).2.files ∧
      (a.run fixtures w).2.files.content? ⟨"/f/out/x.output"⟩ = some (Utf8.encode "-") := by
  intro compilations analyses a file directory w fixtures
  have hok : (a.run fixtures w).1.toOption.isSome = true := by decide +kernel
  have hwork : w.files.Grounded := .of_here_eq_nil rfl
  have hlinks : LinksApart a fixtures (a.prepared w).files := by decide +kernel
  obtain ⟨results, hresults⟩ := Option.isSome_iff_exists.mp hok
  have hrun := toOption_eq_some_iff.mp hresults
  exact ⟨results, hrun, run_leaves (Scripted.tidy none compilations analyses) hwork hrun hlinks,
    by decide +kernel⟩

/-- The files for artifacts can be left in another state.  A directory that is made on the way to the
directory for artifacts can have the name of a text.  An artifact that is a link can lead to the text of
a fixture that stores none.  A device keeps no text.  And a stem with a slash can lead to the text of
another fixture. -/
theorem texts_lost_or_changed :
    let analyses := [("/out/a.ll", { text := "text of a" })]
    let audit (dir : String) : Audit Unit := ⟨{ fixtureRoot := ⟨"/"⟩, outputDir := ⟨dir⟩ },
      ⟨Scripted.preflight none, Scripted.compile [], Scripted.analyze analyses⟩⟩
    let file : Node := { matter := .file [], mode := 0o644 }
    let link (target : String) : Node := { matter := .link target, mode := 0o777 }
    let directory : Node := { matter := .directory, mode := 0o755 }
    let directories : FileSystem :=
      [["dev"], ["f"], ["out"]].foldl (fun fs l => fs.put l directory) {}
    let tree := directories.put ["f", "a.c"] file
    let w : World Unit := ⟨tree, ()⟩
    let linked : World Unit :=
      ⟨(tree.put ["out", "a.ll"] (link "b.output")).put ["out", "b.output"] file, ()⟩
    let device : World Unit := ⟨(tree.put ["dev", "null"] { matter := .device, mode := 0o666 }).put
      ["out", "a.output"] (link "/dev/null"), ()⟩
    let f := Fixture.make "A" "f/a.c" []
    let g := Fixture.make "B" "f/b.c" []
    let h := Fixture.make "./a" ".." []
    let stored (a : Audit Unit) (fixtures : List Fixture) (w : World Unit) : Option (List Bool) :=
      (a.run fixtures w).1.toOption.map fun rs => rs.map (·.diagnosticsPath.isSome)
    (∀ dir, Tidy (audit dir).tools) ∧
    (stored (audit "/out/b.output/..") [g] w = some [false] ∧
      w.files.seen? ⟨"/out/b.output/../b.output"⟩ = none ∧
      ((audit "/out/b.output/..").run [g] w).2.files.seen? ⟨"/out/b.output/../b.output"⟩ ≠ none) ∧
    (stored (audit "/out") [f, g] linked = some [true, false] ∧
      ((audit "/out").run [f, g] linked).2.files.seen? ⟨"/out/b.output"⟩ ≠
        linked.files.seen? ⟨"/out/b.output"⟩) ∧
    (stored (audit "/out") [f] device = some [true] ∧
      ((audit "/out").run [f] device).2.files.content? ⟨"/out/a.output"⟩ ≠
        some (Utf8.encode "text of a")) ∧
    stored (audit "/out") [f, h] w = some [true, false] ∧ h.artifactStem = "./a" ∧
      ((audit "/out").run [f, h] w).2.files.seen? ⟨"/out/./a.output"⟩ ≠
        w.files.seen? ⟨"/out/./a.output"⟩ := by
  intro analyses audit file link directory directories tree w linked device f g h stored
  refine ⟨fun dir => Scripted.tidy none [] analyses, ?_, ?_, ?_, ?_⟩
  · decide +kernel
  · decide +kernel
  · decide +kernel
  · decide +kernel

end Audit
end HardenAudit
