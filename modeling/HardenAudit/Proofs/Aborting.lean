import HardenAudit.Proofs.Capturing
import HardenAudit.Proofs.ExitStatus
import HardenAudit.Proofs.Preparing

/-!
# What stops a whole run

Two things stop a run as a whole: tools that are not ready, and a directory for artifacts that cannot be
made.  Both come before the first fixture, so then no tool is called and nothing is stored.  The first
leaves all files as they are.  The second may leave some of the directories on the way, and nothing else.

    a directory that cannot be made leaves at most ancestors of it          (addsAncestors_makeTree)
    a run that fails touches no fixture, whatever the tools would do        (untouching_of_error)
    what a run that fails as a whole leaves at a path was there before      (spared_of_error)
-/

namespace HardenAudit

/-! ## Algorithm -/

namespace FileSystem

/-- Everything that was there is there and is found where it was found, and all that is new are
directories at proper ancestors of a path. -/
structure AddsAncestors (dir : Path) (fs fs' : FileSystem) : Prop where
  here : fs'.here = fs.here
  node : ∀ l n, fs.node? l = some n → fs'.node? l = some n
  place : ∀ p l, fs.place p = .ok l → fs'.place p = .ok l
  new : ∀ l n, fs.node? l = none → fs'.node? l = some n →
    n = fs.newDirectory ∧ ∃ p ∈ (lineage dir).tail, fs'.place p = .ok l

/-- A path leads where it led, and what stands there stood there before, or it is a new directory at a
proper ancestor of `dir`. -/
structure Spared (dir p : Path) (fs fs' : FileSystem) : Prop where
  place : ∀ l, fs.place p = .ok l → fs'.place p = .ok l
  node : ∀ l, fs'.place p = .ok l → fs'.node? l = fs.node? l ∨
    fs.node? l = none ∧ fs'.node? l = some fs.newDirectory ∧
      ∃ q ∈ (lineage dir).tail, fs'.place q = .ok l

variable {fs fs' : FileSystem}

/-- A directory that cannot be made leaves at most ancestors of it. -/
theorem addsAncestors_makeTree {dir : Path} {e : FileError} (h : fs.makeTree dir = (some e, fs')) :
    AddsAncestors dir fs fs' := by
  have hmade : Made (lineage dir).tail fs fs' := by
    have hlineage := (made_makeLineage (lineage dir) fs).2
    unfold makeTree at h
    rw [h] at hlineage
    exact hlineage (Option.some_ne_none e)
  exact ⟨hmade.keeps.here, hmade.keeps.node, hmade.leads.place, fun _ _ => hmade.new⟩

theorem AddsAncestors.spared {dir : Path} (h : AddsAncestors dir fs fs') (p : Path) :
    Spared dir p fs fs' := by
  refine ⟨h.place p, fun l _ => ?_⟩
  cases hn : fs.node? l with
  | some n => exact .inl (h.node l n hn)
  | none =>
    cases hn' : fs'.node? l with
    | none => exact .inl rfl
    | some n =>
      obtain ⟨rfl, hplace⟩ := h.new l n hn hn'
      exact .inr ⟨rfl, rfl, hplace⟩

end FileSystem

namespace Audit

variable {ρ : Type}

/-- A run touches no fixture: no tool is called, nothing is stored, and with any other compiler and
analyser everything would be the same.  So there is nothing that could keep it from returning. -/
structure Untouching (a : Audit ρ) (fixtures : List Fixture) (w : World ρ) : Prop where
  calls : (a.run fixtures w).2.calls = []
  stores : (a.run fixtures w).2.stores = []
  returns : (a.run fixtures w).2.returns = true
  rest : (a.run fixtures w).2.world.rest = w.rest
  tools : ∀ tools : Toolchain ρ, tools.preflight = a.tools.preflight →
    Audit.run ⟨a.paths, tools⟩ fixtures w = a.run fixtures w

/-- A run fails as a whole before the first fixture, or it gives one result for each fixture. -/
structure AllOrNothing (a : Audit ρ) (fixtures : List Fixture) (w : World ρ) : Prop where
  fails : (∃ e, (a.run fixtures w).1 = .error e) ↔ (∃ e, a.tools.preflight w.files = .error e) ∨
    ∃ e, (prepareOutput w.files a.paths.outputDir).1 = .error e
  unready : ∀ e, a.tools.preflight w.files = .error e →
    (a.run fixtures w).1 = .error e ∧ (a.run fixtures w).2.world = w
  unprepared : a.tools.preflight w.files = .ok () →
    ∀ e, (prepareOutput w.files a.paths.outputDir).1 = .error e →
      (a.run fixtures w).1 = .error e ∧ (∃ reason, e = .artifactWrite a.paths.outputDir reason) ∧
      FileSystem.AddsAncestors a.paths.outputDir w.files (a.run fixtures w).2.files
  untouched : ∀ e, (a.run fixtures w).1 = .error e → a.Untouching fixtures w
  results : ∀ results, (a.run fixtures w).1 = .ok results → results.length = fixtures.length ∧
    ∀ i f, fixtures[i]? = some f →
      results[i]? = some (a.process f (a.run (fixtures.take i) w).2.world).1

end Audit

namespace CommandLine

/-- The program reports in one line that its run failed as a whole, and what it leaves is what the run
left: nothing is written about fixtures, and no JSON report. -/
structure Aborted (o : Outcome) (before after : FileSystem) (dir : Path) (summary : Option Path)
    (e : Failure) : Prop where
  stdout : o.stdout = Report.banner ++ "Error: " ++ e.message ++ "\n"
  exit : o.exit = 1
  files : o.files = after
  summary : ∀ path, summary = some path → FileSystem.Spared dir path before o.files

end CommandLine

/-! ## Runs -/

namespace Audit

variable {ρ : Type} {a : Audit ρ} {fixtures : List Fixture} {w : World ρ}

theorem prepareOutput_eq_error {fs : FileSystem} {dir : Path} {e : Failure}
    (h : (prepareOutput fs dir).1 = .error e) : ∃ reason fs', fs.makeTree dir = (some reason, fs') ∧
      e = .artifactWrite dir reason.message := by
  unfold prepareOutput at h
  split at h
  · cases h
  · next reason fs' htree =>
    cases h
    exact ⟨reason, fs', htree, rfl⟩

theorem prepareOutput_of_error {fs : FileSystem} {dir : Path} {reason : FileError}
    (h : (fs.makeTree dir).1 = some reason) :
    (prepareOutput fs dir).1 = .error (.artifactWrite dir reason.message) := by
  unfold prepareOutput
  generalize fs.makeTree dir = made at h ⊢
  obtain ⟨refused, fs'⟩ := made
  cases h
  rfl

/-- What stops a run does not depend on the compiler and the analyser. -/
theorem run_of_tools {e : Failure} (h : (a.run fixtures w).1 = .error e) (tools : Toolchain ρ)
    (hready : tools.preflight = a.tools.preflight) :
    Audit.run ⟨a.paths, tools⟩ fixtures w = a.run fixtures w := by
  unfold run at h ⊢
  dsimp only
  rw [hready]
  cases hpreflight : a.tools.preflight w.files with
  | error e => rfl
  | ok =>
    rw [hpreflight] at h
    dsimp only at h ⊢
    generalize prepareOutput w.files a.paths.outputDir = prepared at h ⊢
    obtain ⟨result, fs'⟩ := prepared
    cases result with
    | error e => rfl
    | ok =>
      dsimp only at h
      generalize a.processAll fixtures _ = p at h
      cases h

theorem untouching_of_error {e : Failure} (h : (a.run fixtures w).1 = .error e) :
    a.Untouching fixtures w := by
  have htools := run_of_tools h
  cases a.run_ending fixtures w with
  | unready e ready result world calls stores returns =>
    exact ⟨calls, stores, returns, by rw [world], htools⟩
  | unprepared e fs ready prepare result world calls stores returns =>
    exact ⟨calls, stores, returns, by rw [world], htools⟩
  | processed fs ready prepare result =>
    rw [result] at h
    cases h

theorem run_eq_error_iff (a : Audit ρ) (fixtures : List Fixture) (w : World ρ) :
    (∃ e, (a.run fixtures w).1 = .error e) ↔ (∃ e, a.tools.preflight w.files = .error e) ∨
      ∃ e, (prepareOutput w.files a.paths.outputDir).1 = .error e := by
  cases a.run_ending fixtures w with
  | unready e ready result => exact ⟨fun _ => .inl ⟨e, ready⟩, fun _ => ⟨e, result⟩⟩
  | unprepared e fs ready prepare result =>
    exact ⟨fun _ => .inr ⟨_, prepareOutput_of_error (congrArg Prod.fst prepare)⟩, fun _ => ⟨_, result⟩⟩
  | processed fs ready prepare result =>
    rw [result]
    constructor
    · rintro ⟨e, h⟩
      cases h
    · rintro (⟨e, h⟩ | ⟨e, h⟩)
      · rw [ready] at h
        cases h
      · obtain ⟨reason, fs', htree, -⟩ := prepareOutput_eq_error h
        rw [prepare] at htree
        cases htree

theorem allOrNothing (a : Audit ρ) (fixtures : List Fixture) (w : World ρ) :
    a.AllOrNothing fixtures w where
  fails := a.run_eq_error_iff fixtures w
  unready e h := by
    cases a.run_ending fixtures w with
    | unready e' ready result world =>
      rw [ready, Except.error.injEq] at h
      exact ⟨h ▸ result, world⟩
    | unprepared e' fs ready => rw [ready] at h; cases h
    | processed fs ready => rw [ready] at h; cases h
  unprepared hready e h := by
    obtain ⟨reason, fs', htree, rfl⟩ := prepareOutput_eq_error h
    cases a.run_ending fixtures w with
    | unready e' ready => rw [ready] at hready; cases hready
    | unprepared e' fs ready prepare result world =>
      rw [prepare, Prod.mk.injEq, Option.some.injEq] at htree
      refine ⟨htree.1 ▸ result, ⟨_, rfl⟩, ?_⟩
      unfold Journal.files
      rw [world]
      exact FileSystem.addsAncestors_makeTree prepare
    | processed fs ready prepare => rw [prepare] at htree; cases htree
  untouched _ := untouching_of_error
  results results h := ⟨(run_results h).1, fun i f hf => ((run_results h).2 i f hf).1⟩

end Audit

/-! ## The program -/

namespace CommandLine

open Launch (Machine)

variable {ρ : Type}

/-- A run that fails as a whole spares every path. -/
theorem spared_of_error {a : Audit ρ} {fixtures : List Fixture} {w : World ρ} {e : Failure}
    (h : (a.run fixtures w).1 = .error e) (p : Path) :
    FileSystem.Spared a.paths.outputDir p w.files (a.run fixtures w).2.files := by
  have hruns := a.allOrNothing fixtures w
  cases hready : a.tools.preflight w.files with
  | error e' =>
    unfold Journal.files
    rw [(hruns.unready e' hready).2]
    exact ⟨fun _ => id, fun _ _ => .inl rfl⟩
  | ok =>
    rcases hruns.fails.mp ⟨e, h⟩ with ⟨e', hfailed⟩ | ⟨e', hfailed⟩
    · rw [hready] at hfailed
      cases hfailed
    · exact (hruns.unprepared hready e' hfailed).2.2.spared p

/-! ## Top theorem -/

/-- **A run that fails as a whole touches no fixture**, and nothing else than the tools not being ready
or the directory for artifacts not being made lets it fail so.  The program then prints one line, ends
with one, and leaves the path for the JSON report alone. -/
theorem run_fails_before_fixtures :
    (∀ (a : Audit ρ) fixtures w, a.AllOrNothing fixtures w) ∧
    ∀ (machine : Machine ρ) args w i settings log e, parse args = .ok i → i.verb = .run →
      Settings.resolve w.files (i.options.config.map Path.mk) = (.ok settings, log) →
      ((auditOf machine settings).run Fixture.registry w).1 = .error e →
      ∃ o, execute machine args w = some o ∧ Aborted o w.files
        ((auditOf machine settings).run Fixture.registry w).2.files settings.paths.outputDir
        (i.options.summaryJson.map Path.mk) e := by
  refine ⟨fun a => a.allOrNothing, fun machine args w i settings log e hparse hverb hresolve h => ?_⟩
  obtain ⟨stderr, hexecute⟩ := execute_of_ok machine hparse hverb hresolve
  rw [(Audit.untouching_of_error h).returns, if_pos rfl, h] at hexecute
  exact ⟨_, hexecute, rfl, rfl, rfl, fun path _ => spared_of_error h path⟩

/-- A file stands where the directory for artifacts shall be made. -/
theorem run_fails_before_fixtures_file_in_the_way :
    let file : Node := { matter := .file [], mode := 0o644 }
    let directory : Node := { matter := .directory, mode := 0o755 }
    let directories : FileSystem :=
      [["w"], ["w", "build"]].foldl (fun fs l => fs.put l directory) { here := ["w"] }
    let files := [["w", "build", "FIHardeningPass.so"], ["w", "test_results"]].foldl
      (fun fs l => fs.put l file) directories
    let machine : Machine Unit := ⟨fun _ _ _ => .error .notFound⟩
    ∃ o, execute machine ["--summary-json", "s.json"] ⟨files, ()⟩ = some o ∧
    o.stdout = Report.banner ++ "Error: Failed to write ./test_results: File exists (os error 17)\n" ∧
    o.exit = 1 ∧ FileSystem.Spared ⟨"./test_results"⟩ ⟨"s.json"⟩ files o.files := by
  intro file directory directories files machine
  have hplugin : files.pathExists ⟨"./build/FIHardeningPass.so"⟩ = true := by decide +kernel
  have hrefused : (files.makeTree ⟨"./test_results"⟩).1 = some .alreadyExists := by decide +kernel
  have hruns := run_fails_before_fixtures.1 (auditOf machine {}) Fixture.registry ⟨files, ()⟩
  have hfailed := (hruns.unprepared ((ready_iff machine {} files).mpr hplugin) _
    (Audit.prepareOutput_of_error hrefused)).1
  obtain ⟨o, hexecute, haborted⟩ :=
    run_fails_before_fixtures.2 machine ["--summary-json", "s.json"] ⟨files, ()⟩
      { options := { summaryJson := some "s.json" } } {} _ _ rfl rfl rfl hfailed
  exact ⟨o, hexecute, haborted.stdout.trans (by decide +kernel), haborted.exit,
    haborted.summary ⟨"s.json"⟩ rfl⟩

/-- The path for the JSON report can itself be a directory that is made on the way. -/
theorem summary_path_made :
    let config := "\x7b\"toolchain\":\x7b\"plugin_path\":\"c.json\"\x7d," ++
      "\"paths\":\x7b\"output_dir\":\"a/../c.json/x\"\x7d\x7d"
    let directory : Node := { matter := .directory, mode := 0o755 }
    let files := (FileSystem.put { here := ["w"] } ["w"] directory).put ["w", "c.json"]
      { matter := .file (Text.Utf8.encode config), mode := 0o644 }
    let machine : Machine Unit := ⟨fun _ _ _ => .error .notFound⟩
    let o? := execute machine ["--config", "c.json", "--summary-json", "a"] ⟨files, ()⟩
    o?.map (·.stdout) =
      some (Report.banner ++ "Error: Failed to write a/../c.json/x: File exists (os error 17)\n") ∧
    files.seen? ⟨"a"⟩ = none ∧ o?.map (·.files.isDirectory ⟨"a"⟩) = some true := by
  decide +kernel

end CommandLine
end HardenAudit
