import HardenAudit.Proofs.Isolation
import HardenAudit.Report

/-!
# Running again

A run makes the directory for artifacts and writes files into it, and the next run starts from what is
left.  There the directory is not made again, every source can be read as before, and every text
lands where it landed before.  So the same files are written again, and writing them once more in the
same order changes nothing.

    results that agree with those from one start                  (getElem?_of_alone)
    a run from a world in which the directory is there            (run_prepared_again)
-/

namespace HardenAudit

variable {ρ : Type}

theorem Summary.ofResults_congr {results others : List FixtureResult}
    (h : results.map (·.passed) = others.map (·.passed)) :
    Summary.ofResults results = Summary.ofResults others := by
  have hfold : ∀ (rs : List FixtureResult) (s : Summary), rs.foldl Summary.add s =
      (rs.map (·.passed)).foldl (fun s passed => ⟨s.passed + if passed then 1 else 0,
        s.failed + if passed then 0 else 1, s.total + 1⟩) s := by
    intro rs
    induction rs with
    | nil => exact fun _ => rfl
    | cons r rest ih => exact fun s => ih (s.add r)
  unfold ofResults
  rw [hfold, hfold, h]

namespace Audit

variable {a : Audit ρ} {fixtures : List Fixture} {w w' start : World ρ}

/-! ## Results from one start -/

variable {l : List Fixture} {results others : List FixtureResult}

theorem map_passed_of_alone (h : List.Forall₂ (Alone a start) l results) :
    results.map (·.passed) = l.map fun f => (a.process f start).1.passed := by
  induction h with
  | nil => rfl
  | cons head _ ih => rw [List.map_cons, List.map_cons, head.1, ih]

theorem getElem?_of_alone (h : List.Forall₂ (Alone a start) l results) : ∀ {i : Nat} {f : Fixture},
    l[i]? = some f → ¬ start.files.Dangles (a.textPath f) →
      results[i]? = some (a.process f start).1 := by
  induction h with
  | nil => intro i f hf; cases hf
  | cons head _ ih =>
    intro i f hf hlink
    cases i with
    | zero =>
      cases hf
      exact congrArg some (head.2 hlink)
    | succ i => exact ih hf hlink

/-! ## The start of the second run -/

/-- In a directory that is there, a run starts from the world as it is. -/
theorem run_prepared_again (hready : a.tools.preflight w.files = .ok ()) (hwork : w.files.Grounded)
    (hdir : a.paths.outputDir.text = "" ∨ w.files.isDirectory a.paths.outputDir = true) :
    (a.run fixtures w).1 = .ok (a.processAll fixtures w).1 ∧
    (a.run fixtures w).2.world = (a.processAll fixtures w).2.world := by
  have htree := FileSystem.makeTree_again hwork hdir
  rcases a.run_cases fixtures w with ⟨fs, -, htree', hresults, hleft⟩ | ⟨e, -, hnot⟩
  · rw [htree] at htree'
    cases htree'
    exact ⟨hresults, hleft⟩
  · exact absurd ⟨hready, _, htree⟩ hnot

/-! ## Top theorem -/

/-- **Running again changes nothing.**  A run of the same fixtures from what a run left gives the same
results, but for the reason why a text was not stored through a link into a missing directory; the
same tallies; and it leaves the same files. -/
theorem run_again (d : Determined a.tools) (hwork : w.files.Grounded)
    (hrun : (a.run fixtures w).1 = .ok results)
    (hready : ∀ fs fs', a.tools.preflight fs = a.tools.preflight fs')
    (hapart : SourcesApart a fixtures (a.prepared w).files)
    (hsame : w'.files.undated = (a.run fixtures w).2.files.undated) :
    ∃ results', (a.run fixtures w').1 = .ok results' ∧
      (a.run fixtures w').2.files.undated = (a.run fixtures w).2.files.undated ∧
      Summary.ofResults results' = Summary.ofResults results ∧
      results'.length = results.length ∧
      ∀ (i : Nat) (f : Fixture), fixtures[i]? = some f →
        ¬ (a.prepared w).files.Dangles (a.textPath f) → results'[i]? = results[i]? := by
  obtain ⟨hground, hdir⟩ := prepared_spec hwork hrun
  obtain ⟨hleft, hundisturbed⟩ := run_files d hwork hrun hapart fixtures fun _ => id
  obtain ⟨results₁, hrun₁, hfirst⟩ := run_alone d hwork hrun hapart fixtures fun _ => id
  rw [hrun, Except.ok.injEq] at hrun₁
  subst hrun₁
  have hnext : Undisturbed a fixtures (a.prepared w).files w'.files := by
    rw [← Undisturbed.undated_iff, hsame, Undisturbed.undated_iff]
    exact hundisturbed
  have hok : a.tools.preflight w'.files = .ok () := by
    rcases a.run_cases fixtures w with ⟨-, hok, -⟩ | ⟨e, herror, -⟩
    · rw [hready w'.files w.files, hok]
    · rw [herror] at hrun
      cases hrun
  obtain ⟨hresults, hworld⟩ := run_prepared_again hok
    (hground.grows hnext.ways.grows)
    (hdir.imp_right fun h => hnext.ways.grows.isDirectory h)
  have hsecond := processAll_alone d hground hdir hapart fixtures (fun _ => id) hnext
  refine ⟨_, hresults, ?_, ?_, ?_, fun i f hf hlink => ?_⟩
  · have hwritten := (processAll_files d hground hapart fixtures (fun _ => id) hnext).1
    rw [← hworld, hsame, hleft] at hwritten
    rw [hleft]
    refine hwritten.trans ?_
    exact FileSystem.overwriteAll_again ((FileSystem.grounded_undated_iff _).mpr hground) _
  · exact Summary.ofResults_congr
      ((map_passed_of_alone hsecond).trans (map_passed_of_alone hfirst).symm)
  · rw [← hsecond.length_eq, hfirst.length_eq]
  · rw [getElem?_of_alone hsecond hf hlink, getElem?_of_alone hfirst hf hlink]

/-- Two fixtures with one stem, of which the first disagrees: run again, both have the same results, and
the files are the same. -/
theorem run_again_shared_stem :
    let compilations := [("/f/a/x.c", { artifact := some ⟨"a.ll"⟩ })]
    let analyses := [("a.ll", { text := "Load instruction" })]
    let a : Audit Unit := ⟨{ fixtureRoot := ⟨"/f"⟩, outputDir := ⟨"/f/out/"⟩ },
      ⟨Scripted.preflight none, Scripted.compile compilations, Scripted.analyze analyses⟩⟩
    let file : Node := { matter := .file [], mode := 0o644 }
    let directory : Node := { matter := .directory, mode := 0o755 }
    let w : World Unit := ⟨[["f", "a", "x.c"], ["f", "b", "x.c"]].foldl (fun fs l => fs.put l file)
      ([["f"], ["f", "a"], ["f", "b"]].foldl (fun fs l => fs.put l directory) {}), ()⟩
    let fixtures := [Fixture.make "A" "a/x.c" [("load", 0)], Fixture.make "B" "b/x.c" [("load", 0)]]
    let w' := (a.run fixtures w).2.world
    ∃ results results', (a.run fixtures w).1 = .ok results ∧ (a.run fixtures w').1 = .ok results' ∧
      results.map (·.passed) = [false, true] ∧ results' = results ∧
      Summary.ofResults results' = Summary.ofResults results ∧
      (a.run fixtures w').2.files.undated = (a.run fixtures w).2.files.undated := by
  intro compilations analyses a file directory w fixtures w'
  have hverdicts : ((a.run fixtures w).1.toOption.map fun rs => rs.map (·.passed)) =
      some [false, true] := by decide +kernel
  have hwork : w.files.Grounded := .of_here_eq_nil rfl
  have hapart : SourcesApart a fixtures (a.prepared w).files := by decide +kernel
  have hlinks : ∀ f ∈ fixtures, ¬ (a.prepared w).files.Dangles (a.textPath f) := by decide +kernel
  obtain ⟨results, hok, hpassed⟩ := Option.map_eq_some_iff.mp hverdicts
  have hrun := toOption_eq_some_iff.mp hok
  obtain ⟨results', hrun', hfiles, hsummary, hlength, hresults⟩ :=
    run_again (Scripted.determined none compilations analyses) hwork hrun (fun _ _ => rfl) hapart
      (show w'.files.undated = _ from rfl)
  have hsame : results' = results := by
    refine List.ext_getElem? fun i => ?_
    by_cases hi : i < fixtures.length
    · exact hresults i _ (List.getElem?_eq_getElem hi) (hlinks _ (List.getElem_mem hi))
    · have hcount := (run_getElem? hrun).1
      rw [List.getElem?_eq_none (by omega), List.getElem?_eq_none (by omega)]
  exact ⟨results, results', hrun, hrun', hpassed, hsame, hsummary, hfiles⟩

/-- A link into a missing directory can make the second run different: the first run makes a file that
is in the way of the link, and then the text is refused for another reason. -/
theorem second_run_differs :
    let a : Audit Unit := ⟨{ fixtureRoot := ⟨"/"⟩, outputDir := ⟨"/out"⟩ },
      ⟨Scripted.preflight none, Scripted.compile [], Scripted.analyze []⟩⟩
    let file : Node := { matter := .file [], mode := 0o644 }
    let directory : Node := { matter := .directory, mode := 0o755 }
    let tree : FileSystem := [["f", "a.c"], ["f", "b.c"]].foldl (fun fs l => fs.put l file)
      ([["f"], ["out"]].foldl (fun fs l => fs.put l directory) {})
    let w : World Unit :=
      ⟨tree.put ["out", "b.output"] { matter := .link "a.ll/x", mode := 0o777 }, ()⟩
    let fixtures := [Fixture.make "B" "f/b.c" [("load", 0)], Fixture.make "A" "f/a.c" [("load", 0)]]
    Nonempty (Determined a.tools) ∧ (∀ fs fs', a.tools.preflight fs = a.tools.preflight fs') ∧
    SourcesApart a fixtures (a.prepared w).files ∧
    ∃ results results', (a.run fixtures w).1 = .ok results ∧
      (a.run fixtures (a.run fixtures w).2.world).1 = .ok results' ∧ results' ≠ results := by
  intro a file directory tree w fixtures
  have hfirst : ((a.run fixtures w).1.toOption.map fun rs => rs.map (·.failure)) =
      some [some (.artifactWrite ⟨"/out/b.output"⟩ FileError.notFound.message), none] := by
    decide +kernel
  have hsecond : ((a.run fixtures (a.run fixtures w).2.world).1.toOption.map fun rs =>
      rs.map (·.failure)) =
      some [some (.artifactWrite ⟨"/out/b.output"⟩ FileError.notDirectory.message), none] := by
    decide +kernel
  refine ⟨⟨Scripted.determined none [] []⟩, fun _ _ => rfl, by decide +kernel, ?_⟩
  obtain ⟨results, hok, hreasons⟩ := Option.map_eq_some_iff.mp hfirst
  obtain ⟨results', hok', hreasons'⟩ := Option.map_eq_some_iff.mp hsecond
  refine ⟨results, results', toOption_eq_some_iff.mp hok, toOption_eq_some_iff.mp hok', fun hsame => ?_⟩
  rw [hsame] at hreasons'
  exact absurd (hreasons.symm.trans hreasons') (by decide +kernel)

end Audit
end HardenAudit
