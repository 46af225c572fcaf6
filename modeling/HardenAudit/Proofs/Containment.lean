import HardenAudit.Proofs.Capturing
import HardenAudit.Proofs.Naming

/-!
# Nothing is written outside of the directory for artifacts

A stem could be taken from the name of a fixture, which may hold slashes or start at the root.  This
happens only if the source has no file name, and such a source is never a file.  So whenever a fixture
gets as far as the compiler, what is kept for it has a name that stands for one entry of the directory.

    a stem is not empty and has no slash in it                       (stem_ne_empty, slash_not_mem_stem)
    behind a stem, an extension makes a name of one entry            (EntryName.of_append)
    such a name in a directory names an entry of this directory      (target_join)
-/

namespace HardenAudit

open Text (Utf8.encode)

/-! ## Algorithm -/

namespace Path

/-- A name that stands for one entry of a directory. -/
structure EntryName (name : String) : Prop where
  nonempty : name ≠ ""
  slash : '/' ∉ name.toList
  dot : name ≠ "."
  dots : name ≠ ".."

/-- The path is empty, ends in a slash, or ends in a piece of one or two dots. -/
def EndsInDots (p : Path) : Prop :=
  p.text = "" ∨ p.text.toList.getLast? = some '/' ∨
    (splitSlash p.text.toList).getLast? = some ['.'] ∨
    (splitSlash p.text.toList).getLast? = some ['.', '.']

/-! ## Names -/

theorem EntryName.of_append {stem extension : String} (hstem : '/' ∉ stem.toList)
    (hextension : '/' ∉ extension.toList) (hlength : 2 < extension.length) :
    EntryName (stem ++ extension) := by
  have hlong : 2 < (stem ++ extension).length := by
    rw [String.length_append]
    omega
  refine ⟨?_, ?_, ?_, ?_⟩
  · intro h
    rw [h] at hlong
    exact absurd hlong (by decide)
  · rw [String.toList_append, List.mem_append]
    exact not_or.mpr ⟨hstem, hextension⟩
  · intro h
    rw [h] at hlong
    exact absurd hlong (by decide)
  · intro h
    rw [h] at hlong
    exact absurd hlong (by decide)

theorem stemOf_ne_nil {name : List Char} (h : name ≠ []) : stemOf name ≠ [] := by
  unfold stemOf
  dsimp only
  split
  · exact h
  · next hbefore => exact fun hnil => hbefore (List.reverse_eq_nil_iff.mp hnil)

theorem isIdle_getLast?_trimIdle {pieces : List (List Char)} {last : List Char}
    (h : (trimIdle pieces).getLast? = some last) : isIdle last = false := by
  unfold trimIdle at h
  rw [List.getLast?_reverse] at h
  have hhead := List.head?_dropWhile_not isIdle pieces.reverse
  rw [h] at hhead
  exact hhead

/-- A stem is not empty. -/
theorem stem_ne_empty {p : Path} {stem : String} (h : p.stem? = some stem) : stem ≠ "" := by
  unfold stem? fileName? at h
  obtain ⟨name, hname, rfl⟩ := Option.map_eq_some_iff.mp h
  split at hname
  · cases hname
  next piece hpiece =>
  split at hname
  · cases hname
  cases hname
  intro hempty
  have hlist := congrArg String.toList hempty
  rw [String.toList_ofList, String.toList_ofList] at hlist
  refine stemOf_ne_nil (fun hnil => ?_) hlist
  rw [hnil] at hpiece
  have hnamed := isIdle_getLast?_trimIdle hpiece
  exact absurd hnamed (by decide)

/-- Only a path that is empty or ends in a slash ends in an empty piece. -/
theorem of_getLast?_splitSlash_eq_nil {cs : List Char} (h : (splitSlash cs).getLast? = some []) :
    cs = [] ∨ cs.getLast? = some '/' := by
  induction cs with
  | nil => exact .inl rfl
  | cons c rest ih =>
    right
    obtain ⟨piece, pieces, hsplit⟩ := exists_splitSlash_eq rest
    rw [hsplit] at ih
    rw [splitSlash_cons c hsplit] at h
    -- if the piece that `c` begins is not the last one, then the rest ends in the same piece
    have hrest : (piece :: pieces).getLast? = some [] → c = '/' ∨ rest ≠ [] →
        (c :: rest).getLast? = some '/' := by
      intro hlast hc
      rcases ih hlast with rfl | hend
      · rcases hc with rfl | hne
        · rfl
        · exact absurd rfl hne
      · rw [List.getLast?_cons, hend]
        rfl
    split at h
    · next hc => exact hrest (by simpa using h) (.inl hc)
    · cases pieces with
      | nil => simp at h
      | cons next others =>
        refine hrest (by simpa using h) (.inr ?_)
        rintro rfl
        simp [splitSlash] at hsplit

/-- Different names in a directory make different paths. -/
theorem join_inj {dir : Path} {name other : String} (hname : '/' ∉ name.toList)
    (hother : '/' ∉ other.toList) (h : dir.join ⟨name⟩ = dir.join ⟨other⟩) : name = other := by
  have hlast := getLast?_splitSlash_join dir ⟨name⟩
  rw [h, getLast?_splitSlash_join, splitSlash_eq_singleton hname, splitSlash_eq_singleton hother]
    at hlast
  exact String.toList_inj.mp (by simpa using hlast.symm)

theorem EndsInDots.of_last {p : Path} {last : List Char}
    (hlast : (splitSlash p.text.toList).getLast? = some last)
    (hdots : isIdle last = true ∨ last = ['.', '.']) : p.EndsInDots := by
  rcases hdots with hidle | rfl
  · unfold isIdle at hidle
    rw [Bool.or_eq_true, beq_iff_eq, beq_iff_eq] at hidle
    rcases hidle with rfl | rfl
    · rcases of_getLast?_splitSlash_eq_nil hlast with hempty | hslash
      · exact .inl (String.toList_eq_nil_iff.mp hempty)
      · exact .inr (.inl hslash)
    · exact .inr (.inr (.inl hlast))
  · exact .inr (.inr (.inr hlast))

end Path

/-! ## Entries of the directory -/

namespace FileSystem

open Path Text.Raw

variable {fs : FileSystem}

/-- No path that ends in dots leads to a file. -/
def NoFileAtDots (fs : FileSystem) : Prop := ∀ p : Path, p.EndsInDots → fs.isFile p = false

/-- In a file system whose working directory is there, no path that ends in dots leads to a file. -/
theorem Grounded.noFileAtDots (h : fs.Grounded) : fs.NoFileAtDots := by
  rintro p (hempty | hslash | hdot | hdots)
  · have hlast : (splitSlash p.text.toList).getLast? = some [] := by
      rw [hempty]
      rfl
    exact isFile_of_dots h hlast (.inl rfl)
  · obtain ⟨front, hfront⟩ := List.getLast?_eq_some_iff.mp hslash
    have hlast : (splitSlash p.text.toList).getLast? = some [] := by
      rw [hfront, splitSlash_append_slash, splitSlash, List.getLast?_concat]
    exact isFile_of_dots h hlast (.inl rfl)
  · exact isFile_of_dots h hdot (.inl rfl)
  · exact isFile_of_dots h hdots (.inr rfl)

/-- A name in a directory names an entry of this directory, unless its way is refused. -/
theorem target_join (hfs : fs.Grounded) {dir : Path}
    (hdir : dir.text = "" ∨ fs.isDirectory dir = true) : ∃ parent, fs.HoldsDirectory parent ∧
      ∀ name, EntryName name → ∀ r t, (dir.join ⟨name⟩).route = .ok r → fs.target r = .ok t →
        t = .entry (parent ++ [String.ofList (raw name.toList)]) false := by
  obtain ⟨parent, hholds, hfronts⟩ := walk_front hfs hdir
  refine ⟨parent, hholds, fun name hname r t hr ht => ?_⟩
  obtain ⟨front, hpieces, hlast, hparent⟩ := hfronts name hname.nonempty hname.slash r hr
  have hnamed := dropWhile_trailing hpieces hlast
  unfold target at ht
  dsimp only at ht
  rw [hnamed, List.getLast?_concat, List.dropLast_concat] at ht
  dsimp only at ht
  rw [hparent] at ht
  obtain ⟨_, hsame, ht⟩ := bind_ok ht
  cases hsame
  obtain ⟨loc, hstep, ht⟩ := bind_ok ht
  have hraw : ∀ text : String, String.ofList (raw name.toList) = text → raw text.toList = text.toList →
      name = text := by
    intro text hsame htext
    rw [← String.toList_inj]
    refine raw_inj ?_
    rw [htext, ← hsame, String.toList_ofList]
  have hdot := fun h => hname.dot (hraw "." h rfl)
  have hdots := fun h => hname.dots (hraw ".." h rfl)
  rw [if_neg (not_or.mpr ⟨hdot, hdots⟩)] at ht
  cases ht
  rcases (step_ok hstep).2 with ⟨hidle, -⟩ | ⟨hup, -⟩ | ⟨-, -, rfl⟩
  · unfold isIdle at hidle
    rw [Bool.or_eq_true, beq_iff_eq, beq_iff_eq] at hidle
    rcases hidle with hempty | hsingle
    · exact absurd (String.toList_eq_nil_iff.mp hempty) hlast
    · exact absurd (String.toList_inj.mp hsingle) hdot
  · exact absurd hup hdots
  · rw [hpieces]
    simp

end FileSystem

/-! ## Names of artifacts -/

/-- An artifact and a text never have the same name. -/
theorem append_ll_ne_append_output (stem other : String) : stem ++ ".ll" ≠ other ++ ".output" := by
  intro h
  have hlast := congrArg (fun s : String => s.toList.getLast?) h
  simp [String.toList_append] at hlast

namespace Audit

open Path

variable {ρ : Type} {a : Audit ρ} {f : Fixture} {w : World ρ}

theorem artifactStem_eq {stem : String} (h : f.source.stem? = some stem) : f.artifactStem = stem := by
  unfold Fixture.artifactStem
  rw [h]
  rfl

/-- A fixture whose source is a file has the stem of its source. -/
theorem stem_of_noFileAtDots (hdots : w.files.NoFileAtDots)
    (hread : w.files.isReadable (a.source f) = true) : ∃ stem, f.source.stem? = some stem :=
  FileSystem.stem_of_isFile (FileSystem.isFile_of_isReadable hread) fun _ hlast hends =>
    hdots _ (.of_last hlast hends)

theorem calls_and_stores_eq_nil {j : Journal ρ} (h : acts j = []) : j.calls = [] ∧ j.stores = [] := by
  unfold acts at h
  obtain ⟨hcalls, hstores⟩ := List.append_eq_nil_iff.mp h
  exact ⟨List.map_eq_nil_iff.mp hcalls, List.map_eq_nil_iff.mp hstores⟩

/-- A fixture whose source cannot be read calls nothing, stores nothing and changes nothing. -/
theorem process_of_unreadable (h : w.files.isReadable (a.source f) = false) :
    (a.process f w).2.calls = [] ∧ (a.process f w).2.stores = [] ∧ (a.process f w).2.world = w := by
  have hway := a.process_steps f w
  have hacts := hway.acts_waiting
  rw [h, if_neg Bool.false_ne_true] at hacts
  obtain ⟨hcalls, hstores⟩ := calls_and_stores_eq_nil hacts
  have missing : Steps a f (.waiting w) _ _ := .next (.missing h) .done
  exact ⟨hcalls, hstores, (missing.unique rfl hway).2.2.symm⟩

/-! ## Top theorem -/

/-- **Artifacts cannot escape the directory for artifacts.**  If no path that ends in dots leads to a
file, then a fixture either calls nothing and changes nothing, or its source has a stem: one that is not
empty and has no slash in it.  Then the compiler is told to write to the directory under the stem with
one extension, and the audit itself writes only there under the stem with another one; both are names of
one entry.  The name of the fixture is never part of a path. -/
theorem process_stays_inside (a : Audit ρ) (f : Fixture) (w : World ρ)
    (hdots : w.files.NoFileAtDots) :
    let j := (a.process f w).2
    (j.calls = [] ∧ j.stores = [] ∧ j.world = w) ∨
    ∃ stem, f.source.stem? = some stem ∧ stem ≠ "" ∧ '/' ∉ stem.toList ∧
      EntryName (stem ++ ".ll") ∧ EntryName (stem ++ ".output") ∧
      stem ++ ".ll" ≠ stem ++ ".output" ∧
      (∀ source output, .compile source output ∈ j.calls →
        output = a.paths.outputDir.join ⟨stem ++ ".ll"⟩) ∧
      (∀ s ∈ j.stores, s.path = a.paths.outputDir.join ⟨stem ++ ".output"⟩) ∧
      j.files = (a.captured f w).2.files.overwriteAll
        (j.stores.map fun s => (s.path, Utf8.encode s.text)) := by
  intro j
  cases hread : w.files.isReadable (a.source f) with
  | false => exact .inl (process_of_unreadable hread)
  | true =>
    right
    obtain ⟨stem, hstem⟩ := stem_of_noFileAtDots hdots hread
    have hname := artifactStem_eq hstem
    have hslash := slash_not_mem_stem hstem
    have hway := a.process_steps f w
    refine ⟨stem, hstem, stem_ne_empty hstem, hslash,
      .of_append hslash (by decide) (by decide), .of_append hslash (by decide) (by decide),
      append_ll_ne_append_output stem stem, fun source output hcall => ?_, fun s hs => ?_,
      a.files_process f w⟩
    · rw [mem_calls, hway.compile_mem] at hcall
      rw [hcall.2.2, Audit.output, hname]
    · rw [mem_stores, hway.store_mem] at hs
      obtain ⟨artifact, text, -, -, -, rfl⟩ := hs
      dsimp only
      rw [textPath, storedPath, hname]

/-- A fixture whose name starts at the root: with a source of two dots and a letter the names in the
directory start with dots, and with a source that goes up nothing is done. -/
theorem process_stays_inside_dots :
    let a : Audit Unit := ⟨{ fixtureRoot := ⟨"/"⟩, outputDir := ⟨"/out"⟩ },
      ⟨fun _ => .ok (), fun _ o w => { result := .ok o, world := w },
        fun _ w => { result := .ok "", world := w }⟩⟩
    let directory : Node := { matter := .directory, mode := 0o755 }
    let tree : FileSystem := [["f"], ["out"]].foldl (fun fs l => fs.put l directory) {}
    let w : World Unit := ⟨tree.put ["f", "..c"] { matter := .file [], mode := 0o644 }, ()⟩
    let f := Fixture.make "/etc/x" "f/..c" []
    let g := Fixture.make "/etc/x" "f/.." []
    w.files.NoFileAtDots ∧
    (∀ source output, .compile source output ∈ (a.process f w).2.calls → output = ⟨"/out/..ll"⟩) ∧
    (∀ s ∈ (a.process f w).2.stores, s.path = ⟨"/out/..output"⟩) ∧
    (a.process g w).2.world = w := by
  intro a directory tree w f g
  have hdots : w.files.NoFileAtDots :=
    FileSystem.Grounded.noFileAtDots (.of_here_eq_nil (by decide +kernel))
  have hf : f.source.stem? = some "." := by decide +kernel
  have hg : g.source.stem? = none := by decide +kernel
  have hcalls : (a.process f w).2.calls ≠ [] := by decide +kernel
  have hll : a.paths.outputDir.join ⟨"." ++ ".ll"⟩ = ⟨"/out/..ll"⟩ := by decide +kernel
  have houtput : a.paths.outputDir.join ⟨"." ++ ".output"⟩ = ⟨"/out/..output"⟩ := by decide +kernel
  refine ⟨hdots, ?_⟩
  rcases process_stays_inside a f w hdots with hnone | ⟨stem, hstem, -, -, -, -, -, hcompile, hstore, -⟩
  · exact absurd hnone.1 hcalls
  · cases hf.symm.trans hstem
    rw [hll] at hcompile
    rw [houtput] at hstore
    refine ⟨hcompile, hstore, ?_⟩
    rcases process_stays_inside a g w hdots with hnone | ⟨stem, hstem, -⟩
    · exact hnone.2.2
    · cases hg.symm.trans hstem

end Audit
end HardenAudit
