import HardenAudit.Host.Machine
import HardenAudit.Proofs.Aborting
import HardenAudit.Proofs.Keeping

/-!
# The working directory is there

A process may stand in a directory that was removed, and then relative paths lead nowhere.  What is said
of the files after a run is said of file systems with their working directory.  A system has one.  It is
still there after files and directories were supplied, after a run and after a report, as long as the
tools do not take it away.  So nothing else is reached.

    a system has its working directory                        (grounded_system)
    a supply keeps it                                         (Grounded.supply)
    a run keeps it, if its tools do                           (run_grounded)
    every file system that is reached has it                  (Reachable.grounded)
    and the whole program leaves such a one                   (execute_reachable)
-/

namespace HardenAudit

variable {ρ : Type}

/-! ## Algorithm -/

/-- No call of a tool takes the working directory away. -/
structure KeepsGround (tools : Toolchain ρ) : Prop where
  compile : ∀ source output (w : World ρ), w.files.Grounded →
    (tools.compile source output w).world.files.Grounded
  analyze : ∀ artifact (w : World ρ), w.files.Grounded →
    (tools.analyze artifact w).world.files.Grounded

/-- No program of a machine takes the working directory away, whenever it is left. -/
def Launch.Machine.KeepsGround (machine : Launch.Machine ρ) : Prop :=
  ∀ w command horizon b, machine.launch w command horizon = .ok b → w.files.Grounded →
    ∀ time, (b.after time).files.Grounded

/-- What comes of the files of a system by supplies, runs and reports. -/
inductive FileSystem.Reachable : FileSystem → Prop where
  | system : Reachable Host.system
  | supply {fs : FileSystem} (before : Reachable fs) (s : Supply) : Reachable (fs.supply s)
  | run {ρ : Type} {a : Audit ρ} {w : World ρ} (before : Reachable w.files) (tools : KeepsGround a.tools)
    (fixtures : List Fixture) : Reachable (a.run fixtures w).2.files
  | report {fs : FileSystem} (before : Reachable fs) (path : Path) (results : List FixtureResult) :
    Reachable (CommandLine.writeSummary fs path results).2

/-! ## Files that are supplied -/

namespace FileSystem

variable {fs : FileSystem}

/-- Where an update changes something, it puts the new node. -/
theorem node?_update_cases (fs : FileSystem) (loc : Location) (n : Node) {l : Location} (hl : l ≠ []) :
    (fs.update loc n).node? l = fs.node? l ∨ (fs.update loc n).node? l = some n := by
  unfold FileSystem.update
  split
  · next number _ =>
    unfold node?
    rw [if_neg hl, if_neg hl]
    dsimp only
    cases fs.entries.find? l with
    | none => exact .inl rfl
    | some e =>
      cases e with
      | sole m => exact .inl rfl
      | shared k =>
        dsimp only
        rw [SortedMap.find?_insert]
        by_cases hk : k = number
        · exact .inr (if_pos hk)
        · exact .inl (if_neg hk)
  · unfold FileSystem.put node?
    rw [if_neg hl, if_neg hl]
    dsimp only
    rw [SortedMap.find?_insert]
    by_cases hloc : l = loc
    · rw [if_pos hloc]
      exact .inr rfl
    · rw [if_neg hloc]
      exact .inl rfl

/-- Directories stay when a node is replaced by one that is a directory just if it was. -/
theorem HoldsDirectory.update {loc l : Location} {old n : Node} (h : fs.HoldsDirectory l)
    (hold : fs.node? loc = some old) (hsame : n.isDirectory = old.isDirectory) :
    (fs.update loc n).HoldsDirectory l := by
  by_cases hl : l = []
  · exact ⟨_, if_pos hl, rfl⟩
  obtain ⟨m, hm, hdir⟩ := h
  by_cases hloc : loc = []
  · -- the root is a directory, and so is what replaces it
    subst hloc
    obtain rfl := Option.some.inj hold
    rcases fs.node?_update_cases [] n hl with hkept | hnew
    · exact ⟨m, hkept.trans hm, hdir⟩
    · exact ⟨n, hnew, hsame⟩
  · rcases (node?_update fs loc old n hloc hold).2 l with hkept | ⟨hwas, hnew⟩
    · exact ⟨m, hkept.trans hm, hdir⟩
    · rw [hwas, Option.some.injEq] at hm
      exact ⟨n, hnew, by rw [hsame, hm]; exact hdir⟩

theorem Grounded.setMode (hfs : fs.Grounded) (p : Path) (mode : Nat) : (fs.setMode p mode).Grounded := by
  unfold FileSystem.setMode
  split
  · exact hfs
  · split
    · next n hn =>
      intro l hl
      refine (hfs l ?_).update hn rfl
      unfold FileSystem.update at hl
      split at hl <;> exact hl
    · exact hfs

theorem Grounded.write {fs' : FileSystem} (hfs : fs.Grounded) {p : Path} {content : Text.Bytes}
    (h : fs.write p content = .ok fs') : fs'.Grounded := by
  have hgrows := grows_overwritten hfs p content
  unfold overwritten at hgrows
  rw [h] at hgrows
  exact hfs.grows hgrows

theorem Grounded.makeTree (hfs : fs.Grounded) (p : Path) : (fs.makeTree p).2.Grounded :=
  hfs.keeps (keeps_makeTree fs p)

/-- A supply keeps the working directory. -/
theorem Grounded.supply (hfs : fs.Grounded) (s : Supply) : (fs.supply s).Grounded := by
  unfold FileSystem.supply
  have hmode {fs' : FileSystem} (h : fs'.Grounded) :
      (if s.executable then fs'.setMode s.path directoryMode else fs').Grounded := by
    split
    · exact h.setMode _ _
    · exact h
  cases s.content with
  | none => exact hfs.makeTree s.path
  | some content =>
    cases s.path.parent? with
    | none =>
      dsimp only
      split
      · next hwrite => exact hmode (hfs.write hwrite)
      · exact hfs
    | some up =>
      have hup := hfs.makeTree up
      dsimp only
      split
      · next hwrite => exact hmode (hup.write hwrite)
      · exact hup

/-! ## The system -/

theorem Grounded.put (hfs : fs.Grounded) {loc : Location} (hloc : ¬ loc <+: fs.here) (n : Node) :
    (fs.put loc n).Grounded := by
  intro l hl
  obtain ⟨m, hm, hdir⟩ := hfs l hl
  have hne : loc ≠ [] := fun h => hloc (h ▸ List.nil_prefix)
  have hother : l ≠ loc := fun h => hloc (h ▸ hl)
  refine ⟨m, ?_, hdir⟩
  rw [node?_put fs loc l n hne, if_neg hother, hm]

/-- Nodes that are put elsewhere leave the working directory where it is. -/
theorem Grounded.foldl_put {α : Type} (loc : α → Location) (node : α → Node) (l : List α) :
    ∀ {fs : FileSystem}, fs.Grounded → (∀ x ∈ l, ¬ loc x <+: fs.here) →
      (l.foldl (fun fs x => fs.put (loc x) (node x)) fs).Grounded ∧
      (l.foldl (fun fs x => fs.put (loc x) (node x)) fs).here = fs.here := by
  induction l with
  | nil => exact fun hfs _ => ⟨hfs, rfl⟩
  | cons x rest ih =>
    intro fs hfs hloc
    obtain ⟨hx, hrest⟩ := List.forall_mem_cons.mp hloc
    exact ih (hfs.put hx (node x)) hrest

theorem grounded_bare : bare.Grounded := by
  intro l hl
  rcases List.prefix_cons_iff.mp hl with rfl | ⟨below, rfl, hbelow⟩
  · exact ⟨_, rfl, rfl⟩
  rcases List.prefix_cons_iff.mp hbelow with rfl | ⟨rest, rfl, hrest⟩
  · exact ⟨systemNode .directory 0o1777, by decide +kernel, rfl⟩
  obtain rfl := List.prefix_nil.mp hrest
  exact ⟨{ matter := .directory, mode := directoryMode }, by decide +kernel, rfl⟩

/-- A system has its working directory: nothing is installed in its place. -/
theorem grounded_system : Host.system.Grounded := by
  obtain ⟨hdevices, hhere⟩ := grounded_bare.foldl_put (fun name => ["dev", name])
    (fun _ => systemNode .device 0o666) Host.devices fun name _ h => by
      simp [bare, List.cons_prefix_cons] at h
  obtain ⟨haliases, hhere'⟩ := hdevices.foldl_put (fun a => Host.programDirectory ++ [a.1])
    (fun a => systemNode (.link a.2) 0o777) Host.aliases fun a _ h => by
      rw [hhere] at h
      simp [bare, Host.programDirectory, List.cons_prefix_cons] at h
  refine (haliases.foldl_put (fun name => Host.programDirectory ++ [name])
    (fun name => systemNode (.program name) 0o755) _ fun name _ h => ?_).1
  rw [hhere', hhere] at h
  simp [bare, Host.programDirectory, List.cons_prefix_cons] at h

end FileSystem

/-! ## Runs -/

namespace Audit

variable {a : Audit ρ}

/-- What the tools make of a fixture keeps the working directory. -/
theorem captured_grounded (htools : KeepsGround a.tools) (f : Fixture) {w : World ρ}
    (hw : w.files.Grounded) : (a.captured f w).2.files.Grounded := by
  have hcompile := htools.compile (a.source f) (a.output f) w hw
  unfold captured
  split
  · exact hw
  dsimp only
  split
  · exact hcompile
  · exact htools.analyze _ _ hcompile

theorem process_grounded (htools : KeepsGround a.tools) (f : Fixture) {w : World ρ}
    (hw : w.files.Grounded) : (a.process f w).2.files.Grounded := by
  have hcaptured := captured_grounded htools f hw
  rcases a.files_process_cases f w with ⟨-, hfiles⟩ | ⟨-, text, -, -, hwrite⟩
  · rw [hfiles]
    exact hcaptured
  · exact hcaptured.write hwrite

theorem processAll_grounded (htools : KeepsGround a.tools) (fixtures : List Fixture) :
    ∀ {w : World ρ}, w.files.Grounded → (a.processAll fixtures w).2.files.Grounded := by
  induction fixtures with
  | nil => exact fun hw => hw
  | cons f rest ih =>
    intro w hw
    unfold Journal.files
    rw [(a.processAll_cons f rest w).2]
    exact ih (process_grounded htools f hw)

/-- A run keeps the working directory, if the tools do. -/
theorem run_grounded (htools : KeepsGround a.tools) (fixtures : List Fixture) {w : World ρ}
    (hw : w.files.Grounded) : (a.run fixtures w).2.files.Grounded := by
  have hmade := hw.makeTree a.paths.outputDir
  unfold Journal.files
  cases a.run_ending fixtures w with
  | unready e ready result world =>
    rw [world]
    exact hw
  | unprepared e fs ready prepare result world =>
    rw [prepare] at hmade
    rw [world]
    exact hmade
  | processed fs ready prepare result world =>
    rw [prepare] at hmade
    rw [world]
    exact processAll_grounded htools fixtures (w := { w with files := fs }) hmade

end Audit

/-! ## Tools -/

/-- Tools that write only what they are given to write keep the working directory. -/
theorem Tidy.keepsGround {tools : Toolchain ρ} (h : Tidy tools) : KeepsGround tools where
  compile source output w hw := hw.grows ((h.compile source output w).extend hw).grows
  analyze artifact w hw := by
    obtain ⟨time, hfiles⟩ := h.analyze artifact w
    rw [hfiles]
    exact hw

/-- So do tools whose answers and files are determined by what they are given. -/
theorem Determined.keepsGround {tools : Toolchain ρ} (d : Determined tools) : KeepsGround tools where
  compile source output _ := d.compile_grounded source output
  analyze artifact _ := d.analyze_grounded artifact

theorem Launch.run_grounded {machine : Launch.Machine ρ} (hmachine : machine.KeepsGround)
    (command : Command) (limit : Span) {w : World ρ} (hw : w.files.Grounded) :
    (run machine command limit w).world.files.Grounded := by
  have hran := run_ran machine command limit w
  generalize run machine command limit w = answer at hran ⊢
  cases hran with
  | refused e => exact hw
  | late b time launch => exact hmachine w command _ b launch hw time
  | unasked b time seen reason launch exit => exact hmachine w command _ b launch hw seen
  | ended b time seen status launch exit => exact hmachine w command _ b launch hw _

/-- And so do the programs that the settings name, if no program of the machine takes it away. -/
theorem External.keepsGround {machine : Launch.Machine ρ} (hmachine : machine.KeepsGround)
    (s : Settings) : KeepsGround (toolchain machine s) where
  compile source output w hw := by
    show (compile machine s.tools s.limits.compile source output w).world.files.Grounded
    rw [(compile_passes_on machine s.tools s.limits.compile source output w).1]
    exact Launch.run_grounded hmachine _ _ hw
  analyze artifact w hw := by
    show (analyze machine s.tools s.limits.analyze artifact w).world.files.Grounded
    rw [(analyze_passes_on machine s.tools s.limits.analyze artifact w).1]
    exact Launch.run_grounded hmachine _ _ hw

/-! ## What is reached -/

/-- A report keeps the working directory. -/
theorem CommandLine.writeSummary_grounded {fs : FileSystem} (hfs : fs.Grounded) (path : Path)
    (results : List FixtureResult) : (writeSummary fs path results).2.Grounded := by
  have hmade : (makeSummaryDirectory fs path).2.Grounded := by
    unfold makeSummaryDirectory
    split
    · exact hfs.makeTree _
    · exact hfs
  unfold writeSummary
  split
  · next hrefused =>
    rw [hrefused] at hmade
    exact hmade
  · next hready =>
    rw [hready] at hmade
    split
    · next hwrite => exact hmade.write hwrite
    · exact hmade

/-- **Every file system that is reached has its working directory**, in directories up to the root. -/
theorem FileSystem.Reachable.grounded {fs : FileSystem} (h : Reachable fs) : fs.Grounded := by
  induction h with
  | system => exact grounded_system
  | supply before s ih => exact ih.supply s
  | run before tools fixtures ih => exact Audit.run_grounded tools fixtures ih
  | report before path results ih => exact CommandLine.writeSummary_grounded ih path results

theorem CommandLine.reportRun_reachable {fs : FileSystem} (hfs : fs.Reachable) (summary : Option Path)
    (result : Except Failure (List FixtureResult)) : (reportRun summary fs result).files.Reachable := by
  cases result with
  | error e => exact hfs
  | ok results =>
    cases summary with
    | none => exact hfs
    | some path =>
      have hreported := hfs.report path results
      unfold reportRun
      dsimp only
      split
      · next fs' hwritten =>
        rw [hwritten] at hreported
        exact hreported
      · next t fs' hwritten =>
        rw [hwritten] at hreported
        exact hreported

/-- What the whole program leaves is reached from what it found, if no program that it runs takes the
working directory away. -/
theorem CommandLine.execute_reachable {machine : Launch.Machine ρ} (hmachine : machine.KeepsGround)
    {args : List String} {w : World ρ} {o : Outcome} (hw : w.files.Reachable)
    (h : execute machine args w = some o) : o.files.Reachable := by
  cases hparse : parse args with
  | error e =>
    unfold execute at h
    rw [hparse] at h
    cases e <;> cases h <;> exact hw
  | ok i =>
    cases hresolve : Settings.resolve w.files (i.options.config.map Path.mk) with
    | mk resolved log =>
      cases resolved with
      | error e =>
        obtain ⟨o', hexecute, -, hfiles⟩ := execute_of_error machine hparse hresolve
        obtain rfl := Option.some.inj (hexecute.symm.trans h)
        rw [hfiles]
        exact hw
      | ok settings =>
        cases hverb : i.verb with
        | list =>
          unfold execute perform at h
          rw [hparse] at h
          dsimp only at h
          rw [hresolve, hverb] at h
          cases h
          exact hw
        | run =>
          obtain ⟨stderr, hexecute⟩ := execute_of_ok machine hparse hverb hresolve
          have hrun : ((auditOf machine settings).run Fixture.registry w).2.files.Reachable :=
            hw.run (External.keepsGround hmachine settings) Fixture.registry
          rw [hexecute] at h
          split at h
          · cases h
            exact reportRun_reachable hrun _ _
          · cases h

end HardenAudit
