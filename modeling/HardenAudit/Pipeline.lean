import HardenAudit.FileSystem.Basic
import HardenAudit.FileSystem.Tree
import HardenAudit.Fixture
import HardenAudit.Log
import HardenAudit.Settings.Basic

/-!
# Running fixtures

A fixture goes through five stages: its source is checked, compiled and analysed, the analysed text
is stored, and its findings are counted and compared.  The first stage that fails ends the fixture
and nothing else.  The tools are arbitrary functions that may fail and may change files; what they
did is returned as a journal.  A call of a tool may also never return: then the journal says so, and
what it goes on with would only happen if the call did.
-/

namespace HardenAudit

/-! ## What tools act on

Tools see and change files.  They may also leave something else behind that goes on by itself, such
as programs that still run; what that is depends on the machine and is of no concern to an audit.
-/

/-- The files, and the rest of what one call of a tool leaves to the next. -/
structure World (ρ : Type) where
  files : FileSystem
  rest : ρ
  deriving Inhabited

/-! ## Runs -/

/-- What a tool gives back: a result or a failure, the world after it, and its log records. -/
structure Answer (ρ α : Type) where
  result : Except Failure α
  world : World ρ
  log : List Record := []
  /-- Does the call ever return?  If not, then nobody gets the result, and nothing comes after it. -/
  returns : Bool := true

/-- What the caller gets: nothing if the call never returns. -/
def Answer.given? {ρ α : Type} (a : Answer ρ α) : Option (Except Failure α) :=
  if a.returns then some a.result else none

theorem Answer.given?_eq_some_iff {ρ α : Type} {a : Answer ρ α} {result : Except Failure α} :
    a.given? = some result ↔ a.returns = true ∧ a.result = result := by
  unfold given?
  cases a.returns <;> simp

/-- The tools of a run. -/
structure Toolchain (ρ : Type) where
  /-- Checks, before any fixture is touched, that the analysis can work. -/
  preflight : FileSystem → Except Failure Unit
  /-- Compiles a source to an output path; gives the path of the artifact. -/
  compile : (source output : Path) → World ρ → Answer ρ Path
  /-- Analyses an artifact; gives the diagnostic text. -/
  analyze : (artifact : Path) → World ρ → Answer ρ String

/-- A call of a tool. -/
inductive ToolCall where
  | compile (source output : Path)
  | analyze (artifact : Path)
  deriving DecidableEq, Repr, Inhabited

/-- A text that was to be stored at a path, whether or not this was refused. -/
structure Store where
  path : Path
  text : String
  deriving DecidableEq, Repr, Inhabited

/-- The world after some steps, with the log records of these steps, the tool calls, and what was to
be stored. -/
structure Journal (ρ : Type) where
  world : World ρ
  log : List Record := []
  calls : List ToolCall := []
  stores : List Store := []
  /-- Do all the calls return?  If not, then the steps behind the first that does not are never made. -/
  returns : Bool := true
  deriving Inhabited

namespace Journal

variable {ρ : Type}

/-- The files after the steps. -/
def files (j : Journal ρ) : FileSystem := j.world.files

/-- The journal with one more record. -/
def note (j : Journal ρ) (r : Record) : Journal ρ := { j with log := j.log ++ [r] }

/-- The journal of two stretches of steps, the second one starting where the first ended. -/
def append (j k : Journal ρ) : Journal ρ :=
  ⟨k.world, j.log ++ k.log, j.calls ++ k.calls, j.stores ++ k.stores, j.returns && k.returns⟩

/-- The journal after a call of a tool. -/
def after {α : Type} (j : Journal ρ) (call : ToolCall) (a : Answer ρ α) : Journal ρ :=
  { j with world := a.world, log := j.log ++ a.log, calls := j.calls ++ [call]
           returns := j.returns && a.returns }

/-- The journal after a text was to be stored, with the files that this left. -/
def storing (j : Journal ρ) (s : Store) (fs : FileSystem) : Journal ρ :=
  { j with world := { j.world with files := fs }, stores := j.stores ++ [s] }

end Journal

/-- Succeeds if the source is a file that may be read. -/
def checkSource (fs : FileSystem) (source : Path) : Except Failure Unit :=
  if fs.isReadable source then .ok () else .error (.missingSource source)

/-- Makes the directory for artifacts; what it holds already is kept. -/
def prepareOutput (fs : FileSystem) (dir : Path) : Except Failure Unit × FileSystem :=
  match fs.makeTree dir with
  | (none, fs') => (.ok (), fs')
  | (some e, fs') => (.error (.artifactWrite dir e.message), fs')

/-- Where a diagnostic text is stored. -/
def storedPath (dir : Path) (stem : String) : Path := dir.join ⟨stem ++ ".output"⟩

/-- Stores a diagnostic text under a stem, over what was stored there before. -/
def persist (fs : FileSystem) (dir : Path) (stem text : String) : Except Failure Path × FileSystem :=
  let path := storedPath dir stem
  match fs.writeText path text with
  | .ok fs' => (.ok path, fs')
  | .error e => (.error (.artifactWrite path e.message), fs)

/-- A run of fixtures: where files are, and the tools. -/
structure Audit (ρ : Type) where
  paths : PathSettings
  tools : Toolchain ρ

namespace Audit

variable {ρ : Type}

/-- Where the source of a fixture is. -/
def source (a : Audit ρ) (f : Fixture) : Path := f.sourcePath a.paths.fixtureRoot

/-- Where the artifact of a fixture shall go. -/
def output (a : Audit ρ) (f : Fixture) : Path := a.paths.outputDir.join ⟨f.artifactStem ++ ".ll"⟩

/-- Where the analysed text of a fixture is stored. -/
def textPath (a : Audit ρ) (f : Fixture) : Path := storedPath a.paths.outputDir f.artifactStem

/-- The last stages: the text is stored, and its findings are counted and compared. -/
def conclude (a : Audit ρ) (f : Fixture) (text : String) (j : Journal ρ) :
    Except Failure Evaluation × Journal ρ :=
  let (stored, fs') := persist j.files a.paths.outputDir f.artifactStem text
  let j := j.storing ⟨a.textPath f, text⟩ fs'
  match stored with
  | .error e => (.error e, j)
  | .ok path =>
    let counts := Counts.count text f.expected.keys
    let discrepancies := f.expected.discrepancies counts
    let record : Record := ⟨.debug, f.name ++ " counts: " ++ counts.label, none⟩
    (.ok ⟨text, counts, discrepancies, path⟩, j.note record)

/-- The stages behind the compiler: the artifact is analysed, and then what that says is judged. -/
def examine (a : Audit ρ) (f : Fixture) (artifact : Path) (j : Journal ρ) :
    Except Failure Evaluation × Journal ρ :=
  let analysed := a.tools.analyze artifact j.world
  let j := j.after (.analyze artifact) analysed
  match analysed.result with
  | .error e => (.error e, j)
  | .ok text => a.conclude f text j

/-- The stages of a fixture, up to the first one that fails. -/
def evaluate (a : Audit ρ) (f : Fixture) (w : World ρ) : Except Failure Evaluation × Journal ρ :=
  match checkSource w.files (a.source f) with
  | .error e => (.error e, { world := w })
  | .ok () =>
    let compiled := a.tools.compile (a.source f) (a.output f) w
    let j := Journal.after { world := w } (.compile (a.source f) (a.output f)) compiled
    match compiled.result with
    | .error e => (.error e, j)
    | .ok artifact => a.examine f artifact j

/-- The record that ends the processing of a fixture. -/
def closing (r : FixtureResult) : Record :=
  match r.failure with
  | some e => .ofFailure r.name e
  | none => ⟨.info, r.name ++ " passed", none⟩

/-- Processes one fixture.  It never fails: a failure is part of the result. -/
def process (a : Audit ρ) (f : Fixture) (w : World ρ) : FixtureResult × Journal ρ :=
  let (evaluation, j) := a.evaluate f w
  let result := FixtureResult.ofEvaluation f evaluation
  let j := j.note (closing result)
  (result, { j with log := j.log.map (Record.within f.name) })

/-- Processes fixtures in order, each in the world that the one before left. -/
def processAll (a : Audit ρ) : List Fixture → World ρ → List FixtureResult × Journal ρ
  | [], w => ([], { world := w })
  | f :: rest, w =>
    let (result, j) := a.process f w
    let (results, k) := a.processAll rest j.world
    (result :: results, j.append k)

/-- Runs fixtures: if the tools are not ready or the directory for artifacts cannot be made, no
fixture is touched; otherwise there is one result per fixture. -/
def run (a : Audit ρ) (fixtures : List Fixture) (w : World ρ) :
    Except Failure (List FixtureResult) × Journal ρ :=
  match a.tools.preflight w.files with
  | .error e => (.error e, { world := w, log := [.ofFailure "preflight" e] })
  | .ok () =>
    match prepareOutput w.files a.paths.outputDir with
    | (.error e, fs') =>
      (.error e, { world := { w with files := fs' }, log := [.ofFailure "output directory" e] })
    | (.ok (), fs') =>
      let opening : Record :=
        ⟨.info, "validating " ++ toString fixtures.length ++ " fixtures into "
          ++ a.paths.outputDir.text, none⟩
      let prepared : World ρ := { w with files := fs' }
      let (results, j) := a.processAll fixtures prepared
      (.ok results, Journal.append { world := prepared, log := [opening] } j)

end Audit
end HardenAudit
