import HardenAudit.Pipeline

/-!
# Scripted tools

Tools whose answers are read from a table by the path they are called with, for trying out a run
without a compiler and an analyser.
-/

namespace HardenAudit.Scripted

variable {ρ : Type}

/-- What the compiler does for a source: it fails, or writes a text and names an artifact. -/
structure Compilation where
  failure : Option Failure := none
  content : String := "; ModuleID = 'fixture'\n"
  artifact : Option Path := none
  deriving DecidableEq, Repr, Inhabited

/-- What the analyser does for an artifact: it fails, or gives a text. -/
structure Analysis where
  failure : Option Failure := none
  text : String := ""
  deriving DecidableEq, Repr, Inhabited

/-- Compiles by a table from source paths.  An output that cannot be written is passed over. -/
def compile (table : List (String × Compilation)) (source output : Path) (w : World ρ) :
    Answer ρ Path :=
  let entry := (table.lookup source.text).getD {}
  match entry.failure with
  | some e => { result := .error e, world := w }
  | none =>
    let files := match w.files.writeText output entry.content with
      | .ok fs => fs
      | .error _ => w.files
    { result := .ok (entry.artifact.getD output), world := { w with files := files } }

/-- Analyses by a table from artifact paths. -/
def analyze (table : List (String × Analysis)) (artifact : Path) (w : World ρ) :
    Answer ρ String :=
  let entry := (table.lookup artifact.text).getD {}
  match entry.failure with
  | some e => { result := .error e, world := w }
  | none => { result := .ok entry.text, world := w }

/-- Ready, unless a failure is given. -/
def preflight (failure : Option Failure) (_ : FileSystem) : Except Failure Unit :=
  match failure with
  | some e => .error e
  | none => .ok ()

end HardenAudit.Scripted
