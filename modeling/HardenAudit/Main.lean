import HardenAudit.CommandLine.Execute
import HardenAudit.FileSystem.Setup
import HardenAudit.Host.Machine

/-!
# The program

Takes a picture of the current directory, runs the audit on it, and carries out on the disk what the
audit has changed.
-/

namespace HardenAudit

open FileSystem (Change Supply)

/-- What is in the current directory.  A file that starts with the mark of a script may be executed. -/
def supplies : IO (List Supply) := do
  let here ← IO.currentDir
  let mut found := #[]
  for p in ← here.walkDir do
    let path : Path := ⟨String.ofList (p.toString.toList.drop (here.toString.length + 1))⟩
    if ← p.isDir then found := found.push { path := path, content := none }
    else
      let content := (← IO.FS.readBinFile p).toList
      let executable := [35, 33].isPrefixOf content
      found := found.push { path := path, content := some content, executable := executable }
  return found.toList

/-- Carries out one change. -/
def carryOut : Change → IO Unit
  | .removeFile path => IO.FS.removeFile path
  | .removeDirectory path => IO.FS.removeDir path
  | .makeDirectory path => IO.FS.createDirAll path
  | .writeFile path content => IO.FS.writeBinFile path (ByteArray.mk content.toArray)

/-- Runs the audit in the current directory: carries out what it changed, prints what it printed, and
gives its exit status.  A run that never ends is waited for. -/
def runHere (args : List String) : IO UInt32 := do
  let before := (← supplies).foldl FileSystem.supply Host.system
  match CommandLine.execute (Host.machine []) args (Host.world before) with
  | some outcome =>
    for change in FileSystem.changes before outcome.files do
      carryOut change
    IO.print outcome.stdout
    IO.eprint (if outcome.exit = 2 then outcome.stderr ++ "\n" else outcome.stderr)
    return outcome.exit.toUInt32
  | none =>
    repeat IO.sleep 1000
    return 1

end HardenAudit

/-- The entry point of the program. -/
def main (args : List String) : IO UInt32 := HardenAudit.runHere args
