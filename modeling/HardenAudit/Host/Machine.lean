import HardenAudit.ExtendedShell.Session
import HardenAudit.FileSystem.Setup
import HardenAudit.Kernel.Run
import HardenAudit.Program.Calculate
import HardenAudit.Program.Calendar
import HardenAudit.Program.Calling
import HardenAudit.Program.Checksum
import HardenAudit.Program.Columns
import HardenAudit.Program.Compare
import HardenAudit.Program.Condition
import HardenAudit.Program.Counting
import HardenAudit.Program.Describing
import HardenAudit.Program.Difference
import HardenAudit.Program.Display
import HardenAudit.Program.Dump
import HardenAudit.Program.Edit.Run
import HardenAudit.Program.Encoding
import HardenAudit.Program.Format
import HardenAudit.Program.Grep
import HardenAudit.Program.Identity
import HardenAudit.Program.Installing
import HardenAudit.Program.Joining
import HardenAudit.Program.Launching
import HardenAudit.Program.Listing
import HardenAudit.Program.Naming
import HardenAudit.Program.Numbering
import HardenAudit.Program.Order
import HardenAudit.Program.Parts
import HardenAudit.Program.Records.Run
import HardenAudit.Program.Relations
import HardenAudit.Program.Repeats
import HardenAudit.Program.Splitting
import HardenAudit.Program.Tabs
import HardenAudit.Program.Transfer
import HardenAudit.Program.Translate
import HardenAudit.Shell.Session

/-!
# A system that runs programs

A machine whose programs are the ones of this library, and a file system in which they are
installed.
-/

namespace HardenAudit.Host

/-! ## The programs of the system -/

section Programs

open Kernel (Environment Routine Work)
open Program

/-- The programs by name, the shells apart. -/
def programs : List (String × Program) :=
  [("[", test true), ("arch", arch), ("base32", encodingProgram .thirtyTwo),
   ("base64", encodingProgram .sixtyFour), ("basename", basename), ("cat", cat), ("chmod", chmod),
   ("cksum", cksum), ("cmp", cmp), ("comm", comm), ("cp", cp), ("cut", cut), ("date", date),
   ("dd", dd), ("diff", diff), ("dirname", dirname), ("echo", echo), ("egrep", grepAs 'E'),
   ("env", env), ("expand", expand), ("expr", expr), ("factor", factor),
   ("false", fun _ _ => pure 1), ("fgrep", grepAs 'F'), ("find", find), ("fold", fold),
   ("grep", grepWith 'G'), ("groups", showGroups), ("head", head), ("id", identity),
   ("install", install), ("join", join), ("link", link), ("ln", ln), ("logname", logname),
   ("ls", ls), ("mawk", Records.awk), ("md5sum", digestProgram .md5), ("mkdir", mkdir),
   ("mkfifo", mkfifo), ("mktemp", mktemp), ("mv", mv), ("nice", nice), ("nl", nl),
   ("nohup", nohup), ("od", od), ("paste", paste), ("printenv", printenv), ("printf", printf),
   ("pwd", pwd), ("readlink", readlink), ("realpath", realpath), ("rev", rev), ("rm", rm),
   ("rmdir", rmdir), ("sed", sed), ("seq", seq), ("setsid", setsid),
   ("sha1sum", digestProgram .sha1), ("sha224sum", digestProgram .sha224),
   ("sha256sum", digestProgram .sha256), ("sha384sum", digestProgram .sha384),
   ("sha512sum", digestProgram .sha512), ("sleep", sleep), ("sort", sort), ("split", split),
   ("stat", stat), ("stdbuf", stdbuf), ("sum", blockSum), ("sync", sync), ("tac", tac),
   ("tail", tail), ("tee", tee), ("test", test false), ("timeout", timeout), ("touch", touch),
   ("tr", tr), ("true", fun _ _ => pure 0), ("truncate", truncate), ("tsort", tsort),
   ("tty", tty), ("uname", uname), ("unexpand", unexpand), ("uniq", uniq), ("unlink", unlink),
   ("wc", wc), ("which", which), ("whoami", whoami), ("xargs", xargs), ("yes", yes)]

/-- The shells by name. -/
def shells : List (String × (List String → Environment → Routine)) :=
  [("dash", Shell.program), ("bash", ExtendedShell.program)]

/-- What a program does. -/
def load (name : String) (argv : List String) (env : Environment) : Routine :=
  match shells.lookup name with
  | some shell => shell argv env
  | none =>
    match programs.lookup name with
    | some p => (p argv env).routine
    | none => .exit 127

end Programs

/-! ## The system -/

open Launch (Behaviour Machine)

/-- The directory in which programs are installed. -/
def programDirectory : Location := ["usr", "bin"]

/-- Devices beside the one that every system has. -/
def devices : List String := ["full", "random", "tty", "urandom", "zero"]

/-- Programs that are links to others. -/
def aliases : List (String × String) := [("sh", "dash"), ("awk", "mawk"), ("nawk", "mawk")]

/-- A system with all programs installed and an empty directory to work in. -/
def system : FileSystem :=
  let add (fs : FileSystem) (loc : Location) (matter : Matter) (mode : Nat) : FileSystem :=
    fs.put loc (FileSystem.systemNode matter mode)
  let fs := devices.foldl (fun fs name => add fs ["dev", name] .device 0o666) FileSystem.bare
  let fs := aliases.foldl (fun fs a => add fs (programDirectory ++ [a.1]) (.link a.2) 0o777) fs
  let names := (shells.map (·.1) ++ programs.map (·.1)).filter fun n => (aliases.lookup n).isNone
  names.foldl (fun fs name => add fs (programDirectory ++ [name]) (.program name) 0o755) fs

/-- The directories that are searched for programs, in order. -/
def searchPath : List String :=
  ["/usr/local/sbin", "/usr/local/bin", "/usr/sbin", "/usr/bin", "/sbin", "/bin"]

/-- The variables that a launched program is given. -/
def environment : Kernel.Environment :=
  [("PATH", ":".intercalate searchPath), ("HOME", "/root")]

/-- The path of a program that a command names. -/
def findProgram (fs : FileSystem) (name : String) : Except FileError String :=
  if name = "" then .error .notFound
  else if name.toList.contains '/' then .ok name
  else if name.utf8ByteSize > FileSystem.nameLimit then .error .nameTooLong
  else
    match (searchPath.map (· ++ "/" ++ name)).find? fun p => fs.pathExists ⟨p⟩ with
    | some path => .ok path
    | none => .error .notFound

/-- Launches a command in a world where processes may still run, with some variables beside the usual
ones. -/
def launch (variables_ : Kernel.Environment) (w : World Kernel.State) (c : Launch.Command)
    (horizon : Nat) : Except FileError (Behaviour Kernel.State) := do
  let path ← findProgram w.files c.program
  let argv := (c.program :: c.args).map Text.Raw.ofText
  let (program, argv) ← Kernel.resolve w.files Kernel.chainLimit (Text.Raw.ofText path) argv
  .ok (Kernel.launch load w program argv (environment ++ variables_) horizon)

/-- The machine, on which some variables are set beside the usual ones. -/
def machine (variables_ : Kernel.Environment) : Machine Kernel.State := ⟨launch variables_⟩

/-- The world of a system at rest. -/
def world (files : FileSystem) : World Kernel.State := ⟨files, default⟩

end HardenAudit.Host
