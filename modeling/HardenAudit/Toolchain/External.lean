import HardenAudit.Launch.Bounded

/-!
# External tools

The compiler and the analyser as programs of a machine, with the commands that the settings call
for.  The compiler has to end with success; what the analyser says counts even if it does not.
-/

namespace HardenAudit.External

open Launch (Command Machine)

variable {ρ : Type}

/-- The command that compiles a source. -/
def compileCommand (s : ToolSettings) (source output : Path) : Command :=
  ⟨s.compiler, s.compilerArgs ++ ["-o", output.text, source.text]⟩

/-- The command that analyses an artifact.  It only reports, and writes no module. -/
def analyzeCommand (s : ToolSettings) (artifact : Path) : Command :=
  ⟨s.analyzer, s.analyzerArgs ++
    ["-load-pass-plugin=" ++ s.pluginPath.text, "-passes=" ++ s.passName, "-disable-output",
      artifact.text]⟩

/-- Compiles a source; an end without success is a failure with everything the compiler said. -/
def compile (machine : Machine ρ) (s : ToolSettings) (limit : UInt64) (source output : Path)
    (w : World ρ) : Answer ρ Path :=
  let ran := Launch.run machine (compileCommand s source output) (.ofMilliseconds limit) w
  match ran.result with
  | .error e => { result := .error e, world := ran.world, log := ran.log, returns := ran.returns }
  | .ok capture =>
    if capture.status.success then
      { result := .ok output
        world := ran.world
        log := ran.log ++ [⟨.debug, "compiled " ++ source.text ++ " -> " ++ output.text, none⟩]
        returns := ran.returns }
    else
      { result := .error (.compileFailed capture.status.code? capture.stderr)
        world := ran.world
        log := ran.log
        returns := ran.returns }

/-- An exit code as a log line shows it. -/
def statusLabel : Option Int → String
  | some n => "Some(" ++ toString n ++ ")"
  | none => "None"

/-- Analyses an artifact; an end without success is only noted. -/
def analyze (machine : Machine ρ) (s : ToolSettings) (limit : UInt64) (artifact : Path)
    (w : World ρ) : Answer ρ String :=
  let ran := Launch.run machine (analyzeCommand s artifact) (.ofMilliseconds limit) w
  match ran.result with
  | .error e => { result := .error e, world := ran.world, log := ran.log, returns := ran.returns }
  | .ok capture =>
    let remark : List Record :=
      if capture.status.success then []
      else [⟨.warn, s.analyzer ++ " exited with " ++ statusLabel capture.status.code? ++ " on "
        ++ artifact.text ++ "; using captured diagnostics", none⟩]
    { result := .ok capture.stderr
      world := ran.world
      log := ran.log ++ remark
      returns := ran.returns }

/-- Ready if the plugin is there. -/
def preflight (s : ToolSettings) (fs : FileSystem) : Except Failure Unit :=
  if fs.pathExists s.pluginPath then .ok () else .error (.fatalPrecondition s.pluginPath)

/-- The tools that the settings name. -/
def toolchain (machine : Machine ρ) (s : Settings) : Toolchain ρ where
  preflight := preflight s.tools
  compile := compile machine s.tools s.limits.compile
  analyze := analyze machine s.tools s.limits.analyze

end HardenAudit.External
