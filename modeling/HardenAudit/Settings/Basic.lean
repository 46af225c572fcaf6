import HardenAudit.Json.Value
import HardenAudit.Path

/-!
# Settings of a run

Which tools are run, where files are, and how long a tool may take.  Every field has a default.
-/

namespace HardenAudit

/-- The two external tools and the plugin that the analysis loads. -/
structure ToolSettings where
  compiler : String := "clang"
  compilerArgs : List String := ["-S", "-emit-llvm"]
  analyzer : String := "opt"
  analyzerArgs : List String := []
  pluginPath : Path := ⟨"./build/FIHardeningPass.so"⟩
  passName : String := "fi-harden"
  deriving DecidableEq, Repr, Inhabited

/-- Where sources are and where artifacts go. -/
structure PathSettings where
  fixtureRoot : Path := ⟨"."⟩
  outputDir : Path := ⟨"./test_results"⟩
  deriving DecidableEq, Repr, Inhabited

/-- How many milliseconds each tool may take. -/
structure TimeLimits where
  compile : UInt64 := 60000
  analyze : UInt64 := 300000
  deriving DecidableEq, Repr, Inhabited

/-- All settings of a run. -/
structure Settings where
  tools : ToolSettings := {}
  paths : PathSettings := {}
  limits : TimeLimits := {}
  deriving DecidableEq, Repr, Inhabited

namespace Settings

/-- A list of texts as JSON. -/
def listJson (l : List String) : Json := .array (l.map .string)

/-- The settings as JSON, every field written out. -/
def json (s : Settings) : Json :=
  .object
    [("toolchain", .object
        [("compiler", .string s.tools.compiler),
         ("compiler_args", listJson s.tools.compilerArgs),
         ("analyzer", .string s.tools.analyzer),
         ("analyzer_args", listJson s.tools.analyzerArgs),
         ("plugin_path", .string s.tools.pluginPath.text),
         ("pass_name", .string s.tools.passName)]),
     ("paths", .object
        [("fixture_root", .string s.paths.fixtureRoot.text),
         ("output_dir", .string s.paths.outputDir.text)]),
     ("timeouts", .object
        [("compile_ms", .number s.limits.compile.toNat),
         ("analyze_ms", .number s.limits.analyze.toNat)])]

/-- The written form of the settings. -/
def pretty (s : Settings) : String := s.json.pretty

end Settings
end HardenAudit
