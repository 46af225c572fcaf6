import HardenAudit.FileSystem.Basic
import HardenAudit.Json.Record
import HardenAudit.Log
import HardenAudit.Settings.Basic

/-!
# Reading settings

The fields of the settings, and loading them from a file.
-/

namespace HardenAudit

open Json (FieldReader ReadError)

/-- A path, written as a string. -/
def pathField {σ : Type} (name : String) (store : σ → Path → σ) : FieldReader σ :=
  .of name (Json.stringValue "path string") fun s text => store s ⟨text⟩

/-- A text. -/
def textField {σ : Type} (name : String) (store : σ → String → σ) : FieldReader σ :=
  .of name (Json.stringValue "a string") store

namespace ToolSettings

/-- The fields of the tool settings in their order. -/
def fields : List (FieldReader ToolSettings) :=
  [textField "compiler" fun s v => { s with compiler := v },
   .of "compiler_args" Json.stringsValue fun s v => { s with compilerArgs := v },
   textField "analyzer" fun s v => { s with analyzer := v },
   .of "analyzer_args" Json.stringsValue fun s v => { s with analyzerArgs := v },
   pathField "plugin_path" fun s v => { s with pluginPath := v },
   textField "pass_name" fun s v => { s with passName := v }]

end ToolSettings

namespace PathSettings

/-- The fields of the path settings in their order. -/
def fields : List (FieldReader PathSettings) :=
  [pathField "fixture_root" fun s v => { s with fixtureRoot := v },
   pathField "output_dir" fun s v => { s with outputDir := v }]

end PathSettings

namespace TimeLimits

/-- The fields of the time limits in their order. -/
def fields : List (FieldReader TimeLimits) :=
  [.of "compile_ms" Json.wordValue fun s v => { s with compile := v },
   .of "analyze_ms" Json.wordValue fun s v => { s with analyze := v }]

end TimeLimits

namespace Settings

/-- The sections of the settings in their order. -/
def fields : List (FieldReader Settings) :=
  [.of "toolchain" (Json.readRecord "ToolchainConfig" ToolSettings.fields {})
      fun s v => { s with tools := v },
   .of "paths" (Json.readRecord "PathsConfig" PathSettings.fields {})
      fun s v => { s with paths := v },
   .of "timeouts" (Json.readRecord "TimeoutConfig" TimeLimits.fields {})
      fun s v => { s with limits := v }]

/-- The settings that a text gives. -/
def parse (text : String) : Except ReadError Settings :=
  Json.readWhole (Json.readRecord "HarnessConfig" fields {}) text

/-- Why settings could not be loaded. -/
inductive LoadError where
  | unreadable (path : Path) (error : FileError)
  | malformed (path : Path) (error : ReadError)
  deriving DecidableEq, Repr, Inhabited

/-- What was being done when loading failed. -/
def LoadError.context : LoadError → String
  | unreadable path _ => "reading harness config " ++ path.text
  | malformed path _ => "parsing harness config " ++ path.text

/-- What went wrong in loading. -/
def LoadError.cause : LoadError → String
  | unreadable _ error => error.message
  | malformed _ error => error.message

/-- The settings in a file, with the log records of loading them. -/
def load (fs : FileSystem) (path : Path) : Except LoadError Settings × List Record :=
  match fs.readText path with
  | .error e => (.error (.unreadable path e), [])
  | .ok text =>
    match parse text with
    | .error e => (.error (.malformed path e), [])
    | .ok s => (.ok s, [⟨.info, "[Config] Loaded configuration from " ++ Text.quoted path.text, none⟩])

/-- The settings in a file, or the defaults if no file is named. -/
def resolve (fs : FileSystem) : Option Path → Except LoadError Settings × List Record
  | some path => load fs path
  | none => (.ok {}, [⟨.debug, "[Config] Using embedded configuration", none⟩])

end Settings
end HardenAudit
