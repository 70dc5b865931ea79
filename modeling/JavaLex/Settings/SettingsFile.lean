import JavaLex.Files.FileTree
import JavaLex.Settings.Environment
import JavaLex.Text.Escaped
import JavaLex.Toml.Document

/-! # Settings files

A file of settings is a TOML document with a table for each group of options. A group may also be
given as the list of its options in their order, and a date in its place mentions none of them. What
a file does not mention stays as the environment has it, and names that are not known are passed
over.
-/
namespace JavaLex
open Diagnostics Files Toml

inductive SettingsError where
  | unreadable (path : String) (fault : AccessFault)
  | malformed
  deriving DecidableEq, Repr, Inhabited

namespace SettingsError

def message : SettingsError → String
  | .unreadable path fault =>
    s!"Failed to read configuration file '{path}': {fault.message}"
  | .malformed => "Invalid configuration"

/-- The error with all that is known about it. -/
def details : SettingsError → String
  | .unreadable path fault =>
    "Io \x7b path: " ++ Text.quoted path ++ ", source: " ++ fault.details ++ " \x7d"
  | .malformed => "Parse"

end SettingsError

namespace Settings

/-- The options of a group by their names, or by their places in a list. -/
def group? (names : List String) : Value → Option (List (Option Value))
  | .table _ entries => some (names.map fun name => Entries.get? entries name)
  | .array items => some ((List.range names.length).map fun n => items[n]?)
  | .tables items =>
    some ((List.range names.length).map fun n => items[n]?.map (Value.table .header))
  | .date _ => some (names.map fun _ => none)
  | _ => none

def flag? (standard : Bool) : Option Value → Option Bool
  | none => some standard
  | some (.bool value) => some value
  | some _ => none

/-- Levels are named in lower case here, and without abbreviations. -/
def levelOfName? : String → Option Level
  | "error" => some .error
  | "warning" => some .warning
  | "info" => some .info
  | "debug" => some .debug
  | _ => none

/-- A level is a text, or a table with the level as the one name, and nothing to it. -/
def level? (standard : Level) : Option Value → Option Level
  | none => some standard
  | some (.text name) => levelOfName? name
  | some (.table _ [(name, .table _ [])]) => levelOfName? name
  | some (.table _ [(name, .array [])]) => levelOfName? name
  | some _ => none

def fileRules? (standard : FileRules) : Option Value → Option FileRules
  | none => some standard
  | some value =>
    match group? ["require_java_extension", "reject_empty_files", "enable_performance_logging"]
      value with
    | some [require, reject, timing] => do
      return ⟨← flag? standard.requireExtension require, ← flag? standard.rejectEmpty reject,
        ← flag? standard.timing timing⟩
    | _ => none

def scanOptions? (standard : ScanOptions) : Option Value → Option ScanOptions
  | none => some standard
  | some value =>
    match group?
      ["collect_detailed_metrics", "include_comments_in_counts", "dump_tokens_on_failure"]
      value with
    | some [kinds, comments, dump] => do
      return ⟨← flag? standard.countKinds kinds, ← flag? standard.countComments comments,
        ← flag? standard.dumpOnFailure dump⟩
    | _ => none

def logOptions? (standard : LogOptions) : Option Value → Option LogOptions
  | none => some standard
  | some value =>
    match group? ["use_structured_logging", "enable_console_logging", "min_log_level",
      "enable_cargo_style_output"] value with
    | some [structured, console, level, summary] => do
      return ⟨← flag? standard.structured structured, ← flag? standard.console console,
        ← level? standard.level level, ← flag? standard.summary summary⟩
    | _ => none

/-- The settings that a document gives, on top of those of the environment. -/
def ofToml? (standard : Settings) (text : String) : Option Settings := do
  let entries ← Toml.read? text
  return ⟨← fileRules? standard.files (entries.get? "file_processor"),
    ← scanOptions? standard.scan (entries.get? "lexical"),
    ← logOptions? standard.log (entries.get? "logging")⟩

def ofText (standard : Settings) (text : String) : Except SettingsError Settings :=
  match ofToml? standard text with
  | some settings => .ok settings
  | none => .error .malformed

def ofFile (standard : Settings) (t : FileTree) (p : FilePath) : Except SettingsError Settings :=
  match t.readText p with
  | .ok text => ofText standard text
  | .error fault => .error (.unreadable p.spelling fault)

/-- The settings of the file that the environment names, or else of the environment alone. -/
def ofEnvironment (e : Environment) (t : FileTree) : Except SettingsError Settings :=
  match e.settingsFile? with
  | some name => ofFile e.settings t ⟨name⟩
  | none => .ok e.settings

end Settings
end JavaLex
