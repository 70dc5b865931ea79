import JavaLex.Settings

/-! # Settings from the environment

Each option has a variable that says what it is unless a file says otherwise. A variable that is
not set, or not to a value of the option, leaves it as it is.
-/
namespace JavaLex
open Diagnostics

/-- The variables that are set, with their values. -/
abbrev Environment := List (String × String)

namespace Environment

def get? (e : Environment) (name : String) : Option String :=
  (e.find? (·.1 == name)).map (·.2)

def flag (e : Environment) (name : String) (standard : Bool) : Bool :=
  match e.get? name with
  | some "true" => true
  | some "false" => false
  | _ => standard

def level (e : Environment) (name : String) (standard : Level) : Level :=
  ((e.get? name).bind Level.ofText?).getD standard

def fileRules (e : Environment) : FileRules :=
  let standard : FileRules := {}
  { requireExtension := e.flag "JTOK_REQUIRE_JAVA_EXTENSION" standard.requireExtension
    rejectEmpty := e.flag "JTOK_REJECT_EMPTY_FILES" standard.rejectEmpty
    timing := e.flag "JTOK_ENABLE_PERFORMANCE_LOGGING" standard.timing }

def scanOptions (e : Environment) : ScanOptions :=
  let standard : ScanOptions := {}
  { countKinds := e.flag "JTOK_LEXICAL_DETAILED_METRICS" standard.countKinds
    countComments := e.flag "JTOK_LEXICAL_INCLUDE_COMMENTS" standard.countComments
    dumpOnFailure := e.flag "JTOK_LEXICAL_DUMP_ON_FAILURE" standard.dumpOnFailure }

def logOptions (e : Environment) : LogOptions :=
  let standard : LogOptions := {}
  { structured := e.flag "JTOK_LOGGING_USE_STRUCTURED" standard.structured
    console := e.flag "JTOK_LOGGING_ENABLE_CONSOLE" standard.console
    level := e.level "JTOK_LOGGING_MIN_LEVEL" standard.level
    summary := e.flag "JTOK_LOGGING_CARGO_STYLE" standard.summary }

def settings (e : Environment) : Settings :=
  ⟨e.fileRules, e.scanOptions, e.logOptions⟩

def settingsFileVariable : String := "JTOK_CONFIG_FILE"

/-- All variables that say something here. -/
def names : List String :=
  [settingsFileVariable, "JTOK_REQUIRE_JAVA_EXTENSION", "JTOK_REJECT_EMPTY_FILES",
    "JTOK_ENABLE_PERFORMANCE_LOGGING", "JTOK_LEXICAL_DETAILED_METRICS",
    "JTOK_LEXICAL_INCLUDE_COMMENTS", "JTOK_LEXICAL_DUMP_ON_FAILURE",
    "JTOK_LOGGING_USE_STRUCTURED", "JTOK_LOGGING_ENABLE_CONSOLE", "JTOK_LOGGING_MIN_LEVEL",
    "JTOK_LOGGING_CARGO_STYLE"]

/-- The file that the settings are to be read from. -/
def settingsFile? (e : Environment) : Option String :=
  (e.get? settingsFileVariable).filter (!·.isEmpty)

end Environment
end JavaLex
