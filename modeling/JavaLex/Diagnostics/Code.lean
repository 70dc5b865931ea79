/-! # Codes and their classification

Every event carries a code. The codes of errors are registered with a category, a severity
and what to do about them; a code that is not registered reads as a recoverable one of medium
severity that nothing is known about.
-/
namespace JavaLex.Diagnostics

abbrev Code := String

inductive Severity where
  | critical
  | high
  | medium
  | low
  deriving DecidableEq, Repr, Inhabited

def Severity.name : Severity → String
  | .critical => "Critical"
  | .high => "High"
  | .medium => "Medium"
  | .low => "Low"

structure Classification where
  code : Code
  category : String
  severity : Severity
  recoverable : Bool
  requiresHalt : Bool
  description : String
  action : String
  deriving DecidableEq, Repr, Inhabited

namespace Code

def internalError : Code := "ERR001"
def workerFailure : Code := "ERR003"

def fileNotFound : Code := "E005"
def invalidExtension : Code := "E006"
def fileTooLarge : Code := "E007"
def emptyFile : Code := "E008"
def permissionDenied : Code := "E009"
def invalidEncoding : Code := "E010"
def unreadableFile : Code := "E011"
def invalidPath : Code := "E012"
def tooManyLines : Code := "E013"

def unexpectedCharacter : Code := "E020"
def unexpectedEndOfInput : Code := "E021"
def invalidComment : Code := "E022"
def emptyCharacterLiteral : Code := "E023"
def expectedCharacter : Code := "E024"
def unreadableSource : Code := "E025"
def tooManyTokens : Code := "E026"

def directoryNotFound : Code := "E030"
def noSourceFiles : Code := "E031"
def tooManyFiles : Code := "E032"
def discoveryFailure : Code := "E033"

def plainWarning : Code := "W000"
def largeFile : Code := "W010"
def extensionMismatch : Code := "W011"
def tokenDump : Code := "W012"

def plainInfo : Code := "I000"
def initializationCompleted : Code := "I004"
def fileRead : Code := "I006"
def tokenizationComplete : Code := "I020"
def discoveryComplete : Code := "I030"
def batchComplete : Code := "I031"

def plainDebug : Code := "D000"

end Code

/-- Errors after which the file at hand is given up. -/
private def halting (code : Code) (category : String) (severity : Severity)
    (description action : String) : Classification :=
  ⟨code, category, severity, false, true, description, action⟩

/-- Errors that a change of the settings would turn into none. -/
private def avoidable (code : Code) (category : String) (description action : String) :
    Classification :=
  ⟨code, category, .low, true, false, description, action⟩

def registry : List Classification :=
  [halting "ERR001" "System" .critical "Critical internal error"
      "File a bug report with the input that triggered it",
    halting "ERR002" "System" .critical "Logging system initialization failure"
      "Check runtime configuration and environment variables",
    halting "ERR003" "System" .high "A batch worker thread panicked"
      "Re-run with --sequential to isolate the failing file",
    halting "ERR004" "System" .high "Runtime configuration could not be loaded"
      "Fix the TOML file named by JTOK_CONFIG_FILE",
    halting "E005" "FileProcessing" .medium "File not found at specified path"
      "Check file path and ensure file exists",
    avoidable "E006" "FileProcessing" "File does not have a .java extension"
      "Rename the file or disable JTOK_REQUIRE_JAVA_EXTENSION",
    halting "E007" "FileProcessing" .medium "File exceeds maximum size limit"
      "Split the compilation unit or raise the size limit",
    avoidable "E008" "FileProcessing" "File is empty while empty files are rejected"
      "Provide a file with content or disable JTOK_REJECT_EMPTY_FILES",
    halting "E009" "FileProcessing" .medium "Permission denied accessing file"
      "Check file permissions and user access rights",
    halting "E010" "FileProcessing" .medium "File is not valid UTF-8"
      "Re-encode the source file as UTF-8",
    halting "E011" "FileProcessing" .medium "I/O error while reading file"
      "Check the file system and retry",
    halting "E012" "FileProcessing" .medium "Path is not a regular file"
      "Pass a .java file or a directory",
    halting "E013" "FileProcessing" .medium "File exceeds maximum line count"
      "Split the compilation unit",
    halting "E020" "Lexical" .high "Character does not start any token"
      "Check the source compiles; the tokenizer expects valid Java",
    halting "E021" "Lexical" .high "Input ended inside a literal"
      "Close the string, character or text block literal",
    halting "E022" "Lexical" .high "Block comment is never closed"
      "Terminate the comment with */",
    halting "E023" "Lexical" .high "Character literal has no content"
      "Put exactly one character or escape between the quotes",
    halting "E024" "Lexical" .high
      "Required character missing, e.g. the line break after an opening text block delimiter"
      "Start text block content on the line after the opening delimiter",
    halting "E025" "Lexical" .medium "Source could not be read for tokenization"
      "Check the path and file permissions",
    halting "E026" "Lexical" .high "File produced more tokens than the configured limit"
      "Split the compilation unit",
    halting "E030" "Batch" .medium "Directory not found"
      "Check the directory path",
    avoidable "E031" "Batch" "No .java files found"
      "Point at a directory containing Java sources or drop --no-recursive",
    halting "E032" "Batch" .medium "Too many files for a single batch"
      "Raise --max-files or process subdirectories separately",
    halting "E033" "Batch" .medium "I/O error while walking the directory tree"
      "Check directory permissions"]

namespace Code

def classification? (code : Code) : Option Classification :=
  registry.find? (·.code == code)

def isRegistered (code : Code) : Bool :=
  code.classification?.isSome

def category (code : Code) : String :=
  (code.classification?.map (·.category)).getD "Unknown"

def severity (code : Code) : Severity :=
  (code.classification?.map (·.severity)).getD .medium

def isRecoverable (code : Code) : Bool :=
  (code.classification?.map (·.recoverable)).getD true

/-- Whether the file at hand is given up. -/
def requiresHalt (code : Code) : Bool :=
  (code.classification?.map (·.requiresHalt)).getD false

def description? (code : Code) : Option String :=
  code.classification?.map (·.description)

def action? (code : Code) : Option String :=
  code.classification?.map (·.action)

def description (code : Code) : String :=
  code.description?.getD "Unknown error"

def action (code : Code) : String :=
  code.action?.getD "No specific action available"

end Code
end JavaLex.Diagnostics
