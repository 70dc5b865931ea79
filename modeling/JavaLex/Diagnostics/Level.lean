import JavaLex.Unicode.LowerCase

/-! # Log levels

From errors to debugging, each level is less severe than the one before it.
-/
namespace JavaLex.Diagnostics

inductive Level where
  | error
  | warning
  | info
  | debug
  deriving DecidableEq, Repr, Inhabited

namespace Level

/-- The rank of a level; a higher one is less severe. -/
def rank : Level → Nat
  | .error => 0
  | .warning => 1
  | .info => 2
  | .debug => 3

instance : LE Level := ⟨fun a b => a.rank ≤ b.rank⟩

instance (a b : Level) : Decidable (a ≤ b) := inferInstanceAs (Decidable (a.rank ≤ b.rank))

instance : Max Level := ⟨fun a b => if a ≤ b then b else a⟩

/-- The level as log lines show it. -/
def label : Level → String
  | .error => "ERROR"
  | .warning => "WARN"
  | .info => "INFO"
  | .debug => "DEBUG"

/-- The level as settings files and messages name it. -/
def name : Level → String
  | .error => "Error"
  | .warning => "Warning"
  | .info => "Info"
  | .debug => "Debug"

/-- A level by its name in any case, by an abbreviation or by its rank. -/
def ofText? (text : String) : Option Level :=
  match Unicode.lower text with
  | "error" | "0" => some .error
  | "warning" | "warn" | "1" => some .warning
  | "info" | "2" => some .info
  | "debug" | "3" => some .debug
  | _ => none

/-- Warnings are logged whatever level is asked for. -/
def floor : Level := .warning

end Level
end JavaLex.Diagnostics
