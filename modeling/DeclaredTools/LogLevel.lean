/-
  Levels of diagnostics: from which level on events are written.
-/
import DeclaredTools.Text.Case

namespace DeclaredTools

inductive LogLevel where
  | notset
  | debug
  | info
  | warning
  | error
  | critical
  deriving DecidableEq

namespace LogLevel

def name : LogLevel → String
  | .notset => "notset"
  | .debug => "debug"
  | .info => "info"
  | .warning => "warning"
  | .error => "error"
  | .critical => "critical"

/-- The names of levels; two have a second one. -/
def table : List (String × LogLevel) := [
  ("NOTSET", .notset), ("DEBUG", .debug), ("INFO", .info), ("WARNING", .warning),
  ("WARN", .warning), ("ERROR", .error), ("CRITICAL", .critical), ("FATAL", .critical)]

/-- Words that name something else than a level: the form of messages, and the styles of forms. -/
inductive Misnomer where
  | form
  | styles
  deriving DecidableEq

def Misnomer.message : Misnomer → String
  | .form => "'%(levelname)s:%(name)s:%(message)s'"
  | .styles => "unhashable type: 'dict'"

def misnomers : List (String × Misnomer) := [("BASIC_FORMAT", .form), ("_STYLES", .styles)]

/-- The level of a name in upper or lower case; an unknown one means `info`. -/
def ofName (name : String) : Except Misnomer LogLevel :=
  match misnomers.lookup (Text.upper name) with
  | some m => .error m
  | none => .ok ((table.lookup (Text.upper name)).getD .info)

end LogLevel

end DeclaredTools
