/-
  Events: what the library reports while it works, each with its level and its fields. How they are
  written out is up to whoever listens.
-/
import DeclaredTools.Shape.Lint

namespace DeclaredTools

inductive Level where
  | debug
  | info
  | warning
  deriving DecidableEq

def Level.name : Level → String
  | .debug => "debug"
  | .info => "info"
  | .warning => "warning"

/-- Names that a workflow directory can have. -/
def workflowDirectoryNames : List String := [".workflows", ".mcp-workflows"]

inductive Event where
  | fallback (f : Fallback)
  | toolsUnsupported (typeName : String)
  | unknownToolMode (key : String) (mode : Value)
  | documentNotMapping (source typeName : String)
  | entrySkipped (source : String) (key : Value)
  | overridden (key : String)
  | presetDirectoryMissing (path : String)
  | fileSkipped (path : String)
  | fileNotMapping (path : String)
  | lintProblem (path : String) (tool : Value) (problem : Problem)
  | fileLoaded (path : String) (tools : Nat)
  | presetUnnamed
  | presetNotFound (preset : String)
  | directoryMissing (path : String)
  | directoryMisnamed (path : String)
  | directoryEmpty (path : String)
  | toolDisabled (key : String)
  | duplicateName (name replaced key : String)
  | registryCompiled (tools : Nat)
  | argumentsRejected (tool : String) (issues : Nat)
  | toolInvoked (tool : String)

namespace Event

def name : Event → String
  | .fallback (.notAMapping ..) => "shape.not_a_mapping"
  | .fallback (.unknownType ..) => "shape.unknown_type"
  | .toolsUnsupported _ => "tools_ref.unsupported_value"
  | .unknownToolMode .. => "declaration.unknown_tool_mode"
  | .documentNotMapping .. => "declarations.not_a_mapping"
  | .entrySkipped .. => "declarations.entry_skipped"
  | .overridden _ => "merge.declaration_overridden"
  | .presetDirectoryMissing _ => "presets.directory_missing"
  | .fileSkipped _ => "loader.file_skipped"
  | .fileNotMapping _ => "loader.not_a_mapping"
  | .lintProblem .. => "loader.lint_problem"
  | .fileLoaded .. => "loader.file_loaded"
  | .presetUnnamed => "loader.preset_empty_name"
  | .presetNotFound _ => "loader.preset_not_found"
  | .directoryMissing _ => "loader.directory_missing"
  | .directoryMisnamed _ => "loader.directory_name_invalid"
  | .directoryEmpty _ => "loader.directory_empty"
  | .toolDisabled _ => "registry.tool_disabled"
  | .duplicateName .. => "registry.duplicate_name"
  | .registryCompiled _ => "registry.compiled"
  | .argumentsRejected .. => "registry.invalid_arguments"
  | .toolInvoked _ => "registry.invoked"

def level : Event → Level
  | .overridden _ => .debug
  | .fileLoaded .. => .info
  | .toolDisabled _ => .info
  | .registryCompiled _ => .info
  | .argumentsRejected .. => .info
  | .toolInvoked _ => .info
  | _ => .warning

def fields : Event → List (String × Value)
  | .fallback (.notAMapping path typeName) =>
    [("path", .text path), ("value_type", .text typeName)]
  | .fallback (.unknownType path tag) => [("path", .text path), ("type", tag)]
  | .toolsUnsupported typeName => [("value_type", .text typeName)]
  | .unknownToolMode key mode => [("key", .text key), ("tool_mode", mode)]
  | .documentNotMapping source typeName =>
    [("source", .text source), ("value_type", .text typeName)]
  | .entrySkipped source key => [("source", .text source), ("key", key)]
  | .overridden key => [("key", .text key)]
  | .presetDirectoryMissing path => [("path", .text path)]
  | .fileSkipped path => [("path", .text path)]
  | .fileNotMapping path => [("path", .text path)]
  | .lintProblem path tool problem =>
    [("path", .text path), ("tool", tool), ("problem", .text problem.message)]
  | .fileLoaded path tools => [("path", .text path), ("tools", .int tools)]
  | .presetUnnamed => []
  | .presetNotFound preset => [("preset", .text preset)]
  | .directoryMissing path => [("path", .text path)]
  | .directoryMisnamed path =>
    [("path", .text path), ("expected", .list (workflowDirectoryNames.map .text))]
  | .directoryEmpty path => [("path", .text path)]
  | .toolDisabled key => [("key", .text key)]
  | .duplicateName name replaced key =>
    [("name", .text name), ("replaced", .text replaced), ("key", .text key)]
  | .registryCompiled tools => [("tools", .int tools)]
  | .argumentsRejected tool issues => [("tool", .text tool), ("issues", .int issues)]
  | .toolInvoked tool => [("tool", .text tool)]

end Event

end DeclaredTools
