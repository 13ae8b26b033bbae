/-
  The presets that come with the library, in a directory of their own.
-/
import DeclaredTools.Files.Basic

namespace DeclaredTools.Builtin

/-- The directory of the built-in presets. -/
def directory : Path := ⟨1, ["@builtin"]⟩

/-- Lines, each with its line feed. -/
def document (lines : List String) : String := String.join (lines.map (· ++ "\n"))

def thinking : String := document [
  "# Reasoning workflows that chain other tools",
  "",
  "think:",
  "  description: \"Reflect on a problem before acting\"",
  "  prompt: |",
  "    Take a moment to think through the problem step by step before answering.",
  "    Consider alternative approaches and note any assumptions you are making.",
  "",
  "plan_task:",
  "  description: \"Break a task into an ordered plan\"",
  "  parameters:",
  "    task:",
  "      type: \"string\"",
  "      description: \"The task to plan\"",
  "      required: true",
  "  prompt: |",
  "    Break \"\x7b\x7b task \x7d\x7d\" into small, verifiable steps.",
  "  tools: \"think, search\"",
  "  toolMode: \"sequential\"",
  "",
  "debug_mode:",
  "  description: \"Systematically track down the cause of a bug\"",
  "  parameters:",
  "    symptom:",
  "      type: \"string\"",
  "      description: \"What goes wrong\"",
  "      required: true",
  "  prompt: |",
  "    Investigate why \x7b\x7b symptom \x7d\x7d happens. Form hypotheses, "
    ++ "then confirm or rule each out.",
  "  tools:",
  "    think: \"Reason about the likely causes\"",
  "    search:",
  "      description: \"Look up error messages\"",
  "      prompt: \"Search for the exact error text\"",
  "      optional: true",
  "  toolMode: \"situational\""]

def examples : String := document [
  "# Tools demonstrating typed parameters",
  "",
  "search_tool:",
  "  name: \"search\"",
  "  description: \"Search for information\"",
  "  parameters:",
  "    query:",
  "      type: \"string\"",
  "      description: \"The search query\"",
  "      required: true",
  "    limit:",
  "      type: \"number\"",
  "      description: \"Maximum number of results\"",
  "      default: 10",
  "    includeArchived:",
  "      type: \"boolean\"",
  "      description: \"Whether to include archived items\"",
  "      default: false",
  "    filterType:",
  "      type: \"enum\"",
  "      enum: [\"all\", \"recent\", \"popular\"]",
  "      description: \"Type of filter to apply\"",
  "      default: \"all\"",
  "  prompt: |",
  "    Search for \"\x7b\x7b query \x7d\x7d\" and summarize the most relevant results.",
  "    Return at most \x7b\x7b limit \x7d\x7d results.",
  "",
  "calculator_tool:",
  "  name: \"calculator\"",
  "  description: \"Perform mathematical calculations\"",
  "  parameters:",
  "    expression:",
  "      type: \"string\"",
  "      description: \"The mathematical expression to evaluate\"",
  "      required: true",
  "    precision:",
  "      type: \"number\"",
  "      description: \"Number of decimal places in the result\"",
  "      default: 2",
  "  prompt: |",
  "    Evaluate \x7b\x7b expression \x7d\x7d and round the result to "
    ++ "\x7b\x7b precision \x7d\x7d decimal places.",
  "",
  "data_processor:",
  "  name: \"process_data\"",
  "  description: \"Process and analyze data\"",
  "  parameters:",
  "    data:",
  "      type: \"array\"",
  "      description: \"The data to process\"",
  "      required: true",
  "      items:",
  "        type: \"number\"",
  "    operations:",
  "      type: \"array\"",
  "      description: \"Operations to perform on the data\"",
  "      default: [\"sum\", \"average\"]",
  "      items:",
  "        type: \"enum\"",
  "        enum: [\"sum\", \"average\", \"min\", \"max\", \"count\"]",
  "    outputFormat:",
  "      type: \"enum\"",
  "      enum: [\"json\", \"csv\", \"table\"]",
  "      description: \"Format of the output\"",
  "      default: \"json\"",
  "  prompt: |",
  "    Apply \x7b\x7b operations \x7d\x7d to the data "
    ++ "\x7b\x7b data \x7d\x7d and report the results as \x7b\x7b outputFormat \x7d\x7d.",
  "",
  "advanced_tool:",
  "  name: \"advanced_configuration\"",
  "  description: \"Configure a system with complex parameters\"",
  "  parameters:",
  "    name:",
  "      type: \"string\"",
  "      description: \"Name of the configuration\"",
  "      required: true",
  "    settings:",
  "      type: \"object\"",
  "      description: \"Configuration settings\"",
  "      required: true",
  "      properties:",
  "        performance:",
  "          type: \"object\"",
  "          description: \"Performance settings\"",
  "          properties:",
  "            level:",
  "              type: \"enum\"",
  "              enum: [1, 2, 3, 4, 5]",
  "              description: \"Performance level (1-5)\"",
  "              default: 3",
  "            optimizeFor:",
  "              type: \"enum\"",
  "              enum: [\"speed\", \"memory\", \"balanced\"]",
  "              description: \"What to optimize for\"",
  "              default: \"balanced\"",
  "        security:",
  "          type: \"object\"",
  "          description: \"Security settings\"",
  "          properties:",
  "            enabled:",
  "              type: \"boolean\"",
  "              description: \"Whether security is enabled\"",
  "              default: true",
  "            levels:",
  "              type: \"array\"",
  "              description: \"Security levels to apply\"",
  "              items:",
  "                type: \"string\"",
  "    tags:",
  "      type: \"array\"",
  "      description: \"Tags for this configuration\"",
  "      items:",
  "        type: \"string\"",
  "    timeout:",
  "      type: \"number\"",
  "      description: \"Timeout in seconds\"",
  "      default: 30",
  "  prompt: |",
  "    Apply the configuration named \"\x7b\x7b name \x7d\x7d\" with these "
    ++ "settings: \x7b\x7b settings \x7d\x7d.",
  "    Abort if it does not finish within \x7b\x7b timeout \x7d\x7d seconds."]

/-- The preset files by name. -/
def files : List (String × String) := [("thinking.yaml", thinking), ("examples.yaml", examples)]

/-- The files with the built-in presets among them. -/
def mount (fs : FileSystem) : FileSystem :=
  files.foldl (fun fs (name, text) =>
    fs.add (directory.child name).parts (.file text.toUTF8.toList)) fs

end DeclaredTools.Builtin
