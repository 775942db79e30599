import DocLint.CommandLine.Arguments

/-!
DocLint.CommandLine.Help: the description of the command line.
-/

namespace DocLint.CommandLine

/-- What an option does. -/
def Flag.description : Flag → String
  | .config => "Path to configuration file (TOML format)"
  | .exclude => "Glob patterns to exclude (can be used multiple times)"
  | .output => "Output format: 'table' or 'list'"
  | .check => "Throw error (exit 1) if any issues are found"
  | .quiet => "Only output pass/fail confirmation, suppress errors unless failing"
  | .examples =>
    "Show examples: 'config' for configuration example, 'usage' for usage examples"
  | .version => "Show version and exit"
  | .help => "Show this message and exit"

/-- The line of an option. -/
def optionLine (o : Flag × String × Char) : String :=
  let value := if o.1.takesValue then " TEXT" else ""
  "  " ++ o.2.1 ++ ", -" ++ String.ofList [o.2.2] ++ value ++ "  " ++ o.1.description

/-- The description of the command line. -/
def helpText : String :=
  "\n".intercalate
    (["Usage: dfc [OPTIONS] [PATHS]...", "", "Check Python docstring formatting and completeness.", "",
      "Arguments:", "  [PATHS]...  Path(s) to Python file(s) or directory(s) for DFC to check", "",
      "Options:"] ++ Flag.names.map optionLine)

end DocLint.CommandLine
