import DocLint.Report.Output

/-!
DocLint.CommandLine.Examples: the examples that the help shows.
-/

namespace DocLint.CommandLine

open Report (Output coloured)

/-- A text, followed by blanks up to a width. -/
def padTo (width : Nat) (text : String) : String :=
  text ++ String.ofList (List.replicate (width - text.length) ' ')

/-! ## Usage -/

/-- Commands and what they do. -/
def usages : List (String × String) :=
  [("dfc myfile.py", "# Check a single Python file (list output)"),
    ("dfc myfile.py other_file.py", "# Check multiple Python files"),
    ("dfc src/", "# Check all Python files in src/ directory"),
    ("dfc -x src/app/__init__.py src/",
      "# Check all Python files in src/ directory, excluding one init file"),
    ("dfc --output=table myfile.py", "# Check with table output format"),
    ("dfc -o list myfile.py", "# Check with list output format (default)"),
    ("dfc --check myfile.py", "# Check and exit with error if issues found"),
    ("dfc --quiet myfile.py", "# Check quietly, only show pass/fail"),
    ("dfc --quiet --check myfile.py", "# Check quietly and exit with error if issues found"),
    ("dfc . --exclude '*/tests/*'", "# Check current directory, excluding tests"),
    ("dfc . -c custom.toml", "# Use custom configuration file"),
    ("dfc --example=config", "# Show example configuration"),
    ("dfc -e usage", "# Show usage examples (this help)")]

/-- A command and what it does on one line. The remarks stand below one another. -/
def usageLine (usage : String × String) : String :=
  let gap := List.replicate (32 - usage.1.length) ' '
  coloured "blue" usage.1 ++ String.ofList gap ++ coloured "green" usage.2

/-- The examples of usage. -/
def usagePanel : Output :=
  .panel "Usage Examples" ("\n".intercalate
    ("Execute the below commands in any terminal after installing the package." :: "" ::
      usages.map usageLine))

/-! ## Configuration -/

/-- Sections of an example: the name, the kind, whether it is required, and the rest of the line. -/
def exampleSections : List (String × SectionKind × Bool × String) :=
  [("summary", .freeText, true, ", admonition = \"note\", prefix = \"!!!\""),
    ("details", .freeText, false, ", admonition = \"abstract\", prefix = \"???+\""),
    ("params", .listNameAndType, false, ""),
    ("raises", .listType, false, ""),
    ("returns", .listNameAndType, false, ""),
    ("yields", .listType, false, ""),
    ("examples", .freeText, false, ", admonition = \"example\", prefix = \"???+\""),
    ("notes", .freeText, false, ", admonition = \"note\", prefix = \"???\"")]

/-- The line of a section and its place. -/
def exampleLine (s : (String × SectionKind × Bool × String) × Nat) : String :=
  let ((name, kind, required, more), order) := s
  "    " ++ coloured "blue" ("\x7b order = " ++ toString order ++ ", name = " ++
    padTo 12 ("\"" ++ name ++ "\",") ++ "type = " ++ padTo 22 ("\"" ++ kind.label ++ "\",") ++
    "required = " ++ (if required then "true" else "false") ++ more ++ " \x7d,")

/-- The example of a configuration. -/
def configPanel : Output :=
  .panel "Configuration Example" ("\n".intercalate (
    ["Place the below config in your `pyproject.toml` file.", "",
      coloured "blue" "\\[tool.dfc]",
      coloured "green" "# or \\[tool.docstring-format-checker]",
      coloured "blue" "allow_undefined_sections = false",
      coloured "blue" "require_docstrings = true",
      coloured "blue" "check_private = true",
      coloured "blue" "validate_param_types = true",
      coloured "blue" "optional_style = \"validate\"" ++ "  " ++
        coloured "green" "# \"silent\", \"validate\", or \"strict\"",
      coloured "blue" "sections = ["] ++
    (exampleSections.zipIdx 1).map exampleLine ++ [coloured "blue" "]"]))

end DocLint.CommandLine
