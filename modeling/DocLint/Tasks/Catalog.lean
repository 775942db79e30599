import DocLint.Tasks.Step

/-!
DocLint.Tasks.Catalog: the tasks and their names.

A task is a list of steps. Some tasks are about a value, such as a version; those whose names end in
`_cli`, and one more, take it from the command line, the others cannot be started from there.
-/

namespace DocLint.Tasks

/-- What a name stands for. -/
inductive Task where
  /-- Steps. -/
  | steps (ss : List Step)
  /-- Steps that need a value, which the command line does not give. -/
  | needs (param : String)
  /-- Steps about the second argument of the command line. The command line has to have `least`
  words, its own name included. -/
  | fromArgument (label : String) (least : Nat) (ss : String → List Step)
  /-- A value of some type, and no task. -/
  | value (type : String)
  /-- A type without values of its own, and no task. -/
  | bareType (name : String)

/-- The name of the package. -/
def packageName : String := "docstring-format-checker"

/-- The directory of the package. -/
def directoryName : String :=
  String.ofList (Text.replaceChar '-' '_' packageName.toList)

/-! ## Linting and checking -/

/-- Formats the code. -/
def lint : List Step :=
  [.line "black --config=pyproject.toml ./", .formatDocuments,
    .line "isort --settings-file=pyproject.toml ./", .line "pycln --config=pyproject.toml src/"]

/-- Checks that code in documents is formatted. -/
def checkDocuments : Step := .onFiles "blacken-docs --check" documents

/-- Checks the types. -/
def checkTypes : Step := .line ("ty check ./src/" ++ directoryName)

/-- Checks the style. -/
def checkStyle : Step := .line ("pylint --rcfile=pyproject.toml src/" ++ directoryName)

/-- Checks the types once more. -/
def checkTypesAgain : Step := .line ("pyright ./src/" ++ directoryName)

/-- Explains the measure of complexity. -/
def complexityNotes : String :=
  "\nNotes from: https://rohaquinlop.github.io/complexipy/#running-the-analysis\n" ++
    "- Complexity <= 5: Simple, easy to understand\n" ++
    "- Complexity 6-15: Moderate, acceptable for most cases\n" ++
    "- Complexity >= 15: Complex, consider refactoring into simpler functions\n\n"

/-- Checks the complexity. -/
def checkComplexity : List Step :=
  [.say complexityNotes, .line ("complexipy ./src/" ++ directoryName)]

/-- Checks the docstrings. -/
def checkDocstrings : Step := .line ("dfc --output=table ./src/" ++ directoryName)

/-- Checks that the package can be built. -/
def checkBuild : List Step := [.line "uv build --out-dir=dist", .line "rm -r dist"]

/-- Checks that the documentation can be built. -/
def checkSite : List Step := [.line "mkdocs build --site-dir=temp", .line "rm -r temp"]

/-- Checks the examples in docstrings of the files whose paths hold some texts. -/
def checkExamples (holding : List String) : Step :=
  .onFiles "pytest --verbose  --verbose --doctest-modules --doctest-continue-on-failure"
    { suffixes := [".py"], holding }

/-- Checks everything. -/
def checkAll : List Step :=
  [.line "black --check --config=pyproject.toml ./", checkDocuments, checkTypes,
    .line "isort --check --settings-file=pyproject.toml ./",
    .line "codespell --toml=pyproject.toml src/ *.py",
    .line "pycln --check --config=pyproject.toml src/", checkStyle, checkTypesAgain] ++
  checkComplexity ++ [checkDocstrings, .line "pytest --config-file=pyproject.toml"] ++ checkBuild ++
  checkSite

/-! ## Versions -/

/-- Switches to a branch. -/
def checkoutBranch (branch : String) : List Step :=
  [.line ("git checkout -B " ++ branch ++ " --track origin/" ++ branch)]

/-- Publishes the coverage report. -/
def addCoverage : List Step :=
  [.line "mkdir -p ./docs/code/coverage/", .line "cp -r ./cov-report/html/. ./docs/code/coverage/",
    .line "git add ./docs/code/coverage/ --force",
    .command ["git", "commit", "--no-verify", "--message=\"Update coverage report [skip ci]\""],
    .line "git push"]

/-- Publishes a version. -/
def updateVersion (version : String) : List Step :=
  [.line ("echo VERSION=\"" ++ version ++ "\""), .line "git add .",
    .command ["git", "commit", "--allow-empty",
      "--message=\"Bump to version `" ++ version ++ "` [skip ci]\""],
    .line "git push --force --no-verify", .line "git status"]

/-- Moves the tag of a version. -/
def fixTag (version : String) : List Step :=
  [.line ("git tag --force " ++ version), .line ("git push --force origin " ++ version)]

/-! ## Documentation -/

/-- Builds the documentation of a version. -/
def buildVersioned (version : String) : List Step :=
  [.line "git config --global --list", .line "git config --local --list",
    .line "git remote --verbose",
    .line ("mike --debug deploy --update-aliases --branch=docs-site --push " ++ version ++ " latest")]

/-- Publishes the documentation of a version. -/
def publishDocs (version : String) : List Step :=
  [.line "git add .",
    .command ["git", "commit", "--message=\"Build docs `" ++ version ++ "` [skip ci]\""],
    .line "git push --force --no-verify --push-option ci.skip"]

/-- Makes the latest version the default one. -/
def setDefault : Step := .line "mike --debug set-default --branch=docs-site --push latest"

/-- Deletes the documentation of a version. -/
def deleteVersion (version : String) : List Step :=
  [.line ("mike --debug delete --branch=docs-site " ++ version)]

/-! ## Names -/

/-- A task about the version that the command line gives. -/
def forVersion (ss : String → List Step) : Task :=
  .fromArgument "<version>" 2 ss

/-- The tasks that format and check. -/
def checkingTasks : List (String × Task) :=
  [("uv_sync", .steps [.line "uv sync --all-groups --native-tls --link-mode=copy"]),
    ("lint_check", .steps (lint ++ checkAll)),
    ("run_black", .steps [.line "black --config=pyproject.toml ./"]),
    ("run_blacken_docs", .steps [.formatDocuments]),
    ("run_isort", .steps [.line "isort --settings-file=pyproject.toml ./"]),
    ("run_pycln", .steps [.line "pycln --config=pyproject.toml src/"]),
    ("run_pyupgrade", .steps [.onFiles "pyupgrade --py3-plus" { suffixes := [".py"] }]),
    ("lint", .steps lint),
    ("check_black", .steps [.line "black --check --config=pyproject.toml ./"]),
    ("check_blacken_docs", .steps [checkDocuments]),
    ("check_ty", .steps [checkTypes]),
    ("check_isort", .steps [.line "isort --check --settings-file=pyproject.toml ./"]),
    ("check_codespell", .steps [.line "codespell --toml=pyproject.toml src/ *.py"]),
    ("check_pylint", .steps [checkStyle]),
    ("check_pyright", .steps [checkTypesAgain]),
    ("check_pycln", .steps [.line "pycln --check --config=pyproject.toml src/"]),
    ("check_build", .steps checkBuild),
    ("check_mkdocs", .steps checkSite),
    ("check_pytest", .steps [.line "pytest --config-file=pyproject.toml"]),
    ("check_docstrings", .steps [checkDocstrings]),
    ("check_complexity", .steps checkComplexity),
    ("check_doctest", .steps [checkExamples [directoryName]]),
    ("check_doctest_module", .needs "module_name"),
    ("check_doctest_cli",
      .fromArgument "<module_name>" 3 fun m => [checkExamples [directoryName, m]]),
    ("check", .steps checkAll)]

/-- The tasks about branches and versions. -/
def versionTasks : List (String × Task) :=
  [("add_git_credentials", .steps [.line "git config --global user.name github-actions[bot]",
      .line "git config --global user.email github-actions[bot]@users.noreply.github.com"]),
    ("git_refresh_current_branch", .steps [.line "git remote update", .line "git fetch --verbose",
      .line "git fetch --verbose --tags", .line "git pull --verbose", .line "git status --verbose",
      .line "git branch --list --verbose", .line "git tag --list --sort=-creatordate"]),
    ("git_checkout_branch", .needs "branch_name"),
    ("git_switch_to_branch", .fromArgument "<branch_name>" 2 checkoutBranch),
    ("git_switch_to_main_branch", .steps (checkoutBranch "main")),
    ("git_switch_to_docs_branch", .steps (checkoutBranch "docs-site")),
    ("git_add_coverage_report", .steps addCoverage),
    ("git_update_version", .needs "version"),
    ("git_update_version_cli", forVersion updateVersion),
    ("git_fix_tag_reference", .needs "version"),
    ("git_fix_tag_reference_cli", forVersion fixTag)]

/-- The tasks about documentation. -/
def documentationTasks : List (String × Task) :=
  [("docs_serve_static", .steps [.line "mkdocs serve"]),
    ("docs_serve_versioned", .steps [.line "mike serve --branch=docs-site"]),
    ("docs_build_static", .steps [.line "mkdocs build --clean"]),
    ("docs_build_versioned", .needs "version"),
    ("docs_build_versioned_cli", forVersion buildVersioned),
    ("update_git_docs", .needs "version"),
    ("update_git_docs_cli", forVersion publishDocs),
    ("docs_check_versions", .steps [.line "mike --debug list --branch=docs-site"]),
    ("docs_delete_version", .needs "version"),
    ("docs_delete_version_cli", forVersion deleteVersion),
    ("docs_set_default", .steps [setDefault]),
    ("build_static_docs", .needs "version"),
    ("build_static_docs_cli", forVersion fun v => .line "mkdocs build --clean" :: publishDocs v),
    ("build_versioned_docs", .needs "version"),
    ("build_versioned_docs_cli", forVersion fun v => buildVersioned v ++ [setDefault])]

/-- Names that are taken by the parts that tasks are made of. -/
def otherNames : List (String × Task) :=
  [("expand_space", .needs "lst"), ("run_command", .steps [.line ""]), ("run", .steps [.line ""]),
    ("get_all_files", .steps []), ("lru_cache", .steps []), ("Path", .steps []),
    ("dedent", .needs "text"), ("Union", .bareType "typing.Union"), ("subprocess", .value "module"),
    ("sys", .value "module"), ("PACKAGE_NAME", .value "str"), ("DIRECTORY_NAME", .value "str"),
    ("command", .value "str"), ("__name__", .value "str"), ("__file__", .value "str"),
    ("__doc__", .value "NoneType"), ("__annotations__", .value "dict")]

/-- What every name stands for. -/
def catalog : List (String × Task) :=
  checkingTasks ++ versionTasks ++ documentationTasks ++ otherNames

end DocLint.Tasks
