import TagLint.Command.Option

/-! What the command line says about itself. -/
namespace TagLint.Command
open Text

inductive CommandName where
  | check
  | keys
  | locate
  | report
deriving DecidableEq, Repr

def program : Text := "gormlint"

def version : Text := "0.3.0"

namespace CommandName

def all : List CommandName := [check, keys, locate, report]

def text : CommandName → Text
  | check => "check"
  | keys => "keys"
  | locate => "locate"
  | report => "report"

def ofText? (t : Text) : Option CommandName := all.find? (·.text = t)

/-- The arguments as the usage line shows them. -/
def shape : CommandName → Text
  | check => "[OPTIONS] PATHS..."
  | keys => "[OPTIONS]"
  | locate => "[OPTIONS] FILE STRUCT FIELD"
  | report => "[OPTIONS] FILE"

end CommandName

/-- The words that lead to a command; without a command, to the program. -/
def wordsOf (command : Option CommandName) : Text :=
  match command with
  | some c => program ++ [' '] ++ c.text
  | none => program

def usageLine (command : Option CommandName) : Text :=
  "Usage: " ++ wordsOf command ++ " "
    ++ ((command.map CommandName.shape).getD "[OPTIONS] [COMMAND] [ARGS]...".toList)

namespace Page

def program : List String := [
  "",
  "  gormlint: find mistakes in GORM struct tags before GORM does.",
  "",
  "Options:",
  "  --version                       Show the version and exit.",
  "  --json                          Machine-readable JSON output.",
  "  -q, --quiet                     One line per problem, nothing else.",
  "  -v, --verbose                   Tag text, timings and debug logs.",
  "  --log-json                      Structured JSON log output to stderr.",
  "  -c, --config FILE               Use this gormlint.toml instead of searching",
  "                                  for one.",
  "  --project-root DIRECTORY        Directory holding local plugins and the config",
  "                                  search start.",
  "  --max-problems INTEGER RANGE    Default problem cap for every command ([lint]",
  "                                  max_problems).  [x>=1]",
  "  --min-severity [warning|error]  Default severity floor ([lint] min_severity).",
  "  --plugins / --no-plugins        Load or skip tag-key and value-rule plugins",
  "                                  ([plugins] enabled).",
  "  --help                          Show this message and exit.",
  "",
  "Commands:",
  "  check   Check GORM tags in Go files and directories (``-`` reads stdin).",
  "  keys    List tag keys by classification.",
  "  locate  Resolve the source range of STRUCT.FIELD in FILE (zero-based).",
  "  report  Report diagnostics with ranges, severities and codes for FILE.",
  "",
  "  Settings resolve as: these options, GORMLINT_* env vars, gormlint.toml",
  "  (searched up to the go.mod directory), built-in defaults."]

def check : List String := [
  "",
  "  Check GORM tags in Go files and directories (``-`` reads stdin).",
  "",
  "Options:",
  "  --max-problems INTEGER RANGE    Stop reporting after N problems (default from",
  "                                  [lint] max_problems).  [x>=1]",
  "  --min-severity [warning|error]  Hide problems below this severity.",
  "  --errors-only                   Shortcut for --min-severity error.",
  "  --examples                      Show usage examples.",
  "  --help                          Show this message and exit."]

def keys : List String := [
  "",
  "  List tag keys by classification.",
  "",
  "Options:",
  "  --kind [recommended|caution|deprecated|unknown]",
  "                                  Only list keys of this classification.",
  "  --examples                      Show usage examples.",
  "  --help                          Show this message and exit."]

def locate : List String := [
  "",
  "  Resolve the source range of STRUCT.FIELD in FILE (zero-based).",
  "",
  "Options:",
  "  --key TEXT  Tag key to highlight inside the gorm tag.",
  "  --examples  Show usage examples.",
  "  --help      Show this message and exit."]

def report : List String := [
  "",
  "  Report diagnostics with ranges, severities and codes for FILE.",
  "",
  "Options:",
  "  --uri TEXT                    Document URI (default: file URI of FILE).",
  "  --max-problems INTEGER RANGE  Cap on diagnostics (default from [lint]",
  "                                max_problems).  [x>=1]",
  "  --examples                    Show usage examples.",
  "  --help                        Show this message and exit."]

def checkExamples : List String := [
  "  gormlint check models/user.go",
  "  gormlint check ./internal --errors-only",
  "  gormlint check . --max-problems 50",
  "  cat user.go | gormlint check -",
  "  gormlint --json check models/"]

def keysExamples : List String := [
  "  gormlint keys",
  "  gormlint keys --kind deprecated",
  "  gormlint --json keys --kind caution"]

def locateExamples : List String := [
  "  gormlint locate models/user.go User Email",
  "  gormlint locate models/user.go User Email --key uniqueIndex",
  "  gormlint --json locate - User ID < user.go"]

def reportExamples : List String := [
  "  gormlint report models/user.go",
  "  gormlint --json report models/user.go --uri file:///src/models/user.go",
  "  gormlint --json report - < user.go"]

def block (ls : List String) : Text := ls.flatMap fun l => l.toList ++ ['\n']

def help (command : Option CommandName) : Text :=
  usageLine command ++ ['\n'] ++ block (match command with
    | none => program
    | some .check => check
    | some .keys => keys
    | some .locate => locate
    | some .report => report)

def versionText : Text := Command.program ++ ", version " ++ Command.version ++ "\n"

def examples (command : CommandName) : Text :=
  "Examples for '" ++ wordsOf (some command) ++ "':\n\n" ++ block (match command with
    | .check => checkExamples
    | .keys => keysExamples
    | .locate => locateExamples
    | .report => reportExamples)

/-- What is said about a refused command line. -/
def refusal (command : Option CommandName) (fault : UsageFault) : Text :=
  let usage : Text :=
    if fault.showsUsage then
      usageLine command ++ "\nTry '" ++ wordsOf command ++ " --help' for help.\n\n"
    else []
  usage ++ "Error: " ++ fault.message ++ "\n"

end Page
end TagLint.Command
