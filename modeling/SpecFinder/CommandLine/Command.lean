import SpecFinder.Text.Basic

/-!
# Commands

The commands of the program, and the text that explains each of them.
-/

namespace SpecFinder.CommandLine

def programName : Text := "spec-search".toList

def programVersion : Text := "0.1.0".toList

/-- A command: explain commands, create a settings file, search, or show the
reference of the query language. -/
inductive Command where
  | explain
  | create
  | search
  | reference
  deriving DecidableEq, Repr

namespace Command

def name : Command → Text
  | .explain => "help".toList
  | .create => "init-config".toList
  | .search => "search".toList
  | .reference => "syntax".toList

def ofName? (name : Text) : Option Command :=
  [explain, create, search, reference].find? (·.name == name)

end Command

/-- How something is called, and the lines that explain it. -/
structure Explanation where
  pattern : String
  lines : List String
  deriving DecidableEq, Repr

def programExplanation : Explanation where
  pattern := "[OPTIONS] COMMAND [ARGS]..."
  lines := [
    "",
    "  spec-search: Find specs with a small boolean query language.",
    "",
    "  Searches a directory of specs (one sub-directory with a README.md per spec)",
    "  and ranks them by relevance.",
    "",
    "  Configuration is loaded from ~/.config/spec-search/config.toml by default. Use",
    "  --config to specify an alternative configuration file.",
    "",
    "  Examples:",
    "",
    "      # Find planned API specs mentioning authentication     spec-search search",
    "      \"tag:api status:planned authentication\"",
    "",
    "      # Show the query syntax     spec-search syntax",
    "",
    "Options:",
    "  -c, --config PATH          Path to config file (default: ~/.config/spec-",
    "                             search/config.toml)",
    "  -d, --specs-dir DIRECTORY  Directory containing specs (overrides config)",
    "  --no-color                 Disable colored output",
    "  -v, --verbose              Enable verbose output",
    "  --debug                    Enable debug output (implies --verbose)",
    "  -q, --quiet                Suppress non-error output",
    "  --pager / --no-pager       Force pager on/off (default: auto-detect)",
    "  --version                  Show the version and exit.",
    "  --help                     Show this message and exit.",
    "",
    "Commands:",
    "  help         Show help for a command.",
    "  init-config  Create a new configuration file with default settings.",
    "  search       Search specs and rank them by relevance.",
    "  syntax       Show the search query syntax."]

def explainExplanation : Explanation where
  pattern := "[OPTIONS] [COMMAND]..."
  lines := [
    "",
    "  Show help for a command.",
    "",
    "Options:",
    "  --help  Show this message and exit."]

def createExplanation : Explanation where
  pattern := "[OPTIONS]"
  lines := [
    "",
    "  Create a new configuration file with default settings.",
    "",
    "  Examples:",
    "",
    "    # Create config at default location",
    "    spec-search init-config",
    "",
    "    # Create config for a project's specs",
    "    spec-search init-config --output ./spec-search.toml --specs-dir ./specs",
    "",
    "    # Overwrite existing config",
    "    spec-search init-config --force",
    "",
    "Options:",
    "  -f, --force        Overwrite existing config file",
    "  -o, --output PATH  Output path for config file (default: ~/.config/spec-",
    "                     search/config.toml)",
    "  --specs-dir PATH   Specs directory to record in the config (default: ./specs)",
    "  --help             Show this message and exit."]

def searchExplanation : Explanation where
  pattern := "[OPTIONS] QUERY..."
  lines := [
    "",
    "  Search specs and rank them by relevance.",
    "",
    "  QUERY uses the spec-search query language. Multiple arguments are joined with",
    "  spaces. Run \x60spec-search syntax\x60 for the full reference.",
    "",
    "  Syntax examples:",
    "    spec-search search api authentication",
    "    spec-search search '\"token refresh\" OR oauth'",
    "    spec-search search \"tag:api status:planned\"",
    "    spec-search search \"created:>2025-11-01\"",
    "    spec-search search \"(frontend OR backend) AND api NOT deprecated\"",
    "    spec-search search authetication~",
    "",
    "  Output formats:",
    "    --format text    Ranked results with highlighted matches (default)",
    "    --format paths   One spec path per line (for piping)",
    "    --format json    JSON array of results",
    "",
    "Options:",
    "  -f, --format [text|paths|json]  Output format (default: text)",
    "  -l, --limit INTEGER RANGE       Limit number of results  [x>=1]",
    "  --status TEXT                   Only search specs with this status",
    "  --tag TEXT                      Only search specs with this tag (repeatable)",
    "  --priority TEXT                 Only search specs with this priority",
    "  --assignee TEXT                 Only search specs with this assignee",
    "  --include-archived / --exclude-archived",
    "                                  Search archived specs too (default: from",
    "                                  config)",
    "  --max-matches INTEGER RANGE     Matches shown per spec (default: from config)",
    "                                  [x>=1]",
    "  --context-length INTEGER RANGE  Characters of context around content matches",
    "                                  (default: from config)  [x>=1]",
    "  --help                          Show this message and exit."]

def referenceExplanation : Explanation where
  pattern := "[OPTIONS]"
  lines := [
    "",
    "  Show the search query syntax.",
    "",
    "Options:",
    "  --help  Show this message and exit."]

def Command.explanation : Command → Explanation
  | .explain => explainExplanation
  | .create => createExplanation
  | .search => searchExplanation
  | .reference => referenceExplanation

/-- An explanation as a text. The path is what the program is called by, with the
name of a command behind it. -/
def Explanation.text (explanation : Explanation) (path : List Text) : Text :=
  let usage := "Usage: ".toList ++ Text.join [' '] path ++ ' ' :: explanation.pattern.toList
  Text.join ['\n'] (usage :: explanation.lines.map (·.toList))

end SpecFinder.CommandLine
