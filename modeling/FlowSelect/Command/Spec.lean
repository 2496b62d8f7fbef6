import FlowSelect.Command.Line
/-! The commands of the program and the parameters each declares.

The program is a group of commands. The group takes the settings file (`--config`, `-c`),
`--no-color`, `--verbose` (`-v`), `--debug`, `--quiet` (`-q`), `--version` and `--help`, then
the name of a command and the command's own words. Every command also takes `--help`. -/
namespace FlowSelect.Command

/-- The name the program gives in its version line. -/
def programName : String := "netflow-filters"

/-- The program's version. -/
def programVersion : String := "0.1.0"

/-- A flag. -/
def flagSpec (names : List String) (key : String) : OptionSpec := ⟨names, key, true, .text, false⟩

/-- An option taking a value of some kind. -/
def valueSpec (names : List String) (key : String) (kind : Kind) : OptionSpec :=
  ⟨names, key, false, kind, false⟩

/-- The help option every command takes. -/
def helpSpec : OptionSpec := ⟨["--help"], "help", true, .text, true⟩

/-- A command that reads options after its positional words too, with the help option. -/
def commandOf (options : List OptionSpec) (arguments : List ArgumentSpec) : CommandSpec :=
  ⟨options ++ [helpSpec], arguments, true⟩

/-- The group's parameters. -/
def groupSpec : CommandSpec :=
  ⟨[valueSpec ["--config", "-c"] "config" .text, flagSpec ["--no-color"] "no_color",
    flagSpec ["--verbose", "-v"] "verbose", flagSpec ["--debug"] "debug",
    flagSpec ["--quiet", "-q"] "quiet", ⟨["--version"], "version", true, .text, true⟩, helpSpec],
   [], false⟩

/-- The usage words of the group. -/
def groupUsage : String := groupSpec.usage ++ " COMMAND [ARGS]..."

/-- The match mode option. -/
def matchSpec : OptionSpec := valueSpec ["--match", "-m"] "match" (.choice ["all", "any"])

/-- The commands by name. -/
def commandSpec? : String → Option CommandSpec
  | "catalog" => some (commandOf [flagSpec ["--hints"] "hints"] [])
  | "compile" => some (commandOf [matchSpec, flagSpec ["--raw"] "raw"] [⟨"filters", true, false⟩])
  | "decode" =>
    some (commandOf [valueSpec ["--format"] "output_format" (.choice ["table", "json"])]
      [⟨"fragment", true, false⟩])
  | "help" => some (commandOf [] [⟨"command", false, true⟩])
  | "options" =>
    some (commandOf [valueSpec ["--select"] "selected" .text]
      [⟨"filter_id", true, false⟩, ⟨"prefix", false, false⟩])
  | "query" =>
    some (commandOf
      [matchSpec, valueSpec ["--reporter", "-r"] "reporter" (.choice ["source", "destination", "both"]),
       valueSpec ["--limit", "-n"] "limit" .integer, valueSpec ["--range"] "time_range" .integer,
       valueSpec ["--start"] "start" .integer, valueSpec ["--end"] "end" .integer,
       valueSpec ["--export"] "export_columns" .text, flagSpec ["--url"] "as_url"]
      [⟨"filters", false, false⟩])
  | "validate" => some (commandOf [] [⟨"filter_id", true, false⟩, ⟨"value", false, false⟩])
  | _ => none

end FlowSelect.Command
