import FlowSelect.Command.Spec
import FlowSelect.Console.Screen
import FlowSelect.Console.Json
import FlowSelect.Filter.Load
import FlowSelect.Request
import FlowSelect.Fragment.Read
import FlowSelect.Catalog.Standard
import FlowSelect.Settings.Load
import FlowSelect.Text.Percent
/-! Running the program's commands.

A run first reads the group's words. A refused command line prints the usage of the command
being read, a hint to ask for help, and the error, and exits with status 2. `--version` prints
the version line. When a command is named, the settings are loaded: a refused settings file
prints its error and exits with status 1, and the settings' warnings are printed unless the run
is quiet. The command's own words are read next, then the command runs:

- `compile FILTERS` prints the backend fragment of filters in the link form (decoded with
  `--raw`), matched as `--match` says or as the settings say;
- `validate FILTER_ID [VALUE]` prints the value normalized, with its label when it has one;
- `query [FILTERS]` prints the backend request parameters as JSON, or the export parameters
  with `--export`, or the page link parameters with `--url`;
- `decode FRAGMENT` prints the groups of a backend fragment, as JSON with `--format json`;
- `options FILTER_ID [PREFIX] --select OPTION` prints the value after picking a suggestion of a
  filter picked in stages, and whether it is complete.

Filters are loaded with a warning for the entries that gave no filter; a refused value prints
`id=value: reason` and the command exits with status 1. An unknown filter exits with status 2
and lists the known ones. Layouts drawn as tables (the catalog, suggestion lists, decoded groups
without `--format json`, and the filters of a verbose compile) are not drawn. -/
namespace FlowSelect.Command

open Console

/-- Prints a refused command line for the command at `path`, under its usage when the error
is shown so, and exits with status 2. -/
def refuse {α : Type} (path usage : String) (e : UsageError) : Session α := do
  if e.showsUsage then
    echo .err ("Usage: " ++ path ++ " " ++ usage ++ "\nTry '" ++ path ++ " --help' for help.\n")
  echo .err ("Error: " ++ e.message)
  stop 2

/-- Prints the usage of the command at `path` as its help, and exits with status 0. -/
def showHelp {α : Type} (path usage : String) : Session α := do
  echo .out ("Usage: " ++ path ++ " " ++ usage)
  stop 0

/-- The value of a command-line reading, refusing it for the command at `path`. -/
def orRefuse {α : Type} (path usage : String) : Except UsageError α → Session α
  | .ok a => pure a
  | .error e => refuse path usage e

/-- Reads a command's words: the checked settings, or a stop for help or a refused line. -/
def readCommand (path usage : String) (spec : CommandSpec) (words : List String) :
    Session (OrderedMap Setting) := do
  let (r, left) ← orRefuse path usage (spec.readWords ⟨OrderedMap.empty, []⟩ words)
  let r := { r with positional := r.positional ++ left }
  match spec.eagerGiven r with
  | some _ => showHelp path usage
  | none => orRefuse path usage (spec.check r)

/-! ### Commands -/

/-- What every command sees: the settings, the suggestion store they seed, the catalog, and
whether the run is verbose. -/
structure Context where
  /-- The settings. -/
  settings : Settings
  /-- The suggestion store. -/
  store : Store
  /-- The filter catalog. -/
  catalog : Catalog
  /-- Whether the run is verbose. -/
  verbose : Bool

/-- The context of settings. -/
def Context.ofSettings (s : Settings) (verbose : Bool) : Context :=
  ⟨s, s.seed Store.empty, Catalog.standard Glossary.plain s.maxOptions, verbose⟩

/-- Loads filters in the link form, warning about ignored entries; refused values are printed
and end the run with status 1. -/
def loadChecked (ctx : Context) (text : String) : Session (List Filter) := do
  let fs ← attempt (filtersOfLink ctx.catalog ctx.store text)
  let ignored := ignoredEntries text fs
  if ignored > 0 then warn (ignoredText ignored)
  let (fs, errors) ← attempt (normalizeFilters ctx.store fs)
  if errors.isEmpty then pure fs
  else do
    errors.forM fun e => complain e none
    stop 1

/-- The definition of a filter id; an unknown id is printed with the known ones and ends the
run with status 2. -/
def definitionOf (ctx : Context) (id : String) : Session Definition :=
  match ctx.catalog.get id with
  | .ok d => pure d
  | .error f => do
    complain f.message (some ("Available: " ++ ", ".intercalate ctx.catalog.ids))
    stop 2

/-- The `compile` command. -/
def compileCommand (ctx : Context) (s : OrderedMap Setting) : Session Unit := do
  let fs ← loadChecked ctx ((textOf? s "filters").getD "")
  let mode := (textOf? s "match").getD ctx.settings.mode
  let encoded := compileFilters fs (Match.ofText mode)
  if ctx.verbose then inform ("match=" ++ mode)
  sayWith .out false true (if flagOf s "raw" then Text.Percent.decode encoded else encoded)

/-- The `validate` command. -/
def validateCommand (ctx : Context) (s : OrderedMap Setting) : Session Unit := do
  let d ← definitionOf ctx ((textOf? s "filter_id").getD "")
  match d.validate ((textOf? s "value").getD "") with
  | .invalid why => do
    complain (d.explain why) none
    stop 1
  | .valid w => do
    let v ← attempt (d.createValue ctx.store w)
    match v.display with
    | some label =>
      if !label.isEmpty && label != v.text then say .out false (v.text ++ " (" ++ label ++ ")")
      else say .out false v.text
    | none => say .out false v.text

/-- The columns of an export, from their comma-separated list. -/
def exportColumns (text : String) : List String :=
  ((Text.pieces text ',').map Text.trim).filter (!·.isEmpty)

/-- The `query` command. -/
def queryCommand (ctx : Context) (s : OrderedMap Setting) : Session Unit := do
  let fs ← loadChecked ctx ((textOf? s "filters").getD "")
  let cfg := ctx.settings
  let range := match integerOf? s "start", integerOf? s "end" with
    | some a, some b => Range.window a b
    | _, _ => Range.relative ((nonZero? (integerOf? s "time_range")).getD cfg.timeRange)
  let mode := Match.ofText ((textOf? s "match").getD cfg.mode)
  let reporter := (Reporter.ofText? ((textOf? s "reporter").getD cfg.reporter)).getD .destination
  let limit := (nonZero? (integerOf? s "limit")).getD cfg.limit
  let params ←
    if flagOf s "as_url" then attempt (pageParams fs range mode reporter limit)
    else
      let q := flowRequest fs mode range reporter limit
      match textOf? s "export_columns" with
      | some cols => attempt (q.exportParams (exportColumns cols))
      | none => attempt q.params
  echo .out (textObject params.entries)

/-- The `decode` command. -/
def decodeCommand (s : OrderedMap Setting) : Session Unit :=
  match Fragment.read ((textOf? s "fragment").getD "") with
  | .error f => do
    complain f.message none
    stop 1
  | .ok gs =>
    if textOf? s "output_format" == some "json" then echo .out (groupsText gs)
    else if gs.isEmpty then inform "No constraint"
    else pure ()

/-- The `options` command. -/
def optionsCommand (ctx : Context) (s : OrderedMap Setting) : Session Unit := do
  let id := (textOf? s "filter_id").getD ""
  let d ← definitionOf ctx id
  let typed := (textOf? s "prefix").getD ""
  match textOf? s "selected" with
  | some picked =>
    match d.complete typed picked with
    | none => do
      complain ("Filter '" ++ id ++ "' has no multi-stage completion") none
      stop 2
    | some c =>
      let state := if c.completed then "complete" else "continue typing"
      say .out true (c.option.value ++ "  [info](" ++ state ++ ")[/info]")
  | none => do
    let found ← attempt (d.suggest ctx.store typed)
    if found.isEmpty then inform "No suggestion"

/-- The `help` command: the usage of the command named first, or of the group. -/
def helpCommand (prog : String) (s : OrderedMap Setting) : Session Unit :=
  match wordsOf s "command" with
  | [] => showHelp prog groupUsage
  | name :: _ =>
    match commandSpec? name with
    | some spec => showHelp (prog ++ " " ++ name) spec.usage
    | none => do
      complain ("Unknown command: " ++ name) none
      stop 1

/-- Runs a named command on its checked settings. -/
def runCommand (prog : String) (ctx : Context) (name : String) (s : OrderedMap Setting) :
    Session Unit :=
  match name with
  | "compile" => compileCommand ctx s
  | "validate" => validateCommand ctx s
  | "query" => queryCommand ctx s
  | "decode" => decodeCommand s
  | "options" => optionsCommand ctx s
  | "help" => helpCommand prog s
  | _ => pure ()

/-! ### The program -/

/-- What the group's words ask for: the settings file, whether the run is quiet or verbose,
and the command with its words. -/
structure Invocation where
  /-- The settings file given, if any. -/
  configPath : Option String
  /-- Whether warnings are left out. -/
  quiet : Bool
  /-- Whether the run is verbose. -/
  verbose : Bool
  /-- The command's name. -/
  command : String
  /-- The command's parameters. -/
  spec : CommandSpec
  /-- The command's words. -/
  words : List String

/-- Reads the group's own words: the checked settings and the words from the command on. The
version and help options act at once. -/
def readGroup (prog : String) (argv : List String) : Session (OrderedMap Setting × List String) := do
  let (r, left) ← orRefuse prog groupUsage (groupSpec.readWords ⟨OrderedMap.empty, []⟩ argv)
  match groupSpec.eagerGiven r with
  | some "version" => do
    echo .out (programName ++ ", version " ++ programVersion)
    stop 0
  | some _ => showHelp prog groupUsage
  | none => do
    let s ← orRefuse prog groupUsage (groupSpec.check r)
    pure (s, left)

/-- Reads the group's words up to the command. A name that names no command is read once more
from itself on as the group's words, so that an option written after `--` still acts or is
refused; otherwise it is refused as no command. -/
def invocation (prog : String) (argv : List String) : Session Invocation := do
  let (s, left) ← readGroup prog argv
  match left with
  | [] => refuse prog groupUsage .missingCommand
  | name :: words =>
    match commandSpec? name with
    | some spec =>
      pure ⟨textOf? s "config", flagOf s "quiet", flagOf s "verbose" || flagOf s "debug",
        name, spec, words⟩
    | none => do
      let _ ← readGroup prog (name :: words)
      refuse prog groupUsage (.noSuchCommand name)

/-- Runs the named command once the settings are loaded. -/
def afterSettings (prog : String) (inv : Invocation)
    (loaded : Except Fault (Settings × List String)) : Session Unit := do
  let (settings, warnings) ← match loaded with
    | .ok v => pure v
    | .error f => do
      complain f.message none
      stop 1
  if !inv.quiet then warnings.forM warn
  let path := prog ++ " " ++ inv.command
  let s ← readCommand path inv.spec.usage inv.spec inv.words
  runCommand prog (Context.ofSettings settings inv.verbose) inv.command s

/-- A run of the program: finished, or waiting for the settings file named on the command
line (or the default one) to be loaded. -/
inductive Step where
  /-- The run is over. -/
  | done (o : Outcome)
  /-- The run goes on once the settings are loaded. -/
  | needsSettings (path : Option String) (resume : Except Fault (Settings × List String) → Outcome)

/-- Runs the program named `prog` on its command-line words. -/
def run (prog : String) (argv : List String) : Step :=
  let (r, sc) := (ExceptT.run (invocation prog argv)).run ⟨"", ""⟩
  match r with
  | .error n => .done ⟨n, sc.out, sc.err⟩
  | .ok inv => .needsSettings inv.configPath fun loaded => (afterSettings prog inv loaded).outcome

end FlowSelect.Command
