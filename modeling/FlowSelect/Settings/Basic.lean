import FlowSelect.OrderedMap
import FlowSelect.Settings.Value
import FlowSelect.Suggest.Store
/-! Settings: the defaults of the command line and the candidates it suggests.

Settings hold the default match mode, limit, time range and reporter of a query, how many
suggestions to keep, the namespaces, kinds and workload names to suggest, and whether output is
coloured. They are read from a settings document: each known key, when present, must have the
right kind of value, and unknown keys are ignored. Checking them afterwards refuses a match mode
or reporter outside the known ones and a limit, range or suggestion count that is not positive,
and warns about every names key that is not of the form `Kind.namespace` (exactly one dot);
such keys are also left out when the names are handed to a suggestion store. -/
namespace FlowSelect

/-- The settings of the command line. -/
structure Settings where
  /-- The default match mode, as written. -/
  mode : String
  /-- The default flow limit. -/
  limit : Int
  /-- The default relative time range, in seconds. -/
  timeRange : Int
  /-- The default reporter, as written. -/
  reporter : String
  /-- How many suggestions a lookup keeps. -/
  maxOptions : Int
  /-- Namespaces to suggest. -/
  namespaces : List String
  /-- Kinds to suggest. -/
  kinds : List String
  /-- Workload names to suggest, under `Kind.namespace` keys. -/
  names : OrderedMap (List String)
  /-- Whether output is coloured. -/
  colored : Bool
  deriving Repr

namespace Settings

/-- The settings used when nothing is configured. -/
def defaults : Settings :=
  ⟨"all", 100, 300, "destination", 10, [], [], OrderedMap.empty, true⟩

/-- A text setting. -/
def text (key : String) : Value → Except Fault String
  | .text s => .ok s
  | _ => .error (.badSetting key "must be a string")

/-- An integer setting; a boolean is no integer. -/
def integer (key : String) : Value → Except Fault Int
  | .integer n => .ok n
  | _ => .error (.badSetting key "must be an integer")

/-- A boolean setting. -/
def boolean (key : String) : Value → Except Fault Bool
  | .bool b => .ok b
  | _ => .error (.badSetting key "must be a boolean")

/-- A setting that is a list of texts. -/
def texts (key : String) (v : Value) : Except Fault (List String) :=
  let fault : Fault := .badSetting key "must be a list of strings"
  match v with
  | .array xs => xs.mapM fun
    | .text s => .ok s
    | _ => .error fault
  | _ => .error fault

/-- The names setting: a table of lists of texts. -/
def nameLists (v : Value) : Except Fault (OrderedMap (List String)) :=
  match v with
  | .table es => do
    let entries ← es.mapM fun (k, x) => do
      let names ← texts ("autocomplete.names." ++ k) x
      pure (k, names)
    pure (OrderedMap.ofList entries)
  | _ => .error (.badSetting "autocomplete.names" "must be a table")

/-- A setting read from a section, when present. -/
def readKey {α : Type} (sec : Value) (key : String) (read : Value → Except Fault α)
    (current : α) : Except Fault α := do
  match ← sec.lookup key with
  | some v => read v
  | none => pure current

/-- The settings a document gives, starting from the defaults. -/
def ofDocument (doc : Value) : Except Fault Settings := do
  let d := defaults
  let query ← doc.child "query"
  let mode ← readKey query "match" (text "query.match") d.mode
  let reporter ← readKey query "reporter" (text "query.reporter") d.reporter
  let limit ← readKey query "limit" (integer "query.limit") d.limit
  let timeRange ← readKey query "time_range" (integer "query.time_range") d.timeRange
  let auto ← doc.child "autocomplete"
  let maxOptions ← readKey auto "max_options" (integer "autocomplete.max_options") d.maxOptions
  let namespaces ← readKey auto "namespaces" (texts "autocomplete.namespaces") d.namespaces
  let kinds ← readKey auto "kinds" (texts "autocomplete.kinds") d.kinds
  let names ← readKey auto "names" nameLists d.names
  let display ← doc.child "display"
  let colored ← readKey display "colored_output" (boolean "display.colored_output") d.colored
  pure ⟨mode, limit, timeRange, reporter, maxOptions, namespaces, kinds, names, colored⟩

/-- The number of dots in a text. -/
def dots (s : String) : Nat := s.toList.count '.'

/-- Checks the settings; gives the warnings, or the first setting out of range. -/
def validate (s : Settings) : Except Fault (List String) :=
  if !(s.mode == "all" || s.mode == "any") then .error (.badSetting "query.match" "must be 'all' or 'any'")
  else if !(s.reporter == "source" || s.reporter == "destination" || s.reporter == "both") then
    .error (.badSetting "query.reporter" "must be 'source', 'destination' or 'both'")
  else if s.limit ≤ 0 then .error (.badSetting "query.limit" "must be positive")
  else if s.timeRange ≤ 0 then .error (.badSetting "query.time_range" "must be positive")
  else if s.maxOptions ≤ 0 then .error (.badSetting "autocomplete.max_options" "must be positive")
  else .ok ((s.names.keys.filter fun k => dots k != 1).map fun k =>
    "autocomplete.names key '" ++ k ++ "' is not in the Kind.namespace form, ignored")

/-- A store holding the settings' suggestion candidates; names keys without exactly one dot
are left out. -/
def seed (s : Settings) (store : Store) : Store :=
  let store := (store.setNamespaces s.namespaces).setKinds s.kinds
  s.names.entries.foldl (fun st (k, ns) =>
    if dots k != 1 then st
    else match Text.cut k '.' with
      | some (kind, n) => st.setNames kind n ns
      | none => st) store

/-- The document the settings are saved as: the query and display sections always, and the
suggestion section with only the entries that differ from the defaults, when any does. -/
def toDocument (s : Settings) : Value :=
  let query := Value.table [("match", .text s.mode), ("limit", .integer s.limit),
    ("time_range", .integer s.timeRange), ("reporter", .text s.reporter)]
  let display := Value.table [("colored_output", .bool s.colored)]
  let auto : List (String × Value) :=
    (if s.maxOptions != defaults.maxOptions then [("max_options", .integer s.maxOptions)] else []) ++
    (if s.namespaces.isEmpty then [] else [("namespaces", .array (s.namespaces.map .text))]) ++
    (if s.kinds.isEmpty then [] else [("kinds", .array (s.kinds.map .text))]) ++
    (if s.names.entries.isEmpty then []
     else [("names", .table (s.names.entries.map fun (k, ns) => (k, .array (ns.map .text))))])
  .table ([("query", query), ("display", display)] ++
    (if auto.isEmpty then [] else [("autocomplete", .table auto)]))

end Settings

end FlowSelect
