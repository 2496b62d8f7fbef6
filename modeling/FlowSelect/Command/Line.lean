import FlowSelect.Command.Similar
import FlowSelect.Text.Literal
import FlowSelect.Text.Numeral
import FlowSelect.OrderedMap
import FlowSelect.Text.Basic
/-! Reading a command line against the parameters a command declares.

A command declares options and arguments. An option has one or more names (`-m` short,
`--match` long), and is either a flag or takes one value: any text, an integer, or one of fixed
choices. Arguments are positional; each takes one word, or all the words left.

Words are read left to right. `--` ends the options: every word after it is positional. A word
that starts with `-` and is longer than that is an option: a long option may carry its value
after `=`, and otherwise takes the next word, whatever it looks like; a word with a single dash
that names no option is read as a cluster of short options, where a short option that takes a
value takes the rest of the cluster, or the next word when nothing is left. Any other word is
positional; a group command stops at its first positional word, which names the command to run.

Values are then checked, eager options first, then options in the order they were first given,
then arguments in the order they are declared; the first failure is reported. Positional words
no argument takes are refused last. -/
namespace FlowSelect.Command

/-- What an option's value must be. -/
inductive Kind where
  /-- Any text. -/
  | text
  /-- An integer, read like a decimal numeral with blanks, a sign and underscores. -/
  | integer
  /-- One of fixed texts. -/
  | choice (choices : List String)
  deriving DecidableEq, Repr

/-- An option a command declares. -/
structure OptionSpec where
  /-- Its names, as declared. -/
  names : List String
  /-- The key its value is found under. -/
  key : String
  /-- Whether it is a flag, which takes no value. -/
  flag : Bool
  /-- What its value must be. -/
  kind : Kind
  /-- Whether it acts before anything else is checked (help and version). -/
  eager : Bool
  deriving DecidableEq, Repr

/-- An argument a command declares. -/
structure ArgumentSpec where
  /-- The key its value is found under; its upper case names it in usage. -/
  key : String
  /-- Whether it must be given. -/
  required : Bool
  /-- Whether it takes all the positional words left. -/
  many : Bool
  deriving DecidableEq, Repr

/-- The parameters of a command, in declared order. -/
structure CommandSpec where
  /-- The options. -/
  options : List OptionSpec
  /-- The arguments. -/
  arguments : List ArgumentSpec
  /-- Whether options may follow positional words; a group stops at its first one. -/
  interspersed : Bool
  deriving DecidableEq, Repr

/-- Why a command line is refused. -/
inductive UsageError where
  /-- An option name no option has, with the close long names. -/
  | noSuchOption (name : String) (possibilities : List String)
  /-- An option that takes a value was given none. -/
  | needsValue (name : String)
  /-- A flag was given a value. -/
  | takesNoValue (name : String)
  /-- A value that an option does not accept: the option's names and why. -/
  | badValue (names : List String) (why : String)
  /-- A required argument was not given. -/
  | missingArgument (key : String)
  /-- Positional words that no argument takes. -/
  | extraArguments (words : List String)
  /-- A command name that no command has. -/
  | noSuchCommand (name : String)
  /-- A group was given no command. -/
  | missingCommand
  deriving DecidableEq, Repr

/-- The message of a usage error. -/
def UsageError.message : UsageError → String
  | .noSuchOption name [] => "No such option " ++ Text.literal name ++ "."
  | .noSuchOption name [p] =>
    "No such option " ++ Text.literal name ++ ". Did you mean " ++ Text.literal p ++ "?"
  | .noSuchOption name ps =>
    "No such option " ++ Text.literal name ++ ". (Did you mean one of: " ++
      ", ".intercalate (ps.map Text.literal) ++ "?)"
  | .needsValue name => "Option " ++ Text.literal name ++ " requires an argument."
  | .takesNoValue name => "Option " ++ Text.literal name ++ " does not take a value."
  | .badValue names why =>
    "Invalid value for " ++ " / ".intercalate (names.map fun n => "'" ++ n ++ "'") ++ ": " ++ why
  | .missingArgument key => "Missing argument '" ++ key.toUpper ++ "'."
  | .extraArguments [w] => "Got unexpected extra argument (" ++ w ++ ")"
  | .extraArguments ws => "Got unexpected extra arguments (" ++ " ".intercalate ws ++ ")"
  | .noSuchCommand name => "No such command " ++ Text.literal name ++ "."
  | .missingCommand => "Missing command."

/-- Whether a usage error is shown under the usage of its command. Errors found while an
option's own words are read (a missing value, or a value given to a flag) are shown alone. -/
def UsageError.showsUsage : UsageError → Bool
  | .needsValue _ => false
  | .takesNoValue _ => false
  | _ => true

/-- The usage words of a command's parameters: `[OPTIONS]` and its arguments. -/
def CommandSpec.usage (c : CommandSpec) : String :=
  " ".intercalate ("[OPTIONS]" :: c.arguments.map fun a =>
    let name := a.key.toUpper
    let name := if a.required then name else "[" ++ name ++ "]"
    if a.many then name ++ "..." else name)

/-! ### Reading words -/

/-- What was given for an option. -/
inductive Given where
  /-- A flag. -/
  | flag
  /-- A value. -/
  | value (v : String)
  deriving DecidableEq, Repr

/-- The options read so far: the last thing given for each key, and the keys in the order
they were first given. -/
structure Reading where
  /-- What was given, by key. -/
  given : OrderedMap Given
  /-- Positional words, in order. -/
  positional : List String
  deriving Repr

/-- The reading with an option given. -/
def Reading.give (r : Reading) (o : OptionSpec) (g : Given) : Reading :=
  { r with given := r.given.insert o.key g }

/-- Whether a name is a short option name: a dash and one character. -/
def isShortName (n : String) : Bool := n.length == 2 && n.startsWith "-" && !n.startsWith "--"

/-- The option with a long name. -/
def CommandSpec.long? (c : CommandSpec) (name : String) : Option OptionSpec :=
  c.options.find? fun o => !isShortName name && o.names.contains name

/-- The option with a short name. -/
def CommandSpec.short? (c : CommandSpec) (name : String) : Option OptionSpec :=
  c.options.find? fun o => isShortName name && o.names.contains name

/-- The long names of a command's options, in declared order. -/
def CommandSpec.longNames (c : CommandSpec) : List String :=
  c.options.flatMap fun o => o.names.filter (!isShortName ·)

/-- A long option given, with the value written after `=` if any; `next` is the word after
it. The result says whether that word was taken as the value. -/
def readLong (r : Reading) (o : OptionSpec) (name : String)
    (attached next : Option String) : Except UsageError (Reading × Bool) :=
  if o.flag then
    match attached with
    | some _ => .error (.takesNoValue name)
    | none => .ok (r.give o .flag, false)
  else
    match attached, next with
    | some v, _ => .ok (r.give o (.value v), false)
    | none, some v => .ok (r.give o (.value v), true)
    | none, none => .error (.needsValue name)

/-- A cluster of short options after a dash; `next` is the word after it. -/
def CommandSpec.readCluster (c : CommandSpec) (r : Reading) (next : Option String) :
    List Char → Except UsageError (Reading × Bool)
  | [] => .ok (r, false)
  | ch :: more =>
    let name := String.ofList ['-', ch]
    match c.short? name with
    | none => .error (.noSuchOption name [])
    | some o =>
      if o.flag then c.readCluster (r.give o .flag) next more
      else if !more.isEmpty then .ok (r.give o (.value (String.ofList more)), false)
      else match next with
        | some v => .ok (r.give o (.value v), true)
        | none => .error (.needsValue name)

/-- A word that starts like an option. -/
def CommandSpec.readOption (c : CommandSpec) (r : Reading) (word : String) (next : Option String) :
    Except UsageError (Reading × Bool) :=
  let (name, attached) := match Text.cut word '=' with
    | some (n, v) => (n, some v)
    | none => (word, none)
  match c.long? name with
  | some o => readLong r o name attached next
  | none =>
    if word.startsWith "--" then
      .error (.noSuchOption name ((closeMatches name c.longNames).mergeSort fun a b => decide (a ≤ b)))
    else c.readCluster r next (word.toList.drop 1)

/-- Whether a word starts like an option. -/
def looksLikeOption (w : String) : Bool := w.startsWith "-" && w.length > 1

/-- The words of a command line read into options and positional words, and the words left
unread when a group stops at its command's name. -/
def CommandSpec.readWords (c : CommandSpec) (r : Reading) : List String →
    Except UsageError (Reading × List String)
  | [] => .ok (r, [])
  | w :: rest =>
    if w == "--" then .ok (r, rest)
    else if looksLikeOption w then
      match c.readOption r w rest.head?, rest with
      | .error e, _ => .error e
      | .ok (r, true), _ :: rest => c.readWords r rest
      | .ok (r, _), rest => c.readWords r rest
    else if c.interspersed then c.readWords { r with positional := r.positional ++ [w] } rest
    else .ok (r, w :: rest)

/-! ### Checking values -/

/-- A parameter's checked value. -/
inductive Setting where
  /-- A flag, given or not. -/
  | flag (b : Bool)
  /-- A text. -/
  | text (s : String)
  /-- An integer. -/
  | integer (n : Int)
  /-- Positional words taken together. -/
  | words (ws : List String)
  /-- Nothing was given. -/
  | absent
  deriving DecidableEq, Repr

/-- The checked value of an option's given value. -/
def OptionSpec.check (o : OptionSpec) : Given → Except UsageError Setting
  | .flag => .ok (.flag true)
  | .value v =>
    match o.kind with
    | .text => .ok (.text v)
    | .integer =>
      match Text.Numeral.read? v with
      | .ok n => .ok (.integer n)
      | .error _ => .error (.badValue o.names (Text.literal v ++ " is not a valid integer."))
    | .choice cs =>
      if cs.contains v then .ok (.text v)
      else
        let listed := ", ".intercalate (cs.map Text.literal)
        let why := match cs with
          | [_] => Text.literal v ++ " is not " ++ listed ++ "."
          | _ => Text.literal v ++ " is not one of " ++ listed ++ "."
        .error (.badValue o.names why)

/-- The arguments' values from the positional words, in declared order, and the words left. -/
def assignArguments : List ArgumentSpec → List String → List (ArgumentSpec × Option (List String)) × List String
  | [], ws => ([], ws)
  | a :: rest, ws =>
    if a.many then
      let (more, left) := assignArguments rest []
      ((a, some ws) :: more, left)
    else match ws with
      | w :: ws' =>
        let (more, left) := assignArguments rest ws'
        ((a, some [w]) :: more, left)
      | [] =>
        let (more, left) := assignArguments rest []
        ((a, none) :: more, left)

/-- The checked values of a reading, by key, or the first failure. -/
def CommandSpec.check (c : CommandSpec) (r : Reading) : Except UsageError (OrderedMap Setting) := do
  let givenOptions := r.given.keys.filterMap fun k => c.options.find? (·.key == k)
  let options ← givenOptions.mapM fun o =>
    match r.given.get? o.key with
    | some g => do pure (o.key, ← o.check g)
    | none => pure (o.key, Setting.absent)
  let (assigned, left) := assignArguments c.arguments r.positional
  let arguments ← assigned.mapM fun (a, ws) =>
    match ws with
    | some [w] => if a.many then pure (a.key, Setting.words [w]) else pure (a.key, Setting.text w)
    | some ws => pure (a.key, Setting.words ws)
    | none => if a.required then .error (.missingArgument a.key) else pure (a.key, Setting.absent)
  if left.isEmpty then pure (OrderedMap.ofList (options ++ arguments))
  else .error (.extraArguments left)

/-- The first eager option given, if any. -/
def CommandSpec.eagerGiven (c : CommandSpec) (r : Reading) : Option String :=
  r.given.keys.find? fun k => (c.options.find? (·.key == k)).any (·.eager)

/-! ### Reading settings -/

/-- A flag's value. -/
def flagOf (s : OrderedMap Setting) (key : String) : Bool :=
  s.get? key == some (.flag true)

/-- A text value, if given. -/
def textOf? (s : OrderedMap Setting) (key : String) : Option String :=
  match s.get? key with
  | some (.text t) => some t
  | _ => none

/-- An integer value, if given. -/
def integerOf? (s : OrderedMap Setting) (key : String) : Option Int :=
  match s.get? key with
  | some (.integer n) => some n
  | _ => none

/-- Positional words taken together. -/
def wordsOf (s : OrderedMap Setting) (key : String) : List String :=
  match s.get? key with
  | some (.words ws) => ws
  | some (.text t) => [t]
  | _ => []

end FlowSelect.Command
