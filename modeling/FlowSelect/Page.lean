import FlowSelect.Filter.Groups
import FlowSelect.Filter.Link
import FlowSelect.Text.Numeral
/-! The state of the flow console page, and its link parameters.

A page shows flows that match its filters in a time range, either the last so many seconds or a
window between two instants, reported from one side, at most `limit` of them. The state is kept
in link parameters. Reading a parameter that is missing or unreadable gives its default, and so
does a range or limit of zero: a relative range wins over a window, and a window needs both of
its ends. Numbers are read as decimal numerals with blanks, a sign and underscores allowed. -/
namespace FlowSelect

/-- The time range of a page. -/
inductive Range where
  /-- The last `seconds` seconds. -/
  | relative (seconds : Int)
  /-- Between two instants, in seconds since the epoch. -/
  | window (start stop : Int)
  deriving DecidableEq, Repr

/-- The side of a flow the exporter reported it from. -/
inductive Reporter where
  | source
  | destination
  | both
  deriving DecidableEq, Repr

/-- The parameter text of a reporter. -/
def Reporter.text : Reporter → String
  | .source => "source"
  | .destination => "destination"
  | .both => "both"

/-- The reporter a parameter text names exactly, if any. -/
def Reporter.ofText? : String → Option Reporter
  | "source" => some .source
  | "destination" => some .destination
  | "both" => some .both
  | _ => none

/-- The match mode a parameter text names exactly, if any. -/
def Match.ofText? : String → Option Match
  | "all" => some .all
  | "any" => some .any
  | _ => none

/-- The default relative range, in seconds. -/
def defaultRange : Int := 300

/-- The default number of flows shown. -/
def defaultFlowLimit : Int := 100

/-- Link parameters, in the order they were written. -/
abbrev Params := OrderedMap String

/-- The integer a parameter holds, if it is there and reads as one. -/
def Params.int? (p : Params) (key : String) : Option Int :=
  (p.get? key).bind fun raw => match Text.Numeral.read? raw with
    | .ok n => some n
    | .error _ => none

/-- A number that counts as set: present and not zero. -/
def nonZero? : Option Int → Option Int
  | some n => if n = 0 then none else some n
  | none => none

/-- The range a page's parameters give. -/
def Params.range (p : Params) : Range :=
  match nonZero? (p.int? "timeRange") with
  | some r => .relative r
  | none =>
    match nonZero? (p.int? "startTime"), nonZero? (p.int? "endTime") with
    | some a, some b => .window a b
    | _, _ => .relative defaultRange

/-- The flow limit a page's parameters give. -/
def Params.limit (p : Params) : Int := (nonZero? (p.int? "limit")).getD defaultFlowLimit

/-- The match mode a page's parameters give. -/
def Params.mode (p : Params) : Match := ((p.get? "match").bind Match.ofText?).getD .all

/-- The reporter a page's parameters give. -/
def Params.reporter (p : Params) : Reporter :=
  ((p.get? "reporter").bind Reporter.ofText?).getD .destination

/-- Everything a page shows. -/
structure PageState where
  /-- The active filters. -/
  filters : List Filter
  /-- The time range. -/
  range : Range
  /-- Whether all filters must hold or any one suffices. -/
  mode : Match
  /-- The side flows are reported from. -/
  reporter : Reporter
  /-- How many flows are shown at most. -/
  limit : Int
  deriving Repr

/-- The state of a page from its parameters, filters read from the `filters` parameter. -/
def Params.pageState (p : Params) (c : Catalog) (s : Store) : Except Fault PageState := do
  let fs ← filtersOfLink c s ((p.get? "filters").getD "")
  pure ⟨fs, p.range, p.mode, p.reporter, p.limit⟩

/-- The parameters of a range: `timeRange`, or `startTime` and `endTime`. -/
def Range.params : Range → Except Fault (List (String × String))
  | .relative r => do pure [("timeRange", ← Text.Numeral.write r)]
  | .window a b => do pure [("startTime", ← Text.Numeral.write a), ("endTime", ← Text.Numeral.write b)]

/-- The link parameters of a page: filters, range, limit, match mode and reporter. -/
def pageParams (fs : List Filter) (range : Range) (mode : Match) (reporter : Reporter)
    (limit : Int) : Except Fault Params := do
  let r ← range.params
  let l ← Text.Numeral.write limit
  pure (OrderedMap.ofList ([("filters", linkText fs)] ++ r ++
    [("limit", l), ("match", mode.text), ("reporter", reporter.text)]))

end FlowSelect
