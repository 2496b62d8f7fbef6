import FlowSelect.Page
/-! Backend requests for flows and for flow exports.

A flow request carries the compiled filter fragment, the reporter, the limit and the range, as
parameters in that order. An export request adds the format, always `csv`, and the columns
joined by `,` when some are asked for. -/
namespace FlowSelect

/-- A request for flows. -/
structure FlowRequest where
  /-- The compiled backend fragment. -/
  fragment : String
  /-- The side flows are reported from. -/
  reporter : Reporter
  /-- How many flows at most. -/
  limit : Int
  /-- The time range. -/
  range : Range
  deriving DecidableEq, Repr

/-- The flow request of filters in a match mode. -/
def flowRequest (fs : List Filter) (mode : Match) (range : Range) (reporter : Reporter)
    (limit : Int) : FlowRequest :=
  ⟨compileFilters fs mode, reporter, limit, range⟩

/-- The backend parameters of a flow request. -/
def FlowRequest.params (q : FlowRequest) : Except Fault Params := do
  let l ← Text.Numeral.write q.limit
  let r ← q.range.params
  pure (OrderedMap.ofList ([("filters", q.fragment), ("reporter", q.reporter.text), ("limit", l)] ++ r))

/-- The backend parameters of an export of a flow request, with the columns asked for. -/
def FlowRequest.exportParams (q : FlowRequest) (columns : List String) : Except Fault Params := do
  let p ← q.params
  let p := p.insert "format" "csv"
  pure (if columns.isEmpty then p else p.insert "columns" (Text.joinWith "," columns))

end FlowSelect
