import FlowSelect.Filter.Basic
import FlowSelect.Fragment.Basic
/-! From filters to backend groups.

When all filters must hold, every constraint goes into one group, unless some filter applies to
either side of a flow: then the source-side constraints and the destination-side constraints
form two groups, and a filter that maps the same way on both sides adds to both. When any filter
suffices, each filter gives its own group, and a two-sided filter one group per side. A negated
filter's constraints are filed under keys ending in `!`. -/
namespace FlowSelect

/-- Whether all filters must hold or any one suffices. -/
inductive Match where
  | all
  | any
  deriving DecidableEq, Repr

/-- The match mode a text names: `any` names any, every other text all. -/
def Match.ofText (s : String) : Match := if s == "any" then .any else .all

/-- The text of a match mode. -/
def Match.text : Match → String
  | .all => "all"
  | .any => "any"

/-- A group with the constraints of one mapping of a filter added. -/
def Group.addFilter (g : Group) (m : Mapping) (f : Filter) : Group :=
  (m.constraints f.texts).foldl
    (fun g c => g.add (Group.fieldKey c.field f.negated) c.values) g

/-- The source group, destination group and whether a two-sided filter was seen, after
adding one filter. -/
def addToSides (acc : Group × Group × Bool) (f : Filter) : Group × Group × Bool :=
  match f.definition.matching with
  | .always m => (acc.1.addFilter m f, acc.2.1.addFilter m f, acc.2.2)
  | .split s d => (acc.1.addFilter s f, acc.2.1.addFilter d f, true)

/-- The groups when all filters must hold: one group, or a source and a destination group when
some filter is two-sided. -/
def groupsAll (fs : List Filter) : List Group :=
  let r := fs.foldl addToSides (Group.empty, Group.empty, false)
  if r.2.2 then [r.1, r.2.1] else [r.1]

/-- The groups of one filter when any filter suffices: one per side it maps. -/
def filterGroups (f : Filter) : List Group :=
  match f.definition.matching with
  | .always m => [Group.empty.addFilter m f]
  | .split s d => [Group.empty.addFilter s f, Group.empty.addFilter d f]

/-- The groups when any one filter suffices. -/
def groupsAny (fs : List Filter) : List Group := fs.flatMap filterGroups

/-- The groups of filters in a match mode. -/
def groupsFor (m : Match) (fs : List Filter) : List Group :=
  match m with
  | .all => groupsAll fs
  | .any => groupsAny fs

/-- The backend fragment of filters in a match mode. -/
def compileFilters (fs : List Filter) (m : Match) : String :=
  encodeGroups (groupsFor m fs)

end FlowSelect
