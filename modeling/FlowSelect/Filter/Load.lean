import FlowSelect.Catalog.Rule
import FlowSelect.Filter.Link
/-! Loading filters typed in the link form, as a command line takes them.

The filters of the link are read, then every value is checked by its definition's rule: a
refused value is reported as `id=value: reason` and left out, and an accepted value is turned
into a chosen value from its normalized text through the definition's suggestions, so `tcp`
becomes `6` labelled `TCP`. A filter whose values were all refused is kept without values.
The count of ignored entries compares the filters read with the non-empty pieces of the text
as given, cut at `;` before any decoding. -/
namespace FlowSelect

/-- Filters loaded from text. -/
structure Loaded where
  /-- The filters, with normalized values. -/
  filters : List Filter
  /-- One line per refused value. -/
  errors : List String
  /-- How many entries of the text gave no filter. -/
  ignored : Nat
  deriving Repr

/-- A filter with each value checked: the accepted values, and one line per refused one. -/
def Filter.normalize (s : Store) (f : Filter) : Except Fault (Filter × List String) := do
  let checked ← f.values.mapM fun v =>
    match f.definition.validate v.text with
    | .invalid why =>
      pure (none, [f.definition.id ++ "=" ++ v.text ++ ": " ++ f.definition.explain why])
    | .valid w => do
      let value ← f.definition.createValue s w
      pure (some value, [])
  pure ({ f with values := checked.filterMap (·.1) }, checked.flatMap (·.2))

/-- The warning given when entries of the text were ignored. -/
def ignoredText (n : Nat) : String :=
  "Ignored " ++ toString n ++ " unknown or malformed filter(s)"

/-- How many non-empty entries of the text, cut at `;` as given, gave no filter. -/
def ignoredEntries (text : String) (fs : List Filter) : Nat :=
  ((Text.pieces text ';').filter (!·.isEmpty)).length - fs.length

/-- Filters with each value checked, and one line per refused value. -/
def normalizeFilters (s : Store) (fs : List Filter) : Except Fault (List Filter × List String) := do
  let normalized ← fs.mapM (Filter.normalize s)
  pure (normalized.map (·.1), normalized.flatMap (·.2))

/-- Loads filters from text in the link form. -/
def loadFilters (c : Catalog) (s : Store) (text : String) : Except Fault Loaded := do
  let fs ← filtersOfLink c s text
  let (normalized, errors) ← normalizeFilters s fs
  pure ⟨normalized, errors, ignoredEntries text fs⟩

/-- The warnings of a load. -/
def Loaded.warnings (l : Loaded) : List String :=
  if l.ignored > 0 then [ignoredText l.ignored] else []

end FlowSelect
