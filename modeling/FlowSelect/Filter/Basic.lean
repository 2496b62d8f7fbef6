import FlowSelect.Suggest.Lookup
/-! Filters: a definition with the values chosen for it.

A chosen value keeps the text sent to the backend, and may carry a label to show instead; the
label never takes part in grouping or encoding. A filter's values are alternatives: a flow
matches when it matches one of them. A negated filter matches when the flow matches none.

A typed value becomes a chosen value through the definition's suggestions: the first suggestion
whose name or value is the typed text gives both the text to keep (its value) and the label (its
name). When a stored value is restored, the text is kept as it is and only the label is sought. -/
namespace FlowSelect

/-- A chosen value. -/
structure Value where
  /-- The text sent to the backend. -/
  text : String
  /-- The label shown instead, if any. -/
  display : Option String := none
  deriving DecidableEq, Repr

/-- A definition with its chosen values. -/
structure Filter where
  /-- What is filtered on. -/
  definition : Definition
  /-- The chosen values, in the order they were chosen. -/
  values : List Value
  /-- Whether flows must match none of the values instead of one. -/
  negated : Bool
  deriving DecidableEq, Repr

/-- The id of a filter's definition. -/
def Filter.id (f : Filter) : String := f.definition.id

/-- The texts of a filter's values, in order. -/
def Filter.texts (f : Filter) : List String := f.values.map Value.text

/-- The first suggestion of a definition that a typed text stands for. -/
def Definition.answer? (d : Definition) (s : Store) (text : String) :
    Except Fault (Option Suggestion) :=
  (d.suggest s text).map fun os => os.find? fun o => o.answers text

/-- The value a typed text becomes: the value and name of the suggestion it stands for, or the
text itself without a label. -/
def Definition.createValue (d : Definition) (s : Store) (text : String) : Except Fault Value :=
  (d.answer? s text).map fun
    | some o => ⟨o.value, some o.name⟩
    | none => ⟨text, none⟩

/-- The value a stored text is restored as: the text itself, labelled with the name of the
suggestion it stands for, if any. -/
def Definition.resolveValue (d : Definition) (s : Store) (text : String) : Except Fault Value :=
  (d.answer? s text).map fun o => ⟨text, o.map Suggestion.name⟩

end FlowSelect
