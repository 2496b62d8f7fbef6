/-! Suggestions: what the input field of a filter offers while a value is typed.

A suggestion has a name, shown to the user, and a value, the text a filter keeps when the
suggestion is picked. For most suggestions the two are the same text. -/
namespace FlowSelect

/-- One entry offered for a filter value. -/
structure Suggestion where
  /-- What the user sees. -/
  name : String
  /-- What the filter keeps. -/
  value : String
  deriving DecidableEq, Repr

/-- A suggestion that shows exactly what it keeps. -/
def Suggestion.same (text : String) : Suggestion := ⟨text, text⟩

/-- A suggestion that a picked or typed text stands for: its name or its value is that text. -/
def Suggestion.answers (o : Suggestion) (text : String) : Bool :=
  o.name == text || o.value == text

/-- What a multi-stage value becomes when a suggestion is picked: the suggestion to keep,
and whether the value is now complete. -/
structure Completion where
  /-- Whether no further stage remains. -/
  completed : Bool
  /-- The suggestion that stands for the value reached. -/
  option : Suggestion
  deriving DecidableEq, Repr

end FlowSelect
