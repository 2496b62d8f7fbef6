import FlowSelect.Filter.Basic
/-! Editing the list of active filters.

A list holds at most one filter per definition id and negation, in the order they were first
made. Adding a value goes to the filter of its definition and negation, made at the end of the
list when there is none; a value whose text that filter already holds is refused with a reason
in the glossary's words, and the list is left exactly as it was. Removing a value takes it out
of every filter of the definition and negation, and a filter left without values goes away. -/
namespace FlowSelect

/-- Whether a filter is the one of a definition id and negation. -/
def Filter.isFor (f : Filter) (id : String) (negated : Bool) : Bool :=
  f.definition.id == id && f.negated == negated

/-- The filter of a definition id and negation. -/
def findFilter (fs : List Filter) (id : String) (negated : Bool) : Option Filter :=
  fs.find? fun f => f.isFor id negated

/-- The list with a value added under a definition and negation, or nothing when the filter
there already holds a value with the same text. -/
def insertValue (d : Definition) (v : Value) (negated : Bool) : List Filter → Option (List Filter)
  | [] => some [⟨d, [v], negated⟩]
  | f :: rest =>
    if f.isFor d.id negated then
      if f.values.any (·.text == v.text) then none
      else some ({ f with values := f.values ++ [v] } :: rest)
    else (insertValue d v negated rest).map (f :: ·)

/-- What adding a value did: the list after it, and why the value was refused, if it was. -/
structure Addition where
  /-- The list after adding; the list before when refused. -/
  filters : List Filter
  /-- Why the value was refused, in the glossary's words; none when it was taken. -/
  error : Option String
  deriving DecidableEq, Repr

/-- Whether the value was taken: exactly when no reason to refuse it was given. -/
def Addition.added (a : Addition) : Bool := a.error.isNone

/-- The reason a duplicate value is refused. -/
def duplicateText : String := "Filter already exists"

/-- Adds a value under a definition and negation; a duplicate is refused with `duplicateText`
in the glossary's words. -/
def addValue (g : Glossary) (fs : List Filter) (d : Definition) (v : Value) (negated : Bool) :
    Addition :=
  match insertValue d v negated fs with
  | some fs' => ⟨fs', none⟩
  | none => ⟨fs, some (g.say duplicateText)⟩

/-- Removes every value with a text from the filters of a definition id and negation, dropping
those left without values. -/
def removeValue (fs : List Filter) (id : String) (negated : Bool) (text : String) : List Filter :=
  fs.filterMap fun f =>
    if f.isFor id negated then
      let vs := f.values.filter (·.text != text)
      if vs.isEmpty then none else some { f with values := vs }
    else some f

/-- Removes the filters of a definition id and negation. -/
def removeFilter (fs : List Filter) (id : String) (negated : Bool) : List Filter :=
  fs.filter fun f => !f.isFor id negated

end FlowSelect
