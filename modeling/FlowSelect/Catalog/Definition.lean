import FlowSelect.Glossary
import FlowSelect.ResourcePath
/-! Filter definitions: what a user can filter flows on, and how it reaches the backend.

A definition says how a value is entered (a text field, or one with suggestions), which side
of a flow it was made for, which rule checks a typed value, where suggestions come from, and how
chosen values become constraints on backend flow fields. A definition either maps its values the
same way whatever the side of the flow (`Matching.always`), or has one mapping for the source
side and one for the destination side (`Matching.split`), in which case it matches when either
side does. -/
namespace FlowSelect

/-- How a value of a filter is entered. -/
inductive Component where
  /-- A text field that offers suggestions. -/
  | autocomplete
  /-- A plain text field. -/
  | text
  deriving DecidableEq, Repr

/-- The side of a flow a definition was made for. -/
inductive Category where
  /-- The source side only. -/
  | source
  /-- The destination side only. -/
  | destination
  /-- Either side. -/
  | common
  /-- A property of the flow, not of a side. -/
  | unsided
  deriving DecidableEq, Repr

/-- One side of a flow. -/
inductive Side where
  | source
  | destination
  deriving DecidableEq, Repr

/-- The values a backend flow field must hold (or, negated, must not hold). -/
structure Constraint where
  /-- The backend field. -/
  field : String
  /-- The accepted values, in order. -/
  values : List String
  deriving DecidableEq, Repr

/-- How chosen values become constraints on backend fields. -/
inductive Mapping where
  /-- Every value goes to one field. -/
  | field (name : String)
  /-- Each value is a resource path; its kind, namespace and name go to three fields. -/
  | resource (kindField nsField nameField : String)
  deriving DecidableEq, Repr

/-- The constraints that chosen values put on backend fields. A resource mapping reads each
value as a resource path and lists the kinds, the namespaces and the names, in value order. -/
def Mapping.constraints : Mapping → List String → List Constraint
  | .field f, vs => [⟨f, vs⟩]
  | .resource k n m, vs =>
    let paths := vs.map ResourcePath.ofText
    [⟨k, paths.map (·.kind)⟩, ⟨n, paths.map (·.ns)⟩, ⟨m, paths.map (·.name)⟩]

/-- Which mapping applies on which side of a flow. -/
inductive Matching where
  /-- One mapping, whatever the side. -/
  | always (m : Mapping)
  /-- One mapping for the source side and one for the destination side. -/
  | split (source destination : Mapping)
  deriving DecidableEq, Repr

/-- The rule that checks and normalizes a typed value. -/
inductive Rule where
  /-- Anything but the empty text. -/
  | nonEmpty
  /-- An object name pattern; the empty text asks for an empty field. -/
  | objectName
  /-- A complete resource path; its kind is capitalized. -/
  | resource
  /-- An address, a network or a range of addresses. -/
  | address
  /-- A port number or a known service name. -/
  | port
  /-- A protocol number or a known protocol name, written as registered. -/
  | protocol
  deriving DecidableEq, Repr

/-- Where the suggestions for a typed value come from. -/
inductive Lookup where
  /-- No suggestions. -/
  | nothing
  /-- The store's namespaces. -/
  | namespaces
  /-- The store's kinds. -/
  | kinds
  /-- Kinds, then namespaces, then names, as a resource path is typed. -/
  | resources
  /-- Service ports. -/
  | ports
  /-- Protocols. -/
  | protocols
  deriving DecidableEq, Repr

/-- Everything the catalog knows about one filterable property of flows. -/
structure Definition where
  /-- The stable id, used as the key in page links. -/
  id : String
  /-- The name shown to the user. -/
  name : String
  /-- How values are entered. -/
  component : Component
  /-- The side the definition was made for. -/
  category : Category
  /-- How values reach backend fields. -/
  matching : Matching
  /-- The rule for typed values. -/
  rule : Rule
  /-- Where suggestions come from. -/
  lookup : Lookup
  /-- How many suggestions are kept, counted from the front when not negative, or how many
  are dropped from the end when negative. -/
  limit : Int
  /-- Whether a value is picked in several stages (a resource path). -/
  staged : Bool
  /-- A short help text. -/
  hint : Option String
  /-- A longer help text listing the accepted forms. -/
  examples : Option String
  /-- The glossary that reasons for refusing a value are said in. -/
  glossary : Glossary
  deriving DecidableEq, Repr

/-- Whether the source and destination sides must be matched separately. -/
def Definition.needsSplit (d : Definition) : Bool :=
  match d.matching with
  | .always _ => false
  | .split _ _ => true

end FlowSelect
