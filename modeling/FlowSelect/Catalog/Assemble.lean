import FlowSelect.Catalog.Standard
/-! Assembling a catalog from declared definitions.

Each declared definition is made first, in order, and a matching that lacks a mapping it
claims is refused then; a definition declared with peers becomes its source, destination and
common definitions. The catalog is built from the results afterwards, so the first badly made
definition is reported before any element that is not a definition and any repeated id. -/
namespace FlowSelect

/-- An element declared for a catalog. -/
inductive Catalog.Spec where
  /-- Something that is not a definition, known by how it is shown. -/
  | foreign (shown : String)
  /-- A definition with an id and a declared matching; with `derive`, its peers instead. -/
  | draft (id : String) (matching : MatchingDraft) (derive : Bool)

/-- A definition that has only an id and a matching; it applies to no particular side. -/
def Definition.bare (id : String) (m : Matching) : Definition :=
  { id, name := id, component := .text, category := .unsided, matching := m, rule := .nonEmpty,
    lookup := .nothing, limit := defaultLimit, staged := false, hint := none, examples := none,
    glossary := Glossary.plain }

/-- The entries a declared element gives, or the fault of a badly made definition. -/
def Catalog.Spec.entries : Catalog.Spec → Except Fault (List Catalog.Entry)
  | .foreign shown => .ok [.foreign shown]
  | .draft id m derive => do
    let matching ← m.check id
    let d := Definition.bare id matching
    if derive then pure ((peers d (.field "") (.field "")).map .definition)
    else pure [.definition d]

/-- The catalog of declared elements. -/
def Catalog.assemble (specs : List Catalog.Spec) : Except Fault Catalog := do
  let entries ← specs.mapM Catalog.Spec.entries
  Catalog.ofEntries? entries.flatten

end FlowSelect
