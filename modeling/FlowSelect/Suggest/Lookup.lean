import FlowSelect.Catalog.Definition
import FlowSelect.Registry.Protocol
import FlowSelect.Registry.Service
import FlowSelect.Suggest.Store
/-! Suggestion lookups: what a definition offers while a value is typed.

Namespaces and kinds are offered from the store when they start with the typed text, case
aside; an empty text offers all of them. A resource path offers kinds while its kind is typed,
then namespaces, then the names filed for its kind and namespace. Ports and protocols are offered
from their registries. A definition keeps only the first suggestions up to its limit; a negative
limit drops that many from the end instead. Picking a suggestion for a resource path fills the
part being typed and moves the path on. -/
namespace FlowSelect

/-- Names that start with a typed prefix, case aside, as suggestions; all of them when the
prefix is empty. -/
def byPrefix (names : List String) (pfx : String) : List Suggestion :=
  if pfx.isEmpty then names.map Suggestion.same
  else
    let lowered := Text.lower pfx
    (names.filter fun n => Text.startsWith (Text.lower n) lowered).map Suggestion.same

/-- What a resource path offers for the part being typed. -/
def resourceSuggestions (s : Store) (text : String) : List Suggestion :=
  let p := ResourcePath.ofText text
  match p.stage with
  | .typingKind => byPrefix s.kinds p.kind
  | .typingNamespace => byPrefix s.namespaces p.ns
  | .complete => byPrefix ((s.names? p.kind p.ns).getD []) p.name

/-- Everything a lookup offers for a typed value, before any limit. -/
def Lookup.run : Lookup → Store → String → Except Fault (List Suggestion)
  | .nothing, _, _ => .ok []
  | .namespaces, s, v => .ok (byPrefix s.namespaces v)
  | .kinds, s, v => .ok (byPrefix s.kinds v)
  | .resources, s, v => .ok (resourceSuggestions s v)
  | .ports, _, v => Service.suggest v
  | .protocols, _, v => .ok (Protocol.suggest v)

/-- The first `n` entries when `n` is not negative, else all but the last `-n`. -/
def keepFirst {α : Type} (n : Int) (xs : List α) : List α :=
  if 0 ≤ n then xs.take n.toNat else xs.take (xs.length - n.natAbs)

/-- What a definition offers for a typed value, within its limit. -/
def Definition.suggest (d : Definition) (s : Store) (v : String) : Except Fault (List Suggestion) :=
  (d.lookup.run s v).map (keepFirst d.limit)

/-- A resource path after a suggestion is picked for the part being typed: the path moves on,
and it is complete when the name was picked. -/
def ResourcePath.complete (value picked : String) : Completion :=
  let p := (ResourcePath.ofText value).pick picked
  let text := p.render
  ⟨p.stage == .complete, ⟨text, text⟩⟩

/-- What picking a suggestion does to a value of a definition, for definitions picked in
stages. -/
def Definition.complete (d : Definition) (value picked : String) : Option Completion :=
  if d.staged then some (ResourcePath.complete value picked) else none

end FlowSelect
