import FlowSelect.OrderedMap
/-! Suggestion stores: the namespaces, kinds and workload names known to a session.

A store holds a list of namespaces, a list of kinds, and lists of names, each filed under the
text `kind.namespace`. Names are filed under that joined text, not under the pair, so the pair
(`a.b`, `c`) and the pair (`a`, `b.c`) share one entry. Nothing expires; clearing empties all. -/
namespace FlowSelect

/-- What a session knows of its workloads, to suggest values from. -/
structure Store where
  /-- Known namespaces, in the order they were given. -/
  namespaces : List String
  /-- Known kinds, in the order they were given. -/
  kinds : List String
  /-- Known workload names, filed under `kind.namespace`. -/
  names : OrderedMap (List String)
  deriving DecidableEq, Repr

namespace Store

/-- The store that knows nothing. -/
def empty : Store := ⟨[], [], OrderedMap.empty⟩

/-- The text under which the names of a kind in a namespace are filed. -/
def nameKey (kind ns : String) : String := kind ++ "." ++ ns

/-- The store with its namespaces replaced. -/
def setNamespaces (s : Store) (namespaces : List String) : Store := { s with namespaces }

/-- The store with its kinds replaced. -/
def setKinds (s : Store) (kinds : List String) : Store := { s with kinds }

/-- The names filed for a kind in a namespace, if any were given. -/
def names? (s : Store) (kind ns : String) : Option (List String) :=
  s.names.get? (nameKey kind ns)

/-- The store with the names of a kind in a namespace replaced. -/
def setNames (s : Store) (kind ns : String) (names : List String) : Store :=
  { s with names := s.names.insert (nameKey kind ns) names }

/-- Whether names were given for a kind in a namespace. -/
def hasNames (s : Store) (kind ns : String) : Bool :=
  s.names.contains (nameKey kind ns)

/-- The store emptied of everything. -/
def clear (_ : Store) : Store := empty

end Store

end FlowSelect
