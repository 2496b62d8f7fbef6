import FlowSelect.Catalog.Definition
import FlowSelect.Fault
/-! Catalogs: the definitions a user can pick from, in order, found by id.

A catalog is built from a list of entries and refuses the first entry that is not a definition
or that repeats the id of an earlier one; the error names that entry. The definitions a passing
check keeps therefore have distinct ids (`checkEntries_ids_nodup`), and a catalog carries that
fact. A definition is checked when it is made: a matching must give a mapping for each side it
claims. -/
namespace FlowSelect

/-- An ordered list of definitions with distinct ids. -/
structure Catalog where
  /-- The definitions, in order. -/
  definitions : List Definition
  /-- No two definitions share an id. -/
  nodup : (definitions.map Definition.id).Nodup
  deriving DecidableEq, Repr

namespace Catalog

/-- The ids, in order. -/
def ids (c : Catalog) : List String := c.definitions.map Definition.id

/-- The definition with an id, if the catalog has one. -/
def find? (c : Catalog) (id : String) : Option Definition :=
  c.definitions.find? fun d => d.id == id

/-- The definition with an id, or the fault that names the unknown id. -/
def get (c : Catalog) (id : String) : Except Fault Definition :=
  match c.find? id with
  | some d => .ok d
  | none => .error (.unknownFilter id)

/-- The number of definitions. -/
def size (c : Catalog) : Nat := c.definitions.length

end Catalog

/-- An element offered to a catalog: a definition, or something else, known by how it is
shown. -/
inductive Catalog.Entry where
  | definition (d : Definition)
  | foreign (shown : String)

/-- The definitions of entries, after checking that each entry is a definition whose id no
earlier one has; `seen` holds the ids of earlier entries. -/
def Catalog.checkEntries (seen : List String) : List Catalog.Entry → Except Fault (List Definition)
  | [] => .ok []
  | .foreign shown :: _ => .error (.badDefinition shown "not a FilterDefinition")
  | .definition d :: rest =>
    if seen.contains d.id then .error (.badDefinition d.id "duplicate filter id")
    else (Catalog.checkEntries (d.id :: seen) rest).map (d :: ·)

/-- A check that passes gives definitions with distinct ids, none of them seen before. -/
theorem Catalog.checkEntries_ids_nodup {seen : List String} {es : List Catalog.Entry}
    {ds : List Definition} (h : Catalog.checkEntries seen es = .ok ds) :
    (ds.map Definition.id).Nodup ∧ ∀ id ∈ ds.map Definition.id, id ∉ seen := by
  induction es generalizing seen ds with
  | nil =>
    cases h
    exact ⟨List.nodup_nil, fun _ h => absurd h List.not_mem_nil⟩
  | cons e es ih =>
    cases e with
    | foreign shown => cases h
    | definition d =>
      rw [Catalog.checkEntries] at h
      split at h
      · cases h
      · next hfresh =>
        cases hrest : Catalog.checkEntries (d.id :: seen) es with
        | error f =>
          rw [hrest] at h
          cases h
        | ok ds' =>
          rw [hrest] at h
          cases h
          -- the later ids are new to `d` and to `seen`, and `d` is new to `seen`
          obtain ⟨hn, hout⟩ := ih hrest
          refine ⟨List.nodup_cons.mpr ⟨fun hd => hout d.id hd List.mem_cons_self, hn⟩, ?_⟩
          intro id hid
          rcases List.mem_cons.mp hid with rfl | hid
          · simpa using hfresh
          · exact fun hs => hout id hid (List.mem_cons_of_mem _ hs)

/-- The catalog of a list of entries, or the fault that names the first bad entry. -/
def Catalog.ofEntries? (es : List Catalog.Entry) : Except Fault Catalog :=
  match h : Catalog.checkEntries [] es with
  | .ok ds => .ok ⟨ds, (Catalog.checkEntries_ids_nodup h).1⟩
  | .error f => .error f

/-- A matching as declared, before it is checked: a mapping may be missing, or the declaration
may be of neither form. -/
inductive MatchingDraft where
  | always (m : Option Mapping)
  | split (source destination : Option Mapping)
  | neither

/-- The matching a draft declares, or the reason it is refused for the definition `id`. -/
def MatchingDraft.check (id : String) : MatchingDraft → Except Fault Matching
  | .always (some m) => .ok (.always m)
  | .always none => .error (.badDefinition id "'always' mapping is not callable")
  | .split (some s) (some d) => .ok (.split s d)
  | .split _ _ => .error (.badDefinition id "both source and destination mappings are required")
  | .neither => .error (.badDefinition id "field matching must be AlwaysMatch or SplitMatch")

end FlowSelect
