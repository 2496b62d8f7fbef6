import FlowSelect.Proofs.GroupMeaning
import Mathlib.Data.List.Induction
/-! The shape of compiled groups.

A group built from nothing by adding values under keys is the collection of those additions
(`Group.collect`): its keys in the order they first come, each with every value added under it,
in the order added and with repeats kept (`addAll_empty_eq_collect`).

When all filters must hold, the source group collects what each filter's source-side mapping puts
on its fields, in filter order and then constraint order, and the destination group what the
destination-side mappings put; a one-sided filter adds the same keys and values to both. There are
two groups when some filter is two-sided and one otherwise, and then the destination group is the
source group, so nothing is lost (`groupsAll_shape`). When any filter suffices, each filter gives
one collected group per mapping, in filter order, so the number of groups counts one-sided filters
once and two-sided filters twice (`groupsAny_shape`). -/
namespace FlowSelect

namespace Group

/-- One key more: nothing new when it is there, else it comes last. -/
theorem eraseDups_concat (ks : List String) (k : String) :
    (ks ++ [k]).eraseDups = if k ∈ ks then ks.eraseDups else ks.eraseDups ++ [k] := by
  rw [List.eraseDups_append]
  by_cases h : k ∈ ks
  · simp [h, List.removeAll]
  · simp [h, List.removeAll, List.eraseDups_cons]

/-- Keys with their repeats erased are distinct. -/
theorem nodup_eraseDups (ks : List String) : ks.eraseDups.Nodup := by
  induction ks using List.reverseRecOn with
  | nil => exact List.nodup_nil
  | append_singleton ks k ih =>
    rw [eraseDups_concat]
    split
    · exact ih
    · next hk =>
      -- the key comes last, and was not among the earlier ones
      refine List.nodup_append.mpr ⟨ih, List.nodup_singleton k, fun a ha b hb hab => ?_⟩
      rw [List.mem_singleton] at hb
      subst hb hab
      exact hk (List.mem_eraseDups.mp ha)

/-- The group that files additions under their keys: the keys in the order they first come,
each with everything added under it, in order and with repeats. -/
def collect (ps : List (String × List String)) : Group :=
  ⟨(ps.map Prod.fst).eraseDups.map fun k => (k, valuesAt ps k), by
    rw [List.map_map]
    show (List.map (fun k => k) _).Nodup
    rw [List.map_id']
    exact nodup_eraseDups _⟩

/-- The keys of a group built from nothing, in the order they were first added. -/
theorem keys_addAll_empty (ps : List (String × List String)) :
    (Group.empty.addAll ps).keys = (ps.map Prod.fst).eraseDups := by
  induction ps using List.reverseRecOn with
  | nil => rfl
  | append_singleton ps p ih =>
    rw [addAll_append, addAll_cons, addAll_nil, add, OrderedMap.keys_insert, ih, List.map_append,
      List.map_singleton, eraseDups_concat]
    simp only [List.mem_eraseDups]

/-- A group built from nothing is the collection of what was added. -/
theorem addAll_empty_eq_collect (ps : List (String × List String)) :
    Group.empty.addAll ps = collect ps := by
  -- each entry of the built group holds everything added under its key
  have hentry : ∀ e ∈ (Group.empty.addAll ps).entries, (e.1, valuesAt ps e.1) = e :=
    fun e he => Prod.ext rfl ((mem_entries_addAll ps e).mp he).2.symm
  apply OrderedMap.ext
  show _ = (ps.map Prod.fst).eraseDups.map fun k => (k, valuesAt ps k)
  rw [← keys_addAll_empty, OrderedMap.keys, List.map_map]
  show _ = (Group.empty.addAll ps).entries.map fun e => (e.1, valuesAt ps e.1)
  rw [List.map_congr_left hentry, List.map_id']

end Group

theorem sideGroup_eq_collect (F : List Filter) (s : Side) :
    sideGroup F s = Group.collect (F.flatMap (·.entriesAt s)) :=
  Group.addAll_empty_eq_collect _

/-! ### All filters -/

/-- **The groups of all filters.** The source group collects the keys and values of every
filter's source-side constraints, in order, and is followed by the destination group, collected
from the destination-side constraints, exactly when some filter is two-sided. When none is, the
two collections are the same. -/
theorem groupsAll_shape (F : List Filter) :
    groupsAll F =
        (if F.any (·.definition.needsSplit) then
          [Group.collect (F.flatMap (·.entriesAt .source)),
            Group.collect (F.flatMap (·.entriesAt .destination))]
        else [Group.collect (F.flatMap (·.entriesAt .source))]) ∧
      (F.any (·.definition.needsSplit) = false →
        Group.collect (F.flatMap (·.entriesAt .source)) =
          Group.collect (F.flatMap (·.entriesAt .destination))) := by
  simp only [← sideGroup_eq_collect]
  exact ⟨groupsAll_eq F, sideGroup_source_of_not_needsSplit⟩

/-- A source port and a protocol: neither filter is two-sided, so the one group they give is
also their destination group. -/
theorem groupsAll_shape_one_sided :
    let F : List Filter :=
      [⟨(Catalog.standard Glossary.plain defaultLimit).definitions[15], [⟨"80", none⟩], false⟩,
        ⟨(Catalog.standard Glossary.plain defaultLimit).definitions[18], [⟨"6", none⟩], false⟩]
    F.any (·.definition.needsSplit) = false ∧
      Group.collect (F.flatMap (·.entriesAt .source)) =
        Group.collect (F.flatMap (·.entriesAt .destination)) := by
  intro F
  have hsplit : F.any (·.definition.needsSplit) = false := by decide
  exact ⟨hsplit, (groupsAll_shape F).2 hsplit⟩

/-! ### Any filter -/

/-- The mappings of a matching, one per group it gives when any filter suffices: the one
mapping of a one-sided matching, the source then the destination mapping of a two-sided one. -/
def Matching.mappings : Matching → List Mapping
  | .always m => [m]
  | .split s d => [s, d]

/-- The keys, with their values, that one mapping of a filter files. -/
def Filter.entriesOf (f : Filter) (m : Mapping) : List (String × List String) :=
  (m.constraints f.texts).map fun c => (Group.fieldKey c.field f.negated, c.values)

theorem Definition.length_mappings (d : Definition) :
    d.matching.mappings.length = if d.needsSplit then 2 else 1 := by
  unfold Definition.needsSplit
  split <;> next h => simp [h, Matching.mappings]

/-- The groups one filter gives when any filter suffices: one collection per mapping. -/
theorem filterGroups_eq_collect (f : Filter) :
    filterGroups f = f.definition.matching.mappings.map fun m => Group.collect (f.entriesOf m) := by
  unfold filterGroups
  split <;> next h =>
    simp [h, Matching.mappings, Group.addFilter_eq_addAll, Group.addAll_empty_eq_collect,
      Filter.entriesOf]

theorem length_groupsAny (F : List Filter) :
    (groupsAny F).length =
      F.countP (!·.definition.needsSplit) + 2 * F.countP (·.definition.needsSplit) := by
  induction F with
  | nil => rfl
  | cons f F ih =>
    rw [groupsAny, List.flatMap_cons, List.length_append, ← groupsAny, ih, filterGroups_eq_collect,
      List.length_map, Definition.length_mappings, List.countP_cons, List.countP_cons]
    cases f.definition.needsSplit <;> simp <;> omega

/-- **The groups of any filter.** Each filter in turn gives one group per mapping, collecting
the keys and values of that mapping's constraints; so there is one group per one-sided filter and
two per two-sided filter. -/
theorem groupsAny_shape (F : List Filter) :
    groupsAny F =
        F.flatMap (fun f => f.definition.matching.mappings.map fun m => Group.collect (f.entriesOf m)) ∧
      (groupsAny F).length =
        F.countP (!·.definition.needsSplit) + 2 * F.countP (·.definition.needsSplit) := by
  refine ⟨?_, length_groupsAny F⟩
  rw [groupsAny]
  exact List.flatMap_congr fun f _ => filterGroups_eq_collect f

end FlowSelect
