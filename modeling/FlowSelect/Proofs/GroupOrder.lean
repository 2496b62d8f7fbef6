import FlowSelect.Proofs.GroupShape
/-! The order of the filters does not change what the compiled groups match.

Reordering the filters reorders what is added to each side's group: its keys then come in another
order and each key's values in another order, but the same keys hold the same values up to order
(`Group.SameUpToOrder`, `sideGroup_sameUpToOrder`). Whether some filter is two-sided does not
depend on the order either, so when all filters must hold the groups of reordered filters match
their old groups one for one. When any filter suffices the groups are only reordered
(`groupsAny_perm`). A flow meets a key by whether its value is among the key's values, and
alternative groups when it meets one of them, so in both match modes reordered filters match
exactly the same flows (`meetsAny_groupsFor_of_perm`). -/
namespace FlowSelect

namespace OrderedMap

variable {β : Type}

/-- A key has a value exactly when it is stored. -/
theorem exists_get?_iff (m : OrderedMap β) (k : String) : (∃ v, m.get? k = some v) ↔ k ∈ m.keys := by
  rw [← Option.isSome_iff_exists, get?, Option.isSome_map, List.find?_isSome]
  simp [keys]

end OrderedMap

namespace Group

/-- Two groups file the same keys, each with the same values up to order. -/
def SameUpToOrder (g g' : Group) : Prop :=
  g.keys.Perm g'.keys ∧ ∀ k vs vs', g.get? k = some vs → g'.get? k = some vs' → vs.Perm vs'

theorem SameUpToOrder.symm {g g' : Group} (h : g.SameUpToOrder g') : g'.SameUpToOrder g :=
  ⟨h.1.symm, fun k vs' vs hk' hk => (h.2 k vs vs' hk hk').symm⟩

theorem valuesAt_perm {ps ps' : List (String × List String)} (h : ps.Perm ps') (k : String) :
    (valuesAt ps k).Perm (valuesAt ps' k) :=
  (h.filter _).flatMap_right _

/-- Additions made in another order build the same group up to order. -/
theorem addAll_empty_sameUpToOrder {ps ps' : List (String × List String)} (h : ps.Perm ps') :
    (Group.empty.addAll ps).SameUpToOrder (Group.empty.addAll ps') := by
  have hkeys : ∀ k, k ∈ ps.map Prod.fst ↔ k ∈ ps'.map Prod.fst := fun k => (h.map _).mem_iff
  refine ⟨?_, fun k vs vs' hk hk' => ?_⟩
  · rw [List.perm_ext_iff_of_nodup (Group.empty.addAll ps).keys_nodup
      (Group.empty.addAll ps').keys_nodup]
    intro k
    simp only [keys_addAll_empty, List.mem_eraseDups]
    exact hkeys k
  · rw [get?_addAll] at hk hk'
    by_cases hm : k ∈ ps.map Prod.fst
    · -- both groups hold everything added under the key, after nothing
      rw [if_pos hm] at hk
      rw [if_pos ((hkeys k).mp hm)] at hk'
      rw [← Option.some.inj hk, ← Option.some.inj hk']
      exact (valuesAt_perm h k).append_left _
    · rw [if_neg hm] at hk
      exact nomatch hk

end Group

namespace Flow

theorem meets_perm (fl : Flow) (k : String) {vs vs' : List String} (h : vs.Perm vs') :
    fl.meets (k, vs) = fl.meets (k, vs') := by
  simp only [meets, accepts, h.contains_eq]

/-- A flow meets a group when it meets each key with the values stored there. -/
theorem meetsGroup_iff_get? (fl : Flow) {g : Group} :
    fl.meetsGroup g = true ↔ ∀ k vs, g.get? k = some vs → fl.meets (k, vs) = true := by
  rw [meetsGroup, List.all_eq_true]
  constructor
  · intro h k vs hk
    exact h (k, vs) ((OrderedMap.mem_entries_iff (k, vs)).mpr hk)
  · intro h e he
    exact h e.1 e.2 ((OrderedMap.mem_entries_iff e).mp he)

theorem meetsGroup_of_sameUpToOrder (fl : Flow) {g g' : Group} (h : g.SameUpToOrder g')
    (hm : fl.meetsGroup g = true) : fl.meetsGroup g' = true := by
  rw [meetsGroup_iff_get? fl] at hm
  rw [meetsGroup_iff_get? fl]
  intro k vs' hk'
  -- the key is stored in both groups, with values that are a reordering of each other
  obtain ⟨vs, hk⟩ := (OrderedMap.exists_get?_iff g k).mpr
    (h.1.mem_iff.mpr ((OrderedMap.exists_get?_iff g' k).mp ⟨vs', hk'⟩))
  rw [← meets_perm fl k (h.2 k vs vs' hk hk')]
  exact hm k vs hk

/-- Groups that are the same up to order hold for the same flows. -/
theorem meetsGroup_congr (fl : Flow) {g g' : Group} (h : g.SameUpToOrder g') :
    fl.meetsGroup g = fl.meetsGroup g' :=
  Bool.eq_iff_iff.mpr ⟨meetsGroup_of_sameUpToOrder fl h, meetsGroup_of_sameUpToOrder fl h.symm⟩

/-- Alternative groups hold for the same flows in any order. -/
theorem meetsAny_perm (fl : Flow) {gs gs' : List Group} (h : gs.Perm gs') :
    fl.meetsAny gs = fl.meetsAny gs' := by
  simp only [meetsAny, h.isEmpty_eq, h.any_eq]

end Flow

section Reorder
variable {F F' : List Filter}

theorem sideGroup_sameUpToOrder (h : F.Perm F') (s : Side) :
    (sideGroup F s).SameUpToOrder (sideGroup F' s) :=
  Group.addAll_empty_sameUpToOrder (h.flatMap_right _)

/-- When all filters must hold, reordered filters give the same groups up to order, one for
one. -/
theorem groupsAll_sameUpToOrder (h : F.Perm F') :
    List.Forall₂ Group.SameUpToOrder (groupsAll F) (groupsAll F') := by
  rw [groupsAll_eq, groupsAll_eq, h.any_eq]
  split
  · exact .cons (sideGroup_sameUpToOrder h _) (.cons (sideGroup_sameUpToOrder h _) .nil)
  · exact .cons (sideGroup_sameUpToOrder h _) .nil

theorem meetsAny_groupsAll_perm (fl : Flow) (h : F.Perm F') :
    fl.meetsAny (groupsAll F) = fl.meetsAny (groupsAll F') := by
  have hside : ∀ s, fl.meetsGroup (sideGroup F s) = fl.meetsGroup (sideGroup F' s) := fun s =>
    fl.meetsGroup_congr (sideGroup_sameUpToOrder h s)
  rw [groupsAll_eq, groupsAll_eq, h.any_eq]
  split <;> simp only [Flow.meetsAny, List.isEmpty_cons, List.any_cons, List.any_nil, hside]

/-- When any filter suffices, reordered filters give the same groups, reordered. -/
theorem groupsAny_perm (h : F.Perm F') : (groupsAny F).Perm (groupsAny F') :=
  h.flatMap_right _

/-- **The order of the filters does not matter.** Reordered filters match exactly the same
flows in either match mode; when all filters must hold, their groups are the old groups one for
one, with the same keys and each key's values reordered. -/
theorem meetsAny_groupsFor_of_perm (h : F.Perm F') :
    (∀ (m : Match) (fl : Flow), fl.meetsAny (groupsFor m F) = fl.meetsAny (groupsFor m F')) ∧
      List.Forall₂ Group.SameUpToOrder (groupsAll F) (groupsAll F') := by
  refine ⟨fun m fl => ?_, groupsAll_sameUpToOrder h⟩
  cases m with
  | all => exact meetsAny_groupsAll_perm fl h
  | any => exact fl.meetsAny_perm (groupsAny_perm h)

/-- A source port and a negated namespace, in both orders. -/
theorem meetsAny_groupsFor_of_perm_swap :
    let a : Filter :=
      ⟨(Catalog.standard Glossary.plain defaultLimit).definitions[15], [⟨"80", none⟩], false⟩
    let b : Filter :=
      ⟨(Catalog.standard Glossary.plain defaultLimit).definitions[2], [⟨"default", none⟩], true⟩
    [a, b].Perm [b, a] ∧
      (∀ (m : Match) (fl : Flow),
        fl.meetsAny (groupsFor m [a, b]) = fl.meetsAny (groupsFor m [b, a])) ∧
      List.Forall₂ Group.SameUpToOrder (groupsAll [a, b]) (groupsAll [b, a]) := by
  intro a b
  exact ⟨List.Perm.swap b a [], meetsAny_groupsFor_of_perm (List.Perm.swap b a [])⟩

end Reorder

end FlowSelect
