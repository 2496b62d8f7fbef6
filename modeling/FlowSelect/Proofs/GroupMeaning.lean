import FlowSelect.Filter.Groups
import FlowSelect.Catalog.Standard
import FlowSelect.Proofs.GroupMerge
import Mathlib.Data.List.Nodup
/-! What compiled groups mean for a flow.

A flow, as the backend reads it, is the value of each of its fields. A group holds for a flow
when every key of it holds: a key `field` when the flow's value of the field is one of the key's
values, a key `field!` when it is none of them. Alternative groups hold when one of them does,
and no groups at all constrain nothing. A filter holds at one side of a flow when every
constraint its mapping for that side puts on a field holds, or fails when the filter is negated.

When all filters must hold, the compiler files every constraint of one side into one group
(`sideGroup`), and constraints under one key share that key's values. Under a negated key that is
what the filters ask: the value must be none of the values of any of them. Under a plain key it
is not: two filters that each name one value of a field become one key that accepts either
value. So the groups hold when, on one side, every negated filter holds and every field that a
plain filter constrains has a value that some plain filter accepts for that field
(`groupsAll_holds_iff`). Where no two plain constraints of a side share a field, that is the
same as all filters holding on one side (`groupsAll_holds_of_fields_nodup`); where two do, the
two differ (`groupsAll_not_sidewise`).

When any filter suffices, each filter gives the groups it would give alone when all must hold
(`filterGroups_eq_groupsAll`). The constraints one catalog filter puts on a side fall on distinct
fields, so nothing is merged, and the groups of a non-empty list of catalog filters hold exactly
when one filter holds on one side (`groupsAny_holds_iff`).

A resource mapping keeps the kinds, the namespaces and the names of the chosen paths in three
lists of their own, so a flow meets its constraints when each of its three fields matches the
part of some chosen path, not necessarily the same one (`resource_constraints_hold_iff`):
choosing `Pod.a.x` and `Svc.b.y` also admits the pod `y` in namespace `b`
(`resource_constraints_admit_mix`). -/
namespace FlowSelect

/-- A flow as the backend reads it: the value of each of its fields. -/
abbrev Flow := String → String

namespace Flow

/-- The field a group key is about, and whether the key negates it: a key ending in `!` negates
the field before it. -/
def keyField (key : String) : String × Bool :=
  match key.toList.getLast? with
  | some '!' => (String.ofList key.toList.dropLast, true)
  | _ => (key, false)

/-- Whether a flow's value of a field is among some values, or, negated, outside them. -/
def accepts (fl : Flow) (field : String) (negated : Bool) (values : List String) : Bool :=
  values.contains (fl field) != negated

/-- Whether a flow meets one key of a group with its values. -/
def meets (fl : Flow) (e : String × List String) : Bool :=
  fl.accepts (keyField e.1).1 (keyField e.1).2 e.2

/-- Whether a flow meets a group: every key of it. -/
def meetsGroup (fl : Flow) (g : Group) : Bool := g.entries.all fl.meets

/-- Whether a flow meets alternative groups: one of them, or there are none. -/
def meetsAny (fl : Flow) (gs : List Group) : Bool := gs.isEmpty || gs.any fl.meetsGroup

end Flow

/-- The mapping a matching applies on one side of a flow. -/
def Matching.onSide : Matching → Side → Mapping
  | .always m, _ => m
  | .split s _, .source => s
  | .split _ d, .destination => d

/-- The backend fields a mapping constrains. -/
def Mapping.fields : Mapping → List String
  | .field f => [f]
  | .resource k n m => [k, n, m]

namespace Filter

/-- The constraints a filter puts on one side of a flow. -/
def constraintsAt (f : Filter) (s : Side) : List Constraint :=
  (f.definition.matching.onSide s).constraints f.texts

/-- Whether a filter holds on one side of a flow. -/
def holdsAt (f : Filter) (fl : Flow) (s : Side) : Bool :=
  (f.constraintsAt s).all fun c => fl.accepts c.field f.negated c.values

/-- The keys, with their values, that a filter adds to the group of one side. -/
def entriesAt (f : Filter) (s : Side) : List (String × List String) :=
  (f.constraintsAt s).map fun c => (Group.fieldKey c.field f.negated, c.values)

end Filter

/-- The group of every constraint that filters put on one side of a flow. -/
def sideGroup (F : List Filter) (s : Side) : Group :=
  Group.empty.addAll (F.flatMap (·.entriesAt s))

/-! ### The groups of one side -/

theorem Group.addFilter_eq_addAll (g : Group) (m : Mapping) (f : Filter) :
    g.addFilter m f =
      g.addAll ((m.constraints f.texts).map fun c => (Group.fieldKey c.field f.negated, c.values)) := by
  rw [Group.addFilter, Group.addAll, List.foldl_map]

/-- One filter adds its entries of each side to that side's group, and raises the flag when it
is two-sided. -/
theorem addToSides_eq (a b : Group) (flag : Bool) (f : Filter) :
    addToSides (a, b, flag) f =
      (a.addAll (f.entriesAt .source), b.addAll (f.entriesAt .destination),
        flag || f.definition.needsSplit) := by
  unfold addToSides Filter.entriesAt Filter.constraintsAt Definition.needsSplit
  split <;> next h => simp [h, Matching.onSide, Group.addFilter_eq_addAll]

theorem foldl_addToSides (F : List Filter) (a b : Group) (flag : Bool) :
    F.foldl addToSides (a, b, flag) =
      (a.addAll (F.flatMap (·.entriesAt .source)), b.addAll (F.flatMap (·.entriesAt .destination)),
        flag || F.any (·.definition.needsSplit)) := by
  induction F generalizing a b flag with
  | nil => simp [Group.addAll_nil]
  | cons f F ih =>
    rw [List.foldl_cons, addToSides_eq, ih, List.flatMap_cons, List.flatMap_cons,
      Group.addAll_append, Group.addAll_append, List.any_cons, Bool.or_assoc]

/-- A one-sided filter adds the same entries to both sides. -/
theorem Filter.entriesAt_of_not_needsSplit {f : Filter} (h : f.definition.needsSplit = false) :
    f.entriesAt .source = f.entriesAt .destination := by
  unfold Definition.needsSplit at h
  unfold Filter.entriesAt Filter.constraintsAt
  split at h
  · next hm => rw [hm, Matching.onSide, Matching.onSide]
  · exact absurd h Bool.noConfusion

theorem sideGroup_source_of_not_needsSplit {F : List Filter}
    (h : F.any (·.definition.needsSplit) = false) : sideGroup F .source = sideGroup F .destination := by
  rw [List.any_eq_false] at h
  unfold sideGroup
  rw [List.flatMap_def, List.flatMap_def,
    List.map_congr_left fun f hf => Filter.entriesAt_of_not_needsSplit (by simpa using h f hf)]

/-- The groups when all filters must hold: the source group, with the destination group after
it when some filter is two-sided. -/
theorem groupsAll_eq (F : List Filter) :
    groupsAll F =
      if F.any (·.definition.needsSplit) then [sideGroup F .source, sideGroup F .destination]
      else [sideGroup F .source] := by
  simp only [groupsAll, foldl_addToSides, Bool.false_or, sideGroup]

/-- The groups of all filters hold for a flow exactly when the group of one side does. -/
theorem meetsAny_groupsAll (fl : Flow) (F : List Filter) :
    fl.meetsAny (groupsAll F) = true ↔ ∃ s, fl.meetsGroup (sideGroup F s) = true := by
  rw [groupsAll_eq]
  split
  · simp only [Flow.meetsAny, List.isEmpty_cons, List.any_cons, List.any_nil, Bool.or_false,
      Bool.false_or, Bool.or_eq_true]
    constructor
    · rintro (h | h)
      · exact ⟨.source, h⟩
      · exact ⟨.destination, h⟩
    · rintro ⟨s, h⟩
      cases s
      · exact Or.inl h
      · exact Or.inr h
  · next hs =>
    have heq := sideGroup_source_of_not_needsSplit (Bool.eq_false_iff.mpr hs)
    simp only [Flow.meetsAny, List.isEmpty_cons, List.any_cons, List.any_nil, Bool.or_false,
      Bool.false_or]
    constructor
    · exact fun h => ⟨.source, h⟩
    · rintro ⟨s, h⟩
      cases s
      · exact h
      · exact heq ▸ h

/-! ### Keys of plain fields -/

namespace Flow

/-- A field is plain when its name does not end in `!`, so that its negated key is told apart. -/
def PlainField (field : String) : Prop := field.toList.getLast? ≠ some '!'

instance : DecidablePred PlainField := fun _ => inferInstanceAs (Decidable (_ ≠ _))

theorem keyField_fieldKey {field : String} (h : PlainField field) (negated : Bool) :
    keyField (Group.fieldKey field negated) = (field, negated) := by
  cases negated
  · simp only [Group.fieldKey, Bool.false_eq_true, if_false, keyField]
    split
    · next heq => exact absurd heq h
    · rfl
  · have hlist : (field ++ "!").toList = field.toList ++ ['!'] := by
      rw [String.toList_append]; rfl
    simp only [Group.fieldKey, if_true, keyField, hlist, List.getLast?_concat, List.dropLast_concat,
      String.ofList_toList]

/-- Keys of plain fields are equal only for the same field and the same negation. -/
theorem fieldKey_inj {a b : String} (ha : PlainField a) (hb : PlainField b) {m n : Bool}
    (h : Group.fieldKey a m = Group.fieldKey b n) : a = b ∧ m = n := by
  have hk := congrArg keyField h
  rw [keyField_fieldKey ha, keyField_fieldKey hb, Prod.mk.injEq] at hk
  exact hk

theorem meets_fieldKey (fl : Flow) {field : String} (h : PlainField field) (negated : Bool)
    (values : List String) :
    fl.meets (Group.fieldKey field negated, values) = fl.accepts field negated values := by
  rw [meets, keyField_fieldKey h]

theorem accepts_eq_true {fl : Flow} {field : String} {negated : Bool} {values : List String} :
    fl.accepts field negated values = true ↔ (fl field ∈ values ↔ negated = false) := by
  cases negated <;> simp [accepts]

/-- A flow meets a group built from nothing when it meets every key added, with everything added
under that key. -/
theorem meetsGroup_empty_addAll (fl : Flow) (ps : List (String × List String)) :
    fl.meetsGroup (Group.empty.addAll ps) = true ↔
      ∀ p ∈ ps, fl.meets (p.1, Group.valuesAt ps p.1) = true := by
  rw [meetsGroup, List.all_eq_true]
  constructor
  · intro h p hp
    exact h _ ((Group.mem_entries_addAll ps _).mpr ⟨List.mem_map.mpr ⟨p, hp, rfl⟩, rfl⟩)
  · intro h e he
    obtain ⟨hk, hv⟩ := (Group.mem_entries_addAll ps e).mp he
    obtain ⟨p, hp, hpk⟩ := List.mem_map.mp hk
    obtain ⟨k, vs⟩ := e
    simp only at hk hv hpk
    rw [hv, ← hpk]
    exact h p hp

end Flow

/-- A negated filter holds on a side when no constraint there accepts the flow's value. -/
theorem Filter.holdsAt_of_negated {f : Filter} (hneg : f.negated = true) {fl : Flow} {s : Side} :
    f.holdsAt fl s = true ↔ ∀ c ∈ f.constraintsAt s, fl c.field ∉ c.values := by
  rw [Filter.holdsAt, List.all_eq_true]
  refine forall₂_congr fun c _ => ?_
  rw [Flow.accepts_eq_true, hneg, Bool.true_eq_false, iff_false]

/-- A plain filter holds on a side when every constraint there accepts the flow's value. -/
theorem Filter.holdsAt_of_plain {f : Filter} (hpos : f.negated = false) {fl : Flow} {s : Side} :
    f.holdsAt fl s = true ↔ ∀ c ∈ f.constraintsAt s, fl c.field ∈ c.values := by
  rw [Filter.holdsAt, List.all_eq_true]
  refine forall₂_congr fun c _ => ?_
  rw [Flow.accepts_eq_true, hpos, eq_self_iff_true, iff_true]

/-! ### The meaning of one side's group -/

section Side
variable (fl : Flow) (F : List Filter) (s : Side)

theorem mem_flatMap_entriesAt {p : String × List String} :
    p ∈ F.flatMap (·.entriesAt s) ↔
      ∃ f ∈ F, ∃ c ∈ f.constraintsAt s, (Group.fieldKey c.field f.negated, c.values) = p := by
  simp [Filter.entriesAt]

/-- A flow meets the group of a side when it meets every key a constraint of that side is filed
under, with everything filed under that key. -/
theorem meetsGroup_sideGroup :
    fl.meetsGroup (sideGroup F s) = true ↔
      ∀ f ∈ F, ∀ c ∈ f.constraintsAt s,
        fl.meets (Group.fieldKey c.field f.negated,
          Group.valuesAt (F.flatMap (·.entriesAt s)) (Group.fieldKey c.field f.negated)) = true := by
  rw [sideGroup, Flow.meetsGroup_empty_addAll]
  constructor
  · intro h f hf c hc
    exact h (Group.fieldKey c.field f.negated, c.values)
      ((mem_flatMap_entriesAt F s).mpr ⟨f, hf, c, hc, rfl⟩)
  · intro h p hp
    obtain ⟨f, hf, c, hc, rfl⟩ := (mem_flatMap_entriesAt F s).mp hp
    exact h f hf c hc

/-- Everything filed under the key of a plain field on one side: the values of the constraints
on that field from the filters with that negation. -/
theorem mem_valuesAt_side (hP : ∀ f ∈ F, ∀ c ∈ f.constraintsAt s, Flow.PlainField c.field)
    {field v : String} (hfield : Flow.PlainField field) (negated : Bool) :
    v ∈ Group.valuesAt (F.flatMap (·.entriesAt s)) (Group.fieldKey field negated) ↔
      ∃ f ∈ F, f.negated = negated ∧ ∃ c ∈ f.constraintsAt s, c.field = field ∧ v ∈ c.values := by
  rw [Group.mem_valuesAt]
  constructor
  · rintro ⟨p, hp, hpk, hv⟩
    obtain ⟨f, hf, c, hc, rfl⟩ := (mem_flatMap_entriesAt F s).mp hp
    obtain ⟨hfc, hneg⟩ := Flow.fieldKey_inj (hP f hf c hc) hfield hpk
    exact ⟨f, hf, hneg, c, hc, hfc, hv⟩
  · rintro ⟨f, hf, rfl, c, hc, rfl, hv⟩
    exact ⟨_, (mem_flatMap_entriesAt F s).mpr ⟨f, hf, c, hc, rfl⟩, rfl, hv⟩

/-- A flow meets the key a constraint of a side is filed under when, for a plain key, some plain
constraint on that field accepts its value, and for a negated key, no negated one does. -/
theorem meets_key_iff (hP : ∀ f ∈ F, ∀ c ∈ f.constraintsAt s, Flow.PlainField c.field)
    {f : Filter} (hf : f ∈ F) {c : Constraint} (hc : c ∈ f.constraintsAt s) :
    fl.meets (Group.fieldKey c.field f.negated,
        Group.valuesAt (F.flatMap (·.entriesAt s)) (Group.fieldKey c.field f.negated)) = true ↔
      ((∃ f' ∈ F, f'.negated = f.negated ∧
        ∃ c' ∈ f'.constraintsAt s, c'.field = c.field ∧ fl c.field ∈ c'.values) ↔
          f.negated = false) := by
  rw [Flow.meets_fieldKey fl (hP f hf c hc), Flow.accepts_eq_true,
    mem_valuesAt_side F s hP (hP f hf c hc)]

end Side

/-! ### All filters on one side -/

/-- **What the groups of all filters mean.** When every constrained field is plain, a flow meets
the groups exactly when, on one side, every negated filter holds, and every field a plain filter
constrains takes a value that some plain filter accepts for that field. -/
theorem meetsAny_groupsAll_iff {F : List Filter}
    (hP : ∀ s, ∀ f ∈ F, ∀ c ∈ f.constraintsAt s, Flow.PlainField c.field) (fl : Flow) :
    fl.meetsAny (groupsAll F) = true ↔
      ∃ s, (∀ f ∈ F, f.negated = true → f.holdsAt fl s = true) ∧
        ∀ f ∈ F, f.negated = false → ∀ c ∈ f.constraintsAt s,
          ∃ f' ∈ F, f'.negated = false ∧
            ∃ c' ∈ f'.constraintsAt s, c'.field = c.field ∧ fl c.field ∈ c'.values := by
  rw [meetsAny_groupsAll]
  refine exists_congr fun s => ?_
  rw [meetsGroup_sideGroup]
  constructor
  · intro h
    refine ⟨fun f hf hneg => (Filter.holdsAt_of_negated hneg).mpr fun c hc hv => ?_,
      fun f hf hpos c hc => ?_⟩
    · -- the negated key of this constraint refuses every value filed under it
      have hm := (meets_key_iff fl F s (hP s) hf hc).mp (h f hf c hc)
      rw [hneg, Bool.true_eq_false, iff_false] at hm
      exact hm ⟨f, hf, hneg, c, hc, rfl, hv⟩
    · have hm := (meets_key_iff fl F s (hP s) hf hc).mp (h f hf c hc)
      rw [hpos] at hm
      exact hm.mpr rfl
  · rintro ⟨hneg, hpos⟩ f hf c hc
    rw [meets_key_iff fl F s (hP s) hf hc]
    cases hf' : f.negated
    · exact iff_of_true (hpos f hf hf' c hc) rfl
    · refine iff_of_false ?_ Bool.noConfusion
      rintro ⟨f', hf'', hneg', c', hc', hfield, hv⟩
      rw [← hfield] at hv
      exact (Filter.holdsAt_of_negated hneg').mp (hneg f' hf'' hneg') c' hc' hv

/-! ### The flow catalog -/

theorem Mapping.field_mem_fields {m : Mapping} {vs : List String} {c : Constraint}
    (h : c ∈ m.constraints vs) : c.field ∈ m.fields := by
  cases m with
  | field f =>
    rw [Mapping.constraints, List.mem_singleton] at h
    subst h
    exact List.mem_singleton_self _
  | resource k n m =>
    simp only [Mapping.constraints, List.mem_cons, List.mem_nil_iff, or_false] at h
    rcases h with rfl | rfl | rfl <;> simp [Mapping.fields]

/-- The backend fields the flow catalog maps values onto. -/
def Catalog.backendFields : List String :=
  ["SrcK8S_Namespace", "DstK8S_Namespace", "SrcK8S_Name", "DstK8S_Name", "SrcK8S_Type",
    "DstK8S_Type", "SrcAddr", "DstAddr", "SrcPort", "DstPort", "Proto"]

theorem Catalog.mem_backendFields {g : Glossary} {limit : Int} {d : Definition}
    (hd : d ∈ (Catalog.standard g limit).definitions) (s : Side) :
    ∀ x ∈ (d.matching.onSide s).fields, x ∈ Catalog.backendFields := by
  -- the matchings do not depend on the glossary or the limit, so they can be listed and checked
  have hall : ∀ m ∈ (Catalog.standard g limit).definitions.map Definition.matching,
      ∀ x ∈ (m.onSide .source).fields ++ (m.onSide .destination).fields,
        x ∈ Catalog.backendFields := by
    simp only [Catalog.standard, Catalog.standardDefinitions, peers, List.map_append,
      List.map_cons, List.map_nil, Catalog.base]
    decide
  intro x hx
  refine hall _ (List.mem_map_of_mem hd) x ?_
  cases s <;> simp [hx]

theorem Filter.field_mem_backendFields {g : Glossary} {limit : Int} {f : Filter}
    (hd : f.definition ∈ (Catalog.standard g limit).definitions) (s : Side) :
    ∀ c ∈ f.constraintsAt s, c.field ∈ Catalog.backendFields :=
  fun _ hc => Catalog.mem_backendFields hd s _ (Mapping.field_mem_fields hc)

/-- No backend field of the flow catalog ends in `!`. -/
theorem Filter.constraintsAt_plain {g : Glossary} {limit : Int} {f : Filter}
    (hd : f.definition ∈ (Catalog.standard g limit).definitions) (s : Side) :
    ∀ c ∈ f.constraintsAt s, Flow.PlainField c.field := by
  have hplain : ∀ x ∈ Catalog.backendFields, Flow.PlainField x := by decide
  exact fun c hc => hplain _ (Filter.field_mem_backendFields hd s c hc)

/-- **What the groups of all filters mean, over the flow catalog.** A flow meets them exactly
when, on one side, every negated filter holds, and every field a plain filter constrains takes a
value that some plain filter accepts for that field. -/
theorem groupsAll_holds_iff {g : Glossary} {limit : Int} {F : List Filter}
    (hF : ∀ f ∈ F, f.definition ∈ (Catalog.standard g limit).definitions) (fl : Flow) :
    fl.meetsAny (groupsAll F) = true ↔
      ∃ s, (∀ f ∈ F, f.negated = true → f.holdsAt fl s = true) ∧
        ∀ f ∈ F, f.negated = false → ∀ c ∈ f.constraintsAt s,
          ∃ f' ∈ F, f'.negated = false ∧
            ∃ c' ∈ f'.constraintsAt s, c'.field = c.field ∧ fl c.field ∈ c'.values :=
  meetsAny_groupsAll_iff (fun s _ hf => Filter.constraintsAt_plain (hF _ hf) s) fl

/-- Two source-port filters, for 80 and for 443, read for the flow whose every field is 80. -/
theorem groupsAll_holds_iff_ports :
    let F : List Filter := ["80", "443"].map fun v =>
      ⟨(Catalog.standard Glossary.plain defaultLimit).definitions[15], [⟨v, none⟩], false⟩
    (∀ f ∈ F, f.definition ∈ (Catalog.standard Glossary.plain defaultLimit).definitions) ∧
      (Flow.meetsAny (fun _ => "80") (groupsAll F) = true ↔
        ∃ s, (∀ f ∈ F, f.negated = true → f.holdsAt (fun _ => "80") s = true) ∧
          ∀ f ∈ F, f.negated = false → ∀ c ∈ f.constraintsAt s,
            ∃ f' ∈ F, f'.negated = false ∧
              ∃ c' ∈ f'.constraintsAt s, c'.field = c.field ∧ "80" ∈ c'.values) :=
  ⟨by decide, @groupsAll_holds_iff Glossary.plain defaultLimit _ (by decide) _⟩

/-- All filters holding on one side is not what the groups of all filters mean: two plain
filters on the source port, for 80 and for 443, become one key that accepts either value, and a
flow on port 80 meets it though no side holds both filters. -/
theorem groupsAll_not_sidewise :
    ¬ ∀ (fl : Flow) (F : List Filter),
      (∀ f ∈ F, f.definition ∈ (Catalog.standard Glossary.plain defaultLimit).definitions) →
      (fl.meetsAny (groupsAll F) = true ↔ ∃ s, ∀ f ∈ F, f.holdsAt fl s = true) := by
  intro h
  obtain ⟨s, hs⟩ := (h (fun _ => "80") (["80", "443"].map fun v =>
      ⟨(Catalog.standard Glossary.plain defaultLimit).definitions[15], [⟨v, none⟩], false⟩)
      (by decide)).mp (by decide)
  have h443 := hs ⟨(Catalog.standard Glossary.plain defaultLimit).definitions[15],
    [⟨"443", none⟩], false⟩ (by decide)
  cases s <;> exact absurd h443 (by decide)

/-- Where no two plain constraints of a side fall on one field, the groups of all filters hold
exactly when all filters hold on one side. -/
theorem groupsAll_holds_of_fields_nodup {g : Glossary} {limit : Int} {F : List Filter}
    (hF : ∀ f ∈ F, f.definition ∈ (Catalog.standard g limit).definitions)
    (hnodup : ∀ s, (((F.filter (!·.negated)).flatMap (·.constraintsAt s)).map (·.field)).Nodup)
    (fl : Flow) :
    fl.meetsAny (groupsAll F) = true ↔ ∃ s, ∀ f ∈ F, f.holdsAt fl s = true := by
  rw [meetsAny_groupsAll_iff (fun s _ hf => Filter.constraintsAt_plain (hF _ hf) s)]
  refine exists_congr fun s => ?_
  have hplain : ∀ {f c}, f ∈ F → f.negated = false → c ∈ f.constraintsAt s →
      c ∈ (F.filter (!·.negated)).flatMap (·.constraintsAt s) := fun hf hpos hc =>
    List.mem_flatMap.mpr ⟨_, List.mem_filter.mpr ⟨hf, by simp [hpos]⟩, hc⟩
  constructor
  · rintro ⟨hneg, hpos⟩ f hf
    cases hf' : f.negated
    · refine (Filter.holdsAt_of_plain hf').mpr fun c hc => ?_
      obtain ⟨f', hf'', hpos', c', hc', hfield, hv⟩ := hpos f hf hf' c hc
      -- the plain constraint that accepts the value is the one at hand: their fields agree
      have hcc : c' = c := List.inj_on_of_nodup_map (hnodup s) (hplain hf'' hpos' hc')
        (hplain hf hf' hc) hfield
      exact hcc ▸ hv
    · exact hneg f hf hf'
  · intro h
    refine ⟨fun f hf _ => h f hf, fun f hf hpos c hc => ⟨f, hf, hpos, c, hc, rfl, ?_⟩⟩
    exact (Filter.holdsAt_of_plain hpos).mp (h f hf) c hc

/-! ### Any filter on some side -/

/-- When any filter suffices, each filter gives the groups it would give alone when all must
hold. -/
theorem filterGroups_eq_groupsAll (f : Filter) : filterGroups f = groupsAll [f] := by
  unfold filterGroups groupsAll
  rw [List.foldl_cons, List.foldl_nil]
  unfold addToSides
  split <;> rfl

theorem groupsAll_ne_nil (F : List Filter) : groupsAll F ≠ [] := by
  rw [groupsAll_eq]
  split <;> exact List.cons_ne_nil _ _

/-- The groups of filters any of which suffices hold for a flow when the groups one filter gives
alone do. -/
theorem meetsAny_groupsAny {F : List Filter} (hne : F ≠ []) (fl : Flow) :
    fl.meetsAny (groupsAny F) = true ↔ ∃ f ∈ F, fl.meetsAny (groupsAll [f]) = true := by
  -- neither side is the empty alternative, which would constrain nothing
  have hone : ∀ f, fl.meetsAny (groupsAll [f]) = (groupsAll [f]).any fl.meetsGroup := fun f => by
    rw [Flow.meetsAny, List.isEmpty_eq_false_iff.mpr (groupsAll_ne_nil [f]), Bool.false_or]
  have hall : (groupsAny F).isEmpty = false := by
    obtain ⟨f, F', rfl⟩ := List.exists_cons_of_ne_nil hne
    rw [List.isEmpty_eq_false_iff, groupsAny, List.flatMap_cons, filterGroups_eq_groupsAll]
    exact List.append_ne_nil_of_left_ne_nil (groupsAll_ne_nil [f]) _
  rw [Flow.meetsAny, hall, Bool.false_or, groupsAny, List.any_flatMap, List.any_eq_true]
  simp only [filterGroups_eq_groupsAll, hone]

theorem Mapping.map_field_constraints (m : Mapping) (vs : List String) :
    (m.constraints vs).map (·.field) = m.fields := by
  cases m <;> rfl

/-- Each side's mapping of a flow catalog definition constrains distinct fields. -/
theorem Catalog.fields_nodup {g : Glossary} {limit : Int} {d : Definition}
    (hd : d ∈ (Catalog.standard g limit).definitions) (s : Side) :
    (d.matching.onSide s).fields.Nodup := by
  have hall : ∀ m ∈ (Catalog.standard g limit).definitions.map Definition.matching,
      (m.onSide .source).fields.Nodup ∧ (m.onSide .destination).fields.Nodup := by
    simp only [Catalog.standard, Catalog.standardDefinitions, peers, List.map_append,
      List.map_cons, List.map_nil, Catalog.base]
    decide
  have h := hall _ (List.mem_map_of_mem hd)
  cases s
  · exact h.1
  · exact h.2

/-- The plain constraints one catalog filter puts on a side, alone, fall on distinct fields. -/
theorem Filter.single_fields_nodup {g : Glossary} {limit : Int} {f : Filter}
    (hd : f.definition ∈ (Catalog.standard g limit).definitions) (s : Side) :
    ((([f].filter (!·.negated)).flatMap (·.constraintsAt s)).map (·.field)).Nodup := by
  have hf : ((f.constraintsAt s).map (·.field)).Nodup := by
    rw [Filter.constraintsAt, Mapping.map_field_constraints]
    exact Catalog.fields_nodup hd s
  cases hneg : f.negated
  · simpa [hneg] using hf
  · simp [hneg]

/-- **What the groups of any filter mean, over the flow catalog.** A flow meets the groups of a
non-empty list of catalog filters exactly when one filter holds on one side of it; a filter that
maps the same way on both sides holds on both or on neither. -/
theorem groupsAny_holds_iff {g : Glossary} {limit : Int} {F : List Filter}
    (hF : ∀ f ∈ F, f.definition ∈ (Catalog.standard g limit).definitions) (hne : F ≠ [])
    (fl : Flow) :
    fl.meetsAny (groupsAny F) = true ↔ ∃ f ∈ F, ∃ s, f.holdsAt fl s = true := by
  rw [meetsAny_groupsAny hne]
  refine exists_congr fun f => and_congr_right fun hf => ?_
  -- the constraints of one filter on one side never share a field, so nothing is merged
  have hone : ∀ f' ∈ [f], f'.definition ∈ (Catalog.standard g limit).definitions := by
    simpa using hF f hf
  rw [groupsAll_holds_of_fields_nodup hone (Filter.single_fields_nodup (hF f hf)) fl]
  simp

/-- A source port of 80 or a negated destination kind `Pod`, for the flow whose every field is
80: the port filter holds on the source side. -/
theorem groupsAny_holds_iff_ports :
    let F : List Filter :=
      [⟨(Catalog.standard Glossary.plain defaultLimit).definitions[15], [⟨"80", none⟩], false⟩,
        ⟨(Catalog.standard Glossary.plain defaultLimit).definitions[7], [⟨"Pod", none⟩], true⟩]
    ((∀ f ∈ F, f.definition ∈ (Catalog.standard Glossary.plain defaultLimit).definitions) ∧
      F ≠ []) ∧
      (Flow.meetsAny (fun _ => "80") (groupsAny F) = true ↔
        ∃ f ∈ F, ∃ s, f.holdsAt (fun _ => "80") s = true) := by
  dsimp only
  have hF : ∀ f ∈ [(⟨(Catalog.standard Glossary.plain defaultLimit).definitions[15],
      [⟨"80", none⟩], false⟩ : Filter),
      ⟨(Catalog.standard Glossary.plain defaultLimit).definitions[7], [⟨"Pod", none⟩], true⟩],
      f.definition ∈ (Catalog.standard Glossary.plain defaultLimit).definitions := by
    intro f hf
    simp only [List.mem_cons, List.mem_nil_iff, or_false] at hf
    rcases hf with rfl | rfl <;> exact List.getElem_mem _
  exact ⟨⟨hF, List.cons_ne_nil _ _⟩, groupsAny_holds_iff hF (List.cons_ne_nil _ _) _⟩

/-! ### What chosen resource paths ask of a flow -/

/-- **Chosen resource paths constrain each part on its own.** A flow meets the constraints that
chosen paths put on a kind, a namespace and a name field exactly when its kind is the kind of a
chosen path, its namespace the namespace of one, and its name the name of one, each path chosen
on its own. -/
theorem resource_constraints_hold_iff (k n m : String) (vs : List String) (fl : Flow) :
    ((Mapping.resource k n m).constraints vs).all (fun c => fl.accepts c.field false c.values) =
        true ↔
      (∃ v ∈ vs, fl k = (ResourcePath.ofText v).kind) ∧
        (∃ v ∈ vs, fl n = (ResourcePath.ofText v).ns) ∧
        (∃ v ∈ vs, fl m = (ResourcePath.ofText v).name) := by
  simp only [Mapping.constraints, List.all_cons, List.all_nil, Bool.and_true, Bool.and_eq_true,
    Flow.accepts_eq_true, iff_true, List.map_map, List.mem_map, Function.comp_apply]
  simp only [eq_comm]

/-- The destination paths `Pod.a.x` and `Svc.b.y` admit a flow to the pod `y` in namespace `b`,
though no chosen path names it. -/
theorem resource_constraints_admit_mix :
    ((Mapping.resource "DstK8S_Type" "DstK8S_Namespace" "DstK8S_Name").constraints
          ["Pod.a.x", "Svc.b.y"]).all
        (fun c => Flow.accepts
          (fun f => if f = "DstK8S_Type" then "Pod" else if f = "DstK8S_Namespace" then "b" else "y")
          c.field false c.values) = true ∧
      ¬ ∃ v ∈ ["Pod.a.x", "Svc.b.y"],
        ("Pod", "b", "y") = ((ResourcePath.ofText v).kind, (ResourcePath.ofText v).ns,
          (ResourcePath.ofText v).name) := by
  refine ⟨by decide, ?_⟩
  rintro ⟨v, hv, hparts⟩
  simp only [List.mem_cons, List.not_mem_nil, or_false] at hv
  rcases hv with rfl | rfl
  · exact absurd hparts (by decide)
  · exact absurd hparts (by decide)

end FlowSelect
