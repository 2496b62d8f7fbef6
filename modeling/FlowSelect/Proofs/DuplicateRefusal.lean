import FlowSelect.Proofs.EditWellFormed
import FlowSelect.Catalog.Standard
/-! Adding a value refuses exactly the duplicates.

Adding a value looks only at the first filter of its definition id and negation: it refuses the
value when that filter holds its text (`insertValue_eq_none_iff`). In a well-formed list that
filter is the only one of its key (`findFilter_eq_some_iff`), so a value is refused exactly when
some filter of the key holds its text, the reason given being "Filter already exists" in the
glossary's words, and the list is then left as it was. Otherwise the value is
appended to the filter of its key, every other filter staying as it is, or a filter of the key with
that one value is made at the end when there is none (`addValue_refuses_exactly_duplicates`). -/
namespace FlowSelect

/-- Adding is refused exactly when the first filter of the key holds the value's text. -/
theorem insertValue_eq_none_iff {d : Definition} {v : Value} {negated : Bool} {fs : List Filter} :
    insertValue d v negated fs = none ↔
      ∃ f, findFilter fs d.id negated = some f ∧ v.text ∈ f.texts := by
  induction fs with
  | nil => simp [insertValue, findFilter]
  | cons f rest ih =>
    rw [insertValue, findFilter, List.find?_cons]
    cases hfor : f.isFor d.id negated with
    | false =>
      simp only [Bool.false_eq_true, if_false, Option.map_eq_none_iff]
      exact ih
    | true =>
      -- the first filter of the key decides: it refuses a text it holds
      simp only [if_true, Option.some.injEq, exists_eq_left', ← Filter.any_text_iff_mem_texts]
      cases f.values.any (·.text == v.text) <;> simp

section WellFormed
variable {fs : List Filter}

/-- In a list with one filter per key, the filter found for a key is the one of that key. -/
theorem findFilter_eq_some_iff (hk : (fs.map Filter.key).Nodup) {id : String} {negated : Bool}
    {f : Filter} : findFilter fs id negated = some f ↔ f ∈ fs ∧ f.key = (id, negated) := by
  rw [findFilter]
  constructor
  · intro h
    have hfor := List.find?_some h
    exact ⟨List.mem_of_find?_eq_some h, Filter.isFor_eq_true.mp hfor⟩
  · rintro ⟨hf, hkey⟩
    obtain ⟨g, hg⟩ : ∃ g, fs.find? (fun f => f.isFor id negated) = some g :=
      Option.isSome_iff_exists.mp (List.find?_isSome.mpr ⟨f, hf, Filter.isFor_eq_true.mpr hkey⟩)
    -- the filter found has the same key, so it is this one
    have hgfor := List.find?_some hg
    have hgkey : g.key = (id, negated) := Filter.isFor_eq_true.mp hgfor
    rw [hg, List.inj_on_of_nodup_map hk (List.mem_of_find?_eq_some hg) hf
      (hgkey.trans hkey.symm)]

/-- In a list with one filter per key, the filters around one filter have other keys. -/
theorem key_ne_of_mem_split {pre post : List Filter} {f : Filter}
    (hk : ((pre ++ f :: post).map Filter.key).Nodup) :
    ∀ g ∈ pre ++ post, g.key ≠ f.key := by
  rw [List.map_append, List.map_cons, List.nodup_append, List.nodup_cons] at hk
  intro g hg hgf
  rcases List.mem_append.mp hg with hg | hg
  · exact hk.2.2 _ (List.mem_map_of_mem hg) _ List.mem_cons_self hgf
  · exact hk.2.1.1 (hgf ▸ List.mem_map_of_mem hg)

/-- Updating the filter of a key, in a list with one filter per key, leaves the others. -/
theorem map_update_of_split {pre post : List Filter} {f : Filter} {key : String × Bool}
    (hk : ((pre ++ f :: post).map Filter.key).Nodup) (hf : f.key = key) (u : Filter → Filter) :
    (pre ++ f :: post).map (fun g => if g.key = key then u g else g) = pre ++ u f :: post := by
  have hkeep : ∀ g ∈ pre ++ post, (if g.key = key then u g else g) = g := fun g hg =>
    if_neg fun hg' => key_ne_of_mem_split hk g hg (hg'.trans hf.symm)
  rw [List.map_append, List.map_cons, if_pos hf,
    List.map_congr_left fun g hg => hkeep g (List.mem_append_left _ hg), List.map_id',
    List.map_congr_left fun g hg => hkeep g (List.mem_append_right _ hg), List.map_id']

end WellFormed

/-! ### Adding a value -/

section Add
variable {g : Glossary} {fs fs' : List Filter} {d : Definition} {v : Value} {negated : Bool}

theorem addValue_of_insertValue_none (h : insertValue d v negated fs = none) :
    addValue g fs d v negated = ⟨fs, some (g.say duplicateText)⟩ := by
  simp only [addValue, h]

theorem addValue_of_insertValue_some (h : insertValue d v negated fs = some fs') :
    addValue g fs d v negated = ⟨fs', none⟩ := by
  simp only [addValue, h]

/-- In a well-formed list, a value is refused exactly when a filter of its key holds its text,
with `duplicateText` in the glossary's words as the reason. -/
theorem addValue_error (h : FilterList.WellFormed fs) :
    (addValue g fs d v negated).error =
      if ∃ f ∈ fs, f.key = (d.id, negated) ∧ v.text ∈ f.texts then some (g.say duplicateText)
      else none := by
  have hfound : (∃ f ∈ fs, f.key = (d.id, negated) ∧ v.text ∈ f.texts) ↔
      insertValue d v negated fs = none := by
    rw [insertValue_eq_none_iff]
    simp only [findFilter_eq_some_iff h.keys, and_assoc]
  simp only [hfound]
  cases hins : insertValue d v negated fs with
  | none => simp [addValue_of_insertValue_none hins]
  | some fs' => simp [addValue_of_insertValue_some hins]

/-- In a well-formed list, a value is taken exactly when no filter of its key holds its text. -/
theorem addValue_added_iff (h : FilterList.WellFormed fs) :
    (addValue g fs d v negated).added = true ↔
      ¬ ∃ f ∈ fs, f.key = (d.id, negated) ∧ v.text ∈ f.texts := by
  rw [Addition.added, addValue_error h]
  by_cases hdup : ∃ f ∈ fs, f.key = (d.id, negated) ∧ v.text ∈ f.texts <;> simp [hdup]

/-- A refused value leaves the list as it was. -/
theorem addValue_filters_of_refused (h : (addValue g fs d v negated).added = false) :
    (addValue g fs d v negated).filters = fs := by
  cases hins : insertValue d v negated fs with
  | none => rw [addValue_of_insertValue_none hins]
  | some fs' =>
    rw [addValue_of_insertValue_some hins] at h
    simp [Addition.added] at h

/-- A value taken into a well-formed list is appended to the filter of its key, the others
staying as they are, or makes that filter at the end when there is none. -/
theorem addValue_filters_of_added (h : FilterList.WellFormed fs)
    (hadded : (addValue g fs d v negated).added = true) :
    (addValue g fs d v negated).filters =
      if ∃ f ∈ fs, f.key = (d.id, negated) then
        fs.map fun f => if f.key = (d.id, negated) then { f with values := f.values ++ [v] } else f
      else fs ++ [⟨d, [v], negated⟩] := by
  cases hins : insertValue d v negated fs with
  | none =>
    rw [addValue_of_insertValue_none hins] at hadded
    simp [Addition.added] at hadded
  | some fs' =>
    rw [addValue_of_insertValue_some hins]
    rcases insertValue_eq_some hins with ⟨hnone, rfl⟩ | ⟨pre, f, post, rfl, hf, -, rfl⟩
    · -- no filter of the key: a new one comes last
      have hno : ¬ ∃ f ∈ fs, f.key = (d.id, negated) := fun ⟨f, hf, hkey⟩ =>
        Bool.false_ne_true ((hnone f hf).symm.trans (Filter.isFor_eq_true.mpr hkey))
      rw [if_neg hno]
    · -- the filter of the key takes the value, and it is the only one of its key
      have hkey : f.key = (d.id, negated) := Filter.isFor_eq_true.mp hf
      rw [if_pos ⟨f, List.mem_append_right _ List.mem_cons_self, hkey⟩]
      exact (map_update_of_split h.keys hkey fun g => { g with values := g.values ++ [v] }).symm

end Add

/-- **Adding a value refuses exactly the duplicates.** In a well-formed list, a value is refused
exactly when a filter of its definition id and negation already holds its text, with "Filter
already exists" in the glossary's words as the reason, and the list is then left as it was;
otherwise the value is appended to that filter, every other filter staying as it is, or a filter
of the key with that one value is made at the end when there is none. -/
theorem addValue_refuses_exactly_duplicates {fs : List Filter} (h : FilterList.WellFormed fs)
    (g : Glossary) (d : Definition) (v : Value) (negated : Bool) :
    ((addValue g fs d v negated).error =
        if ∃ f ∈ fs, f.key = (d.id, negated) ∧ v.text ∈ f.texts then some (g.say duplicateText)
        else none) ∧
      ((addValue g fs d v negated).added = false → (addValue g fs d v negated).filters = fs) ∧
      ((addValue g fs d v negated).added = true →
        (addValue g fs d v negated).filters =
          if ∃ f ∈ fs, f.key = (d.id, negated) then
            fs.map fun f => if f.key = (d.id, negated) then { f with values := f.values ++ [v] } else f
          else fs ++ [⟨d, [v], negated⟩]) :=
  ⟨addValue_error h, addValue_filters_of_refused, addValue_filters_of_added h⟩

/-- Source port 80 added again to the list holding it. -/
theorem addValue_refuses_exactly_duplicates_port :
    let d := (Catalog.standard Glossary.plain defaultLimit).definitions[15]
    let fs : List Filter := [⟨d, [⟨"80", none⟩], false⟩]
    let v : Value := ⟨"80", none⟩
    FilterList.WellFormed fs ∧
      ((addValue Glossary.plain fs d v false).error =
          if ∃ f ∈ fs, f.key = (d.id, false) ∧ v.text ∈ f.texts then
            some (Glossary.plain.say duplicateText)
          else none) ∧
        ((addValue Glossary.plain fs d v false).added = false →
          (addValue Glossary.plain fs d v false).filters = fs) ∧
        ((addValue Glossary.plain fs d v false).added = true →
          (addValue Glossary.plain fs d v false).filters =
            if ∃ f ∈ fs, f.key = (d.id, false) then
              fs.map fun f => if f.key = (d.id, false) then { f with values := f.values ++ [v] } else f
            else fs ++ [⟨d, [v], false⟩]) := by
  intro d fs v
  have h : FilterList.WellFormed fs :=
    FilterList.WellFormed.nil.append_new (by simp) (List.cons_ne_nil _ _) (List.nodup_singleton _)
  exact ⟨h, addValue_refuses_exactly_duplicates h Glossary.plain d v false⟩

end FlowSelect
