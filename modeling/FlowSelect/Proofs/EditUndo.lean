import FlowSelect.Proofs.DuplicateRefusal
/-! Removing a value undoes adding it.

A value taken into a well-formed list is appended to the one filter of its definition id and
negation, or makes that filter, with the value alone, at the end of the list
(`addValue_filters_of_added`). Removing the value's text takes it out of every filter of the key.
The filter it was appended to held values, none with that text, so it gets back exactly the
values it had; a filter made for the value has none left and goes away. Every other filter is
left as it is, labels included (`removeValue_addValue`). -/
namespace FlowSelect

/-- Removing a text from values that do not hold it keeps them all. -/
theorem Filter.filter_values_of_not_mem {f : Filter} {text : String} (h : text ∉ f.texts) :
    f.values.filter (·.text != text) = f.values := by
  refine List.filter_eq_self.mpr fun u hu => ?_
  rw [bne_iff_ne]
  rintro rfl
  exact h (List.mem_map_of_mem hu)

/-- A value appended to a filter and then removed by its text leaves the values as they were. -/
theorem Filter.filter_append_value {f : Filter} {v : Value} (h : v.text ∉ f.texts) :
    (f.values ++ [v]).filter (·.text != v.text) = f.values := by
  rw [List.filter_append, Filter.filter_values_of_not_mem h]
  simp

section Remove
variable {fs : List Filter} {id : String} {negated : Bool} {text : String}

/-- Removing a text leaves a list as it is when every filter of the key has values and none
with that text. -/
theorem removeValue_eq_self
    (h : ∀ f ∈ fs, f.key = (id, negated) → f.values ≠ [] ∧ text ∉ f.texts) :
    removeValue fs id negated text = fs := by
  unfold removeValue
  refine (List.filterMap_congr fun f hf => ?_).trans List.filterMap_some
  by_cases hfor : f.isFor id negated = true
  · obtain ⟨hne, htext⟩ := h f hf (Filter.isFor_eq_true.mp hfor)
    simp [hfor, Filter.filter_values_of_not_mem htext, hne]
  · simp [hfor]

/-- Removing a text from filters of the key that each got a value of that text appended gives
back the filters as they were, when they had values and none with that text. -/
theorem removeValue_map_append {v : Value}
    (h : ∀ f ∈ fs, f.key = (id, negated) → f.values ≠ [] ∧ v.text ∉ f.texts) :
    removeValue (fs.map fun f =>
        if f.key = (id, negated) then { f with values := f.values ++ [v] } else f)
      id negated v.text = fs := by
  unfold removeValue
  rw [List.filterMap_map]
  refine (List.filterMap_congr fun f hf => ?_).trans List.filterMap_some
  by_cases hk : f.key = (id, negated)
  · -- the filter of the key loses the value appended, and keeps the values it had
    obtain ⟨hne, htext⟩ := h f hf hk
    have hfor : ({ f with values := f.values ++ [v] } : Filter).isFor id negated = true :=
      Filter.isFor_eq_true.mpr hk
    simp only [Function.comp_apply, if_pos hk, hfor, if_true, Filter.filter_append_value htext]
    rw [if_neg (by simpa [List.isEmpty_iff] using hne)]
  · have hfor : f.isFor id negated = false :=
      Bool.eq_false_iff.mpr fun hfor => hk (Filter.isFor_eq_true.mp hfor)
    simp [hk, hfor]

theorem removeValue_append (fs' : List Filter) :
    removeValue (fs ++ fs') id negated text =
      removeValue fs id negated text ++ removeValue fs' id negated text :=
  List.filterMap_append

/-- Removing a text from a filter made with one value of that text leaves nothing. -/
theorem removeValue_single (d : Definition) (v : Value) (negated : Bool) :
    removeValue [⟨d, [v], negated⟩] d.id negated v.text = [] := by
  simp [removeValue, Filter.isFor]

end Remove

/-- **Removing a value undoes adding it.** When a value is taken into a well-formed list,
removing its text from the filters of its definition id and negation gives back the list as it
was: the same filters in the same order, with the same values and labels. -/
theorem removeValue_addValue {fs : List Filter} (h : FilterList.WellFormed fs) {g : Glossary}
    {d : Definition} {v : Value} {negated : Bool} (hadded : (addValue g fs d v negated).added = true) :
    removeValue (addValue g fs d v negated).filters d.id negated v.text = fs := by
  -- the value was taken, so no filter of its key holds its text
  have hfree : ∀ f ∈ fs, f.key = (d.id, negated) → f.values ≠ [] ∧ v.text ∉ f.texts :=
    fun f hf hk => ⟨h.valued f hf, fun ht => (addValue_added_iff h).mp hadded ⟨f, hf, hk, ht⟩⟩
  rw [addValue_filters_of_added h hadded]
  split
  · -- the filter of the key took the value
    exact removeValue_map_append hfree
  · -- a filter was made for the value, and goes away with it
    rw [removeValue_append, removeValue_eq_self hfree, removeValue_single, List.append_nil]

/-- Source port 443, labelled, added to a list holding source port 80 and then removed. -/
theorem removeValue_addValue_port :
    let d := (Catalog.standard Glossary.plain defaultLimit).definitions[15]
    let fs : List Filter := [⟨d, [⟨"80", some "http"⟩], false⟩]
    let v : Value := ⟨"443", some "https"⟩
    FilterList.WellFormed fs ∧ (addValue Glossary.plain fs d v false).added = true ∧
      removeValue (addValue Glossary.plain fs d v false).filters d.id false v.text = fs := by
  intro d fs v
  have h : FilterList.WellFormed fs :=
    FilterList.WellFormed.nil.append_new (by simp) (List.cons_ne_nil _ _) (List.nodup_singleton _)
  have hadded : (addValue Glossary.plain fs d v false).added = true := by decide +kernel
  exact ⟨h, hadded, removeValue_addValue h hadded⟩

end FlowSelect
