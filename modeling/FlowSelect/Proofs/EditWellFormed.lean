import FlowSelect.Filter.Edit
import FlowSelect.Catalog.Standard
import Mathlib.Data.List.Nodup
/-! Editing keeps the list of active filters well formed.

A list is well formed (`FilterList.WellFormed`) when no two filters have the same definition id
and negation, every filter has a value, and no two values of one filter have the same text.
Adding a value either refuses it and leaves the list as it was, or appends it to the one filter
of its definition and negation, whose texts do not hold it yet, or makes that filter at the end
(`insertValue_eq_some`). Removing a value rebuilds the list filter by filter, keeping each key
and dropping a filter left without values; removing a filter keeps a sublist. Each of the three
edits therefore keeps a list well formed (`addValue_wellFormed`, `removeValue_wellFormed`,
`removeFilter_wellFormed`), and so does every run of them from the empty list
(`Reachable.wellFormed`). -/
namespace FlowSelect

/-- The pair a filter is known by in a list: its definition id and its negation. -/
def Filter.key (f : Filter) : String × Bool := (f.id, f.negated)

theorem Filter.isFor_eq_true {f : Filter} {id : String} {negated : Bool} :
    f.isFor id negated = true ↔ f.key = (id, negated) := by
  simp [Filter.isFor, Filter.key, Filter.id]

/-- A list of active filters as editing keeps it. -/
structure FilterList.WellFormed (fs : List Filter) : Prop where
  /-- No two filters have the same definition id and negation. -/
  keys : (fs.map Filter.key).Nodup
  /-- Every filter has a value. -/
  valued : ∀ f ∈ fs, f.values ≠ []
  /-- No two values of one filter have the same text. -/
  distinct : ∀ f ∈ fs, f.texts.Nodup

namespace FilterList.WellFormed

theorem nil : FilterList.WellFormed [] := ⟨List.nodup_nil, by simp, by simp⟩

/-- A sublist of a well-formed list is well formed. -/
theorem sublist {fs fs' : List Filter} (h : FilterList.WellFormed fs) (hs : fs'.Sublist fs) :
    FilterList.WellFormed fs' :=
  ⟨h.keys.sublist (hs.map _), fun f hf => h.valued f (hs.subset hf),
    fun f hf => h.distinct f (hs.subset hf)⟩

/-- A list rebuilt filter by filter stays well formed when each filter kept keeps its key, has
a value, and keeps some of its texts in order. -/
theorem filterMap {fs : List Filter} {step : Filter → Option Filter}
    (h : FilterList.WellFormed fs)
    (hstep : ∀ f ∈ fs, ∀ g, step f = some g →
      g.key = f.key ∧ g.values ≠ [] ∧ g.texts.Sublist f.texts) :
    FilterList.WellFormed (fs.filterMap step) := by
  -- the keys of the rebuilt list are some of the keys of the list, in order
  have hkeys : ∀ fs' ⊆ fs, ((fs'.filterMap step).map Filter.key).Sublist (fs'.map Filter.key) := by
    intro fs' hsub
    induction fs' with
    | nil => exact List.Sublist.slnil
    | cons f fs' ih =>
      have ih' := ih fun x hx => hsub (List.mem_cons_of_mem _ hx)
      rw [List.filterMap_cons]
      cases hf : step f with
      | none => exact ih'.cons _
      | some g =>
        rw [List.map_cons, List.map_cons, (hstep f (hsub List.mem_cons_self) g hf).1]
        exact ih'.cons_cons _
  refine ⟨h.keys.sublist (hkeys fs fun _ hx => hx), fun g hg => ?_, fun g hg => ?_⟩
  · obtain ⟨f, hf, hfg⟩ := List.mem_filterMap.mp hg
    exact (hstep f hf g hfg).2.1
  · obtain ⟨f, hf, hfg⟩ := List.mem_filterMap.mp hg
    exact (h.distinct f hf).sublist (hstep f hf g hfg).2.2

/-- A filter of a new key, with a value and distinct texts, appended to a well-formed list. -/
theorem append_new {fs : List Filter} {g : Filter} (h : FilterList.WellFormed fs)
    (hkey : g.key ∉ fs.map Filter.key) (hg : g.values ≠ []) (hgt : g.texts.Nodup) :
    FilterList.WellFormed (fs ++ [g]) := by
  refine ⟨?_, fun f hf => ?_, fun f hf => ?_⟩
  · rw [List.map_append, List.map_singleton, List.nodup_append]
    refine ⟨h.keys, List.nodup_singleton _, fun a ha b hb hab => ?_⟩
    rw [List.mem_singleton] at hb
    rw [hab, hb] at ha
    exact hkey ha
  · rcases List.mem_append.mp hf with hf | hf
    · exact h.valued f hf
    · exact (List.mem_singleton.mp hf) ▸ hg
  · rcases List.mem_append.mp hf with hf | hf
    · exact h.distinct f hf
    · exact (List.mem_singleton.mp hf) ▸ hgt

/-- One filter of a well-formed list replaced by one of the same key, with a value and distinct
texts. -/
theorem replace {pre post : List Filter} {f g : Filter}
    (h : FilterList.WellFormed (pre ++ f :: post)) (hkey : g.key = f.key) (hg : g.values ≠ [])
    (hgt : g.texts.Nodup) : FilterList.WellFormed (pre ++ g :: post) := by
  have hmem : ∀ x ∈ pre ++ g :: post, x = g ∨ x ∈ pre ++ f :: post := by
    intro x hx
    simp only [List.mem_append, List.mem_cons] at hx ⊢
    tauto
  refine ⟨?_, fun x hx => ?_, fun x hx => ?_⟩
  · simpa only [List.map_append, List.map_cons, hkey] using h.keys
  · rcases hmem x hx with rfl | hx
    · exact hg
    · exact h.valued x hx
  · rcases hmem x hx with rfl | hx
    · exact hgt
    · exact h.distinct x hx

end FilterList.WellFormed

/-! ### Adding a value -/

theorem Filter.texts_append (f : Filter) (v : Value) :
    ({ f with values := f.values ++ [v] } : Filter).texts = f.texts ++ [v.text] := by
  simp [Filter.texts]

/-- A filter holds a value with some text exactly when the text is among its texts. -/
theorem Filter.any_text_iff_mem_texts {f : Filter} {v : Value} :
    f.values.any (·.text == v.text) = true ↔ v.text ∈ f.texts := by
  simp [Filter.texts]

/-- What adding a value can do to a list, when it is not refused: make the filter of its
definition and negation at the end, where there was none, or append the value to that filter,
the first one with that key, which does not hold its text yet. -/
theorem insertValue_eq_some {d : Definition} {v : Value} {negated : Bool} {fs fs' : List Filter}
    (h : insertValue d v negated fs = some fs') :
    ((∀ f ∈ fs, f.isFor d.id negated = false) ∧ fs' = fs ++ [⟨d, [v], negated⟩]) ∨
      ∃ pre f post, fs = pre ++ f :: post ∧ f.isFor d.id negated = true ∧
        v.text ∉ f.texts ∧ fs' = pre ++ { f with values := f.values ++ [v] } :: post := by
  induction fs generalizing fs' with
  | nil =>
    left
    rw [insertValue] at h
    exact ⟨by simp, (Option.some.inj h).symm⟩
  | cons f rest ih =>
    rw [insertValue] at h
    by_cases hfor : f.isFor d.id negated = true
    · rw [if_pos hfor] at h
      by_cases hdup : f.values.any (·.text == v.text) = true
      · rw [if_pos hdup] at h
        exact absurd h (by simp)
      · -- the first filter of the key takes the value
        rw [if_neg hdup] at h
        right
        exact ⟨[], f, rest, rfl, hfor, fun ht => hdup (Filter.any_text_iff_mem_texts.mpr ht),
          (Option.some.inj h).symm⟩
    · rw [if_neg hfor] at h
      obtain ⟨rest', hrest, rfl⟩ := Option.map_eq_some_iff.mp h
      rcases ih hrest with ⟨hnone, rfl⟩ | ⟨pre, g, post, rfl, hg, hv, rfl⟩
      · left
        refine ⟨fun x hx => ?_, rfl⟩
        rcases List.mem_cons.mp hx with rfl | hx
        · exact Bool.eq_false_iff.mpr hfor
        · exact hnone x hx
      · right
        exact ⟨f :: pre, g, post, rfl, hg, hv, rfl⟩

/-- Adding a value, taken or refused, keeps a list well formed. -/
theorem addValue_wellFormed {fs : List Filter} (h : FilterList.WellFormed fs) (g : Glossary)
    (d : Definition) (v : Value) (negated : Bool) :
    FilterList.WellFormed (addValue g fs d v negated).filters := by
  unfold addValue
  split
  · next fs' hins =>
    rcases insertValue_eq_some hins with ⟨hnone, rfl⟩ | ⟨pre, f, post, rfl, hf, hv, rfl⟩
    · refine h.append_new ?_ (List.cons_ne_nil _ _) (List.nodup_singleton _)
      intro hkey
      obtain ⟨f, hf, hfk⟩ := List.mem_map.mp hkey
      have hfor : f.isFor d.id negated = true := Filter.isFor_eq_true.mpr hfk
      rw [hnone f hf] at hfor
      exact Bool.false_ne_true hfor
    · refine h.replace rfl (by simp) ?_
      rw [Filter.texts_append, List.nodup_append]
      refine ⟨h.distinct f (by simp), List.nodup_singleton _, fun a ha b hb hab => ?_⟩
      rw [List.mem_singleton] at hb
      exact hv (hb ▸ hab ▸ ha)
  · exact h

/-! ### Removing values and filters -/

/-- Removing a value keeps a list well formed: a filter of the key keeps its other values, and
goes away when none is left. -/
theorem removeValue_wellFormed {fs : List Filter} (h : FilterList.WellFormed fs) (id : String)
    (negated : Bool) (text : String) :
    FilterList.WellFormed (removeValue fs id negated text) := by
  refine h.filterMap fun f hf g hg => ?_
  by_cases hfor : f.isFor id negated = true
  · simp only [hfor, if_true] at hg
    by_cases hempty : (f.values.filter (·.text != text)).isEmpty = true
    · rw [if_pos hempty] at hg
      exact nomatch hg
    · -- the filter keeps the values of other texts, and at least one
      rw [if_neg hempty] at hg
      cases Option.some.inj hg
      exact ⟨rfl, fun hnil => hempty (List.isEmpty_iff.mpr hnil), List.filter_sublist.map _⟩
  · rw [if_neg hfor] at hg
    cases Option.some.inj hg
    exact ⟨rfl, h.valued f hf, List.Sublist.refl _⟩

/-- Removing a filter keeps a list well formed. -/
theorem removeFilter_wellFormed {fs : List Filter} (h : FilterList.WellFormed fs) (id : String)
    (negated : Bool) : FilterList.WellFormed (removeFilter fs id negated) :=
  h.sublist List.filter_sublist

/-! ### Every run of edits -/

/-- The lists that edits reach from the empty list. -/
inductive FilterList.Reachable : List Filter → Prop where
  | nil : FilterList.Reachable []
  | add {fs : List Filter} (g : Glossary) (d : Definition) (v : Value) (negated : Bool) :
      FilterList.Reachable fs → FilterList.Reachable (addValue g fs d v negated).filters
  | removeValue {fs : List Filter} (id : String) (negated : Bool) (text : String) :
      FilterList.Reachable fs → FilterList.Reachable (removeValue fs id negated text)
  | removeFilter {fs : List Filter} (id : String) (negated : Bool) :
      FilterList.Reachable fs → FilterList.Reachable (removeFilter fs id negated)

/-- Every list edits reach from the empty list is well formed. -/
theorem FilterList.Reachable.wellFormed {fs : List Filter} (h : FilterList.Reachable fs) :
    FilterList.WellFormed fs := by
  induction h with
  | nil => exact .nil
  | add g d v negated _ ih => exact addValue_wellFormed ih g d v negated
  | removeValue id negated text _ ih => exact removeValue_wellFormed ih id negated text
  | removeFilter id negated _ ih => exact removeFilter_wellFormed ih id negated

/-- **Editing keeps the filter list well formed.** Adding a value (taken or refused), removing a
value and removing a filter each keep a well-formed list well formed, whatever their arguments;
so every list edits reach from the empty list is well formed. -/
theorem edits_keep_wellFormed :
    (∀ g fs d v negated, FilterList.WellFormed fs →
      FilterList.WellFormed (addValue g fs d v negated).filters) ∧
    (∀ fs id negated text, FilterList.WellFormed fs →
      FilterList.WellFormed (removeValue fs id negated text)) ∧
    (∀ fs id negated, FilterList.WellFormed fs →
      FilterList.WellFormed (removeFilter fs id negated)) ∧
    ∀ fs, FilterList.Reachable fs → FilterList.WellFormed fs :=
  ⟨fun g _ d v negated h => addValue_wellFormed h g d v negated,
    fun _ id negated text h => removeValue_wellFormed h id negated text,
    fun _ id negated h => removeFilter_wellFormed h id negated,
    fun _ h => h.wellFormed⟩

/-- Source port 80, then source port 443 excluded, added to the empty list: two filters of one
definition, apart by their negation. -/
theorem edits_keep_wellFormed_ports :
    let d := (Catalog.standard Glossary.plain defaultLimit).definitions[15]
    let fs := (addValue Glossary.plain (addValue Glossary.plain [] d ⟨"80", none⟩ false).filters
      d ⟨"443", none⟩ true).filters
    FilterList.Reachable fs ∧ fs.length = 2 ∧ FilterList.WellFormed fs := by
  intro d fs
  have hr : FilterList.Reachable fs := .add _ _ _ _ (.add _ _ _ _ .nil)
  have hlen : fs.length = 2 := by decide +kernel
  exact ⟨hr, hlen, edits_keep_wellFormed.2.2.2 fs hr⟩

end FlowSelect
