import FlowSelect.Proofs.GroupMeaning
import FlowSelect.Proofs.FragmentRoundTrip
/-! Compiled fragments read back as the groups they were compiled from.

The compiler writes groups with no escaping, so a fragment reads back only when nothing written
can be taken for the syntax around it. The keys are catalog fields, which are field names. The
values are the texts the user chose or, for a resource, the parts of them, so when no chosen
text holds a separator, `!` or a blank, and every filter has a value, every group the compiler
builds is readable and the fragment reads back as exactly those groups, in either match mode
(`read_compileFilters`). A kind is only checked for being non-empty, so a kind such as `a,b`
passes its rule and is read back as two values. -/
namespace FlowSelect

namespace Fragment

/-- Whether a chosen text is written into a fragment as it is: none of its characters is a
separator, `!` or a blank. -/
def isPlainText (v : String) : Bool := v.toList.all fun c => isValueChar c && !Text.isBlank c

theorem isPlainText_iff {v : String} :
    isPlainText v = true ↔ ∀ c ∈ v.toList, isValueChar c = true ∧ Text.isBlank c = false := by
  simp [isPlainText]

end Fragment

/-! ### Where the written values come from -/

theorem Text.eq_of_cutChars {sep : Char} {cs a b : List Char}
    (h : Text.cutChars sep cs = some (a, b)) : cs = a ++ sep :: b := by
  induction cs generalizing a b with
  | nil => exact nomatch h
  | cons c cs ih =>
    rw [Text.cutChars] at h
    split at h
    · next hc =>
      cases h
      rw [hc, List.nil_append]
    · obtain ⟨⟨a', b'⟩, hp, he⟩ := Option.map_eq_some_iff.mp h
      cases he
      rw [ih hp, List.cons_append]

/-- Both sides of a cut are made of the text's characters. -/
theorem Text.mem_of_cut {s : String} {sep : Char} {a b : String} (h : Text.cut s sep = some (a, b))
    {c : Char} (hc : c ∈ a.toList ∨ c ∈ b.toList) : c ∈ s.toList := by
  obtain ⟨⟨a', b'⟩, hp, he⟩ := Option.map_eq_some_iff.mp h
  cases he
  rw [Text.eq_of_cutChars hp]
  simp only [String.toList_ofList] at hc
  rcases hc with hc | hc <;> simp [hc]

/-- The kind, namespace and name of a resource path are made of the text's characters. -/
theorem ResourcePath.mem_of_ofText {v : String} {c : Char}
    (hc : c ∈ (ResourcePath.ofText v).kind.toList ∨ c ∈ (ResourcePath.ofText v).ns.toList ∨
      c ∈ (ResourcePath.ofText v).name.toList) : c ∈ v.toList := by
  unfold ResourcePath.ofText at hc
  split at hc
  · simpa using hc
  · next kind rest hcut =>
    split at hc
    · simp only [String.toList_empty, List.not_mem_nil, or_false] at hc
      exact Text.mem_of_cut hcut hc
    · next ns name hcut' =>
      rcases hc with hc | hc
      · exact Text.mem_of_cut hcut (Or.inl hc)
      · exact Text.mem_of_cut hcut (Or.inr (Text.mem_of_cut hcut' hc))

theorem Mapping.constraints_ne_nil (m : Mapping) (vs : List String) : m.constraints vs ≠ [] := by
  cases m <;> simp [Mapping.constraints]

/-- Every constraint of chosen values has a value when some value was chosen. -/
theorem Mapping.values_ne_nil {m : Mapping} {vs : List String} (hvs : vs ≠ []) {c : Constraint}
    (hc : c ∈ m.constraints vs) : c.values ≠ [] := by
  cases m with
  | field f =>
    rw [Mapping.constraints, List.mem_singleton] at hc
    subst hc
    exact hvs
  | resource k n m =>
    simp only [Mapping.constraints, List.mem_cons, List.mem_nil_iff, or_false] at hc
    rcases hc with rfl | rfl | rfl <;> simpa using hvs

/-- A character of a constrained value is a character of one of the chosen values. -/
theorem Mapping.mem_of_mem_values {m : Mapping} {vs : List String} {c : Constraint}
    (hc : c ∈ m.constraints vs) {v : String} (hv : v ∈ c.values) {ch : Char} (hch : ch ∈ v.toList) :
    ∃ t ∈ vs, ch ∈ t.toList := by
  cases m with
  | field f =>
    rw [Mapping.constraints, List.mem_singleton] at hc
    subst hc
    exact ⟨v, hv, hch⟩
  | resource k n m =>
    simp only [Mapping.constraints, List.mem_cons, List.mem_nil_iff, or_false] at hc
    rcases hc with rfl | rfl | rfl <;> simp only [List.map_map, List.mem_map, Function.comp] at hv <;>
      obtain ⟨t, ht, rfl⟩ := hv
    · exact ⟨t, ht, ResourcePath.mem_of_ofText (Or.inl hch)⟩
    · exact ⟨t, ht, ResourcePath.mem_of_ofText (Or.inr (Or.inl hch))⟩
    · exact ⟨t, ht, ResourcePath.mem_of_ofText (Or.inr (Or.inr hch))⟩

/-! ### Written groups with no blank -/

namespace Fragment

/-- A written group has no blank when its keys are keys and its values have none. -/
theorem not_blank_of_mem_render {gr : Group} (hk : ∀ e ∈ gr.entries, isKey e.1 = true)
    (hv : ∀ e ∈ gr.entries, ∀ v ∈ e.2, ∀ ch ∈ v.toList, Text.isBlank ch = false) :
    ∀ ch ∈ gr.render.toList, Text.isBlank ch = false := by
  intro ch hch
  rw [Group.render] at hch
  rcases Text.mem_joinWith (show "&".toList = ['&'] from rfl) hch with rfl | ⟨t, ht, hct⟩
  · decide
  obtain ⟨e, he, rfl⟩ := List.mem_map.mp ht
  rw [Group.renderEntry, String.toList_append, String.toList_append, List.mem_append,
    List.mem_append] at hct
  rcases hct with (hct | hct) | hct
  · rcases mem_key (hk e he) hct with hf | rfl
    · exact isBlank_of_isFieldChar hf
    · decide
  · rw [show "=".toList = ['='] from rfl, List.mem_singleton] at hct
    subst hct
    decide
  · rcases Text.mem_joinWith (show ",".toList = [','] from rfl) hct with rfl | ⟨v, hv', hcv⟩
    · decide
    · exact hv e he v hv' ch hcv

theorem not_blank_of_mem_renderGroups {gs : List Group}
    (h : ∀ gr ∈ gs, ∀ ch ∈ gr.render.toList, Text.isBlank ch = false) :
    ∀ ch ∈ (renderGroups gs).toList, Text.isBlank ch = false := by
  intro ch hch
  rw [renderGroups] at hch
  rcases Text.mem_joinWith (show "|".toList = ['|'] from rfl) hch with rfl | ⟨t, ht, hct⟩
  · decide
  · obtain ⟨gr, hgr, rfl⟩ := List.mem_map.mp ht
    exact h gr hgr ch hct

/-- Groups read back when each does and no blank is written anywhere. -/
theorem readable_of_forall {gs : List Group}
    (h : ∀ gr ∈ gs, groupReadable gr = true ∧ ∀ ch ∈ gr.render.toList, Text.isBlank ch = false) :
    readable gs = true := by
  have hblank := not_blank_of_mem_renderGroups fun gr hgr => (h gr hgr).2
  have hlast : ((renderGroups gs).toList.getLast?.any Text.isBlank) = false := by
    cases hl : (renderGroups gs).toList.getLast? with
    | none => rfl
    | some ch => exact hblank ch (List.mem_of_getLast? hl)
  rw [readable, List.all_eq_true.mpr fun gr hgr => (h gr hgr).1, hlast]
  rfl

end Fragment

/-! ### The groups the compiler builds -/

/-- The entries of a side's group: each key a constraint of that side is filed under, with
everything filed under it. -/
theorem mem_entries_sideGroup {F : List Filter} {s : Side} {e : String × List String} :
    e ∈ (sideGroup F s).entries ↔
      (∃ f ∈ F, ∃ c ∈ f.constraintsAt s, Group.fieldKey c.field f.negated = e.1) ∧
        e.2 = Group.valuesAt (F.flatMap (·.entriesAt s)) e.1 := by
  rw [sideGroup, Group.mem_entries_addAll, List.mem_map]
  constructor
  · rintro ⟨⟨p, hp, hpk⟩, hv⟩
    obtain ⟨f, hf, c, hc, rfl⟩ := (mem_flatMap_entriesAt F s).mp hp
    exact ⟨⟨f, hf, c, hc, hpk⟩, hv⟩
  · rintro ⟨⟨f, hf, c, hc, hk⟩, hv⟩
    exact ⟨⟨_, (mem_flatMap_entriesAt F s).mpr ⟨f, hf, c, hc, rfl⟩, hk⟩, hv⟩

section Written
variable {g : Glossary} {limit : Int} {F : List Filter}

/-- Every character filed under a key of a side's group is a character of a chosen text. -/
theorem mem_chosen_of_mem_valuesAt {s : Side} {k v : String}
    (hv : v ∈ Group.valuesAt (F.flatMap (·.entriesAt s)) k) {ch : Char} (hch : ch ∈ v.toList) :
    ∃ f ∈ F, ∃ t ∈ f.values, ch ∈ t.text.toList := by
  obtain ⟨p, hp, -, hvp⟩ := Group.mem_valuesAt.mp hv
  obtain ⟨f, hf, c, hc, rfl⟩ := (mem_flatMap_entriesAt F s).mp hp
  obtain ⟨t, ht, hct⟩ := Mapping.mem_of_mem_values hc hvp hch
  obtain ⟨t', ht', rfl⟩ := List.mem_map.mp ht
  exact ⟨f, hf, t', ht', hct⟩

/-- Every character filed in a side's group is a value character and no blank, when the chosen
texts are plain. -/
theorem sideGroup_chars (hplain : ∀ f ∈ F, ∀ v ∈ f.values, Fragment.isPlainText v.text = true)
    (s : Side) : ∀ e ∈ (sideGroup F s).entries, ∀ v ∈ e.2, ∀ ch ∈ v.toList,
      Fragment.isValueChar ch = true ∧ Text.isBlank ch = false := by
  intro e he v hv ch hch
  rw [(mem_entries_sideGroup.mp he).2] at hv
  obtain ⟨f, hf, t, ht, hct⟩ := mem_chosen_of_mem_valuesAt hv hch
  exact Fragment.isPlainText_iff.mp (hplain f hf t ht) ch hct

/-- The keys of a side's group are keys the reader files: catalog fields are field names. -/
theorem sideGroup_keys (hF : ∀ f ∈ F, f.definition ∈ (Catalog.standard g limit).definitions)
    (s : Side) : ∀ e ∈ (sideGroup F s).entries, Fragment.isKey e.1 = true := by
  have hfields : ∀ x ∈ Catalog.backendFields,
      x.toList ≠ [] ∧ ∀ ch ∈ x.toList, Fragment.isFieldChar ch = true := by
    -- checked as one boolean: the propositional form unfolds far deeper under decide
    have h : Catalog.backendFields.all
        (fun x => !x.toList.isEmpty && x.toList.all Fragment.isFieldChar) = true := by
      decide
    simpa only [List.all_eq_true, Bool.and_eq_true, Bool.not_eq_true', List.isEmpty_eq_false_iff]
      using h
  intro e he
  obtain ⟨⟨f, hf, c, hc, hk⟩, -⟩ := mem_entries_sideGroup.mp he
  have hfield := hfields _ (Filter.field_mem_backendFields (hF f hf) s c hc)
  rw [← hk]
  exact Fragment.isKey_fieldKey hfield.1 hfield.2 _

/-- Every key of a side's group holds a value when every filter has one: the constraint that
filed the key put its values under it. -/
theorem sideGroup_values_ne_nil (hvals : ∀ f ∈ F, f.values ≠ []) (s : Side) :
    ∀ e ∈ (sideGroup F s).entries, e.2 ≠ [] := by
  intro e he
  obtain ⟨⟨f, hf, c, hc, hk⟩, hv⟩ := mem_entries_sideGroup.mp he
  have hcvals := Mapping.values_ne_nil (by simpa [Filter.texts] using hvals f hf) hc
  obtain ⟨v, hv'⟩ := List.exists_mem_of_ne_nil _ hcvals
  rw [hv]
  exact List.ne_nil_of_mem (Group.mem_valuesAt.mpr
    ⟨_, (mem_flatMap_entriesAt F s).mpr ⟨f, hf, c, hc, rfl⟩, hk, hv'⟩)

/-- A side's group of some filters has a key: every mapping puts a constraint on that side. -/
theorem sideGroup_entries_ne_nil (hne : F ≠ []) (s : Side) : (sideGroup F s).entries ≠ [] := by
  obtain ⟨f, hf⟩ := List.exists_mem_of_ne_nil F hne
  obtain ⟨c, hc⟩ := List.exists_mem_of_ne_nil _ (Mapping.constraints_ne_nil _ (f.texts))
  have hfirst : (Group.fieldKey c.field f.negated, Group.valuesAt (F.flatMap (·.entriesAt s))
      (Group.fieldKey c.field f.negated)) ∈ (sideGroup F s).entries :=
    mem_entries_sideGroup.mpr ⟨⟨f, hf, c, hc, rfl⟩, rfl⟩
  exact List.ne_nil_of_mem hfirst

/-- The group of a side is readable and written with no blank, when the filters are catalog
filters with at least one value each, all of them plain texts. -/
theorem sideGroup_written (hF : ∀ f ∈ F, f.definition ∈ (Catalog.standard g limit).definitions)
    (hvals : ∀ f ∈ F, f.values ≠ [])
    (hplain : ∀ f ∈ F, ∀ v ∈ f.values, Fragment.isPlainText v.text = true)
    (hne : F ≠ []) (s : Side) :
    Fragment.groupReadable (sideGroup F s) = true ∧
      ∀ ch ∈ (sideGroup F s).render.toList, Text.isBlank ch = false := by
  have hchars := sideGroup_chars hplain s
  have hkeys := sideGroup_keys hF s
  refine ⟨?_, Fragment.not_blank_of_mem_render hkeys fun e he v hv ch hch =>
    (hchars e he v hv ch hch).2⟩
  simp only [Fragment.groupReadable, Fragment.entryReadable, Bool.and_eq_true, Bool.not_eq_true',
    List.isEmpty_eq_false_iff, decide_eq_true_eq, List.all_eq_true]
  exact ⟨⟨sideGroup_entries_ne_nil hne s, (sideGroup F s).keys_nodup⟩,
    fun e he => ⟨⟨hkeys e he, sideGroup_values_ne_nil hvals s e he⟩,
      fun v hv => List.all_eq_true.mpr fun ch hch => (hchars e he v hv ch hch).1⟩⟩

end Written

theorem mem_groupsAll {G : List Filter} {gr : Group} (h : gr ∈ groupsAll G) :
    ∃ s, gr = sideGroup G s := by
  rw [groupsAll_eq] at h
  split at h
  · rcases List.mem_pair.mp h with rfl | rfl
    · exact ⟨.source, rfl⟩
    · exact ⟨.destination, rfl⟩
  · exact ⟨.source, List.mem_singleton.mp h⟩

/-- Every group the compiler builds, in either mode, is the group of one side of some of the
filters: all of them, or one. -/
theorem mem_groupsFor {m : Match} {F : List Filter} (hne : F ≠ []) {gr : Group}
    (h : gr ∈ groupsFor m F) : ∃ G : List Filter, G ≠ [] ∧ (∀ f ∈ G, f ∈ F) ∧ ∃ s, gr = sideGroup G s := by
  cases m with
  | all => exact ⟨F, hne, fun _ hf => hf, mem_groupsAll h⟩
  | any =>
    obtain ⟨f, hf, hgr⟩ := List.mem_flatMap.mp h
    rw [filterGroups_eq_groupsAll] at hgr
    refine ⟨[f], List.cons_ne_nil _ _, fun f' hf' => ?_, mem_groupsAll hgr⟩
    rw [List.mem_singleton.mp hf']
    exact hf

/-- **Compiled fragments read back.** Over catalog filters that each have a value, none of them
holding a separator, `!` or a blank, the fragment compiled in either mode reads back as exactly
the groups it was compiled from. -/
theorem read_compileFilters {g : Glossary} {limit : Int} {F : List Filter}
    (hF : ∀ f ∈ F, f.definition ∈ (Catalog.standard g limit).definitions) (hne : F ≠ [])
    (hvals : ∀ f ∈ F, f.values ≠ [])
    (hplain : ∀ f ∈ F, ∀ v ∈ f.values, Fragment.isPlainText v.text = true) (m : Match) :
    Fragment.read (compileFilters F m) = .ok (groupsFor m F) := by
  rw [compileFilters]
  apply Fragment.read_encodeGroups
  apply Fragment.readable_of_forall
  intro gr hgr
  obtain ⟨G, hG, hGF, s, rfl⟩ := mem_groupsFor hne hgr
  exact sideGroup_written (fun f hf => hF f (hGF f hf)) (fun f hf => hvals f (hGF f hf))
    (fun f hf => hplain f (hGF f hf)) hG s

/-- Two source ports and a negated resource, compiled for any of them to suffice. -/
theorem read_compileFilters_ports :
    let F : List Filter :=
      [⟨(Catalog.standard Glossary.plain defaultLimit).definitions[15],
          [⟨"80", none⟩, ⟨"443", none⟩], false⟩,
        ⟨(Catalog.standard Glossary.plain defaultLimit).definitions[11],
          [⟨"Pod.ns.web", none⟩], true⟩]
    ((∀ f ∈ F, f.definition ∈ (Catalog.standard Glossary.plain defaultLimit).definitions) ∧
      F ≠ [] ∧ (∀ f ∈ F, f.values ≠ []) ∧
      ∀ f ∈ F, ∀ v ∈ f.values, Fragment.isPlainText v.text = true) ∧
      Fragment.read (compileFilters F .any) = .ok (groupsFor .any F) := by
  dsimp only
  refine ⟨⟨?_, by decide, by decide, by decide⟩,
    @read_compileFilters Glossary.plain defaultLimit _ ?_ (by decide) (by decide) (by decide) .any⟩ <;>
  -- the definitions are found by position: comparing them in full is more than decide unfolds
  · intro f hf
    rcases List.mem_pair.mp hf with rfl | rfl <;> exact List.getElem_mem _

end FlowSelect
