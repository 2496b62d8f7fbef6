import FlowSelect.Filter.Link
import FlowSelect.Catalog.Standard
import FlowSelect.Proofs.TextRoundTrip
/-! Filters written into a page link and read back.

A link writes each filter as its id, `!` when negated, `=`, and the texts of its values joined by
`,`, with the filters joined by `;`, and nothing escaped but the percent-encoding of the whole.
Catalog ids are lower-case words with `_`, so a key reads back as the id and negation it was
written from, and the catalog finds the definition again since its ids are distinct. The values
read back as written when every filter has one and none holds `,`, `;` or `=`. Restoring a value
keeps its text and only seeks a label, which fails only for a port numeral of more digits than
are read. So a link of catalog filters whose values are all such texts restores the same
definitions, negations and texts, in order (`filtersOfLink_linkText`). A kind such as `a,b`
passes its rule and is restored as two values. -/
namespace FlowSelect

/-- Whether a chosen text is written into a link as it is and restored without a fault: it holds
none of `, ; =`, and is no numeral of more digits than are read. -/
def isLinkText (v : String) : Bool :=
  v.toList.all (fun c => c != ',' && c != ';' && c != '=') &&
    !(Text.Numeral.isDigits v && decide (digitLimit < v.length))

/-- What a link text is, character by character and as a number. -/
theorem isLinkText_spec {t : String} (h : isLinkText t = true) :
    (',' ∉ t.toList ∧ ';' ∉ t.toList ∧ '=' ∉ t.toList) ∧
      ¬ (Text.Numeral.isDigits t = true ∧ digitLimit < t.length) := by
  simp only [isLinkText, Bool.and_eq_true, List.all_eq_true, bne_iff_ne, ne_eq,
    Bool.not_eq_true', Bool.and_eq_false_iff, decide_eq_false_iff_not] at h
  refine ⟨⟨fun hc => (h.1 ',' hc).1.1 rfl, fun hc => (h.1 ';' hc).1.2 rfl,
    fun hc => (h.1 '=' hc).2 rfl⟩, ?_⟩
  rintro ⟨hd, hl⟩
  rcases h.2 with h2 | h2
  · exact absurd hd (by simp [h2])
  · exact h2 hl

/-! ### Catalog ids -/

namespace Catalog

theorem ids_standard (g : Glossary) (limit : Int) : (standard g limit).ids = standardIds :=
  ids_standardDefinitions g limit

/-- A catalog finds each of its definitions by its id, its ids being distinct. -/
theorem find?_of_mem {c : Catalog} {d : Definition} (hd : d ∈ c.definitions) :
    c.find? d.id = some d := by
  obtain ⟨ds, hn⟩ := c
  simp only [find?] at hd ⊢
  induction ds with
  | nil => exact nomatch hd
  | cons e ds ih =>
    rw [List.map_cons, List.nodup_cons] at hn
    rw [List.find?_cons]
    rcases List.mem_cons.mp hd with rfl | hd
    · simp
    · have hne : e.id ≠ d.id := fun h => hn.1 (h ▸ List.mem_map_of_mem hd)
      rw [beq_false_of_ne hne, ih hn.2 hd]

/-- Every character of a catalog id is a lower-case letter or `_`. -/
theorem id_char {g : Glossary} {limit : Int} {d : Definition}
    (hd : d ∈ (standard g limit).definitions) {c : Char} (hc : c ∈ d.id.toList) :
    c.isLower = true ∨ c = '_' := by
  -- checked as one boolean: the propositional form unfolds far deeper under decide
  have hall : ∀ x ∈ standardIds, ∀ c ∈ x.toList, c.isLower = true ∨ c = '_' := by
    have h : standardIds.all (fun x => x.toList.all fun c => c.isLower || c == '_') = true := by
      decide
    simpa only [List.all_eq_true, Bool.or_eq_true, beq_iff_eq] using h
  refine hall d.id ?_ c hc
  rw [← ids_standard g limit]
  exact List.mem_map_of_mem hd

end Catalog

/-- A character of a catalog id is none of the characters a link gives a meaning. -/
theorem ne_of_id_char {c : Char} (hc : c.isLower = true ∨ c = '_') :
    c ≠ '!' ∧ c ≠ '=' ∧ c ≠ ',' ∧ c ≠ ';' := by
  rcases hc with hc | rfl
  · refine ⟨?_, ?_, ?_, ?_⟩ <;> (rintro rfl; exact absurd hc (by decide))
  · decide

/-! ### Reading entries back -/

/-- A key written from an id with no `!` at either end reads back as that id and negation. -/
theorem readLinkKey_id {id : String} (hid : ∀ c ∈ id.toList, c ≠ '!') (negated : Bool) :
    readLinkKey (id ++ if negated then "!" else "") = (id, negated) := by
  cases negated
  · simp only [Bool.false_eq_true, if_false, String.append_empty, readLinkKey]
    -- neither end of the id is a `!`
    have hrev : ∀ rest, id.toList.reverse ≠ '!' :: rest := fun rest h =>
      hid '!' (List.mem_reverse.mp (h ▸ List.mem_cons_self)) rfl
    have hfwd : ∀ rest, id.toList ≠ '!' :: rest := fun rest h =>
      hid '!' (h ▸ List.mem_cons_self) rfl
    split
    · next _ rest h => exact absurd h (hrev rest)
    · split
      · next _ rest h => exact absurd h (hfwd rest)
      · rfl
  · have hlist : (id ++ "!").toList.reverse = '!' :: id.toList.reverse := by
      rw [String.toList_append, show "!".toList = ['!'] from rfl, List.reverse_append]
      rfl
    simp only [if_true, readLinkKey, hlist, List.reverse_reverse, String.ofList_toList]

/-- An entry is its key and its joined values, joined by `=`. -/
theorem Filter.linkEntry_eq_joinWith (f : Filter) :
    f.linkEntry =
      Text.joinWith "=" [f.id ++ (if f.negated then "!" else ""), Text.joinWith "," f.texts] :=
  rfl

section Entries
variable {g : Glossary} {limit : Int}

/-- A filter a link writes so that it reads back: a catalog filter with a value, whose texts
hold no `,`, `;` or `=`. -/
structure Linkable (g : Glossary) (limit : Int) (f : Filter) : Prop where
  catalog : f.definition ∈ (Catalog.standard g limit).definitions
  valued : f.texts ≠ []
  plain : ∀ t ∈ f.texts, ',' ∉ t.toList ∧ ';' ∉ t.toList ∧ '=' ∉ t.toList

/-- Every character of an entry is one of its id, `!`, `=`, `,` or one of its texts. -/
theorem mem_linkEntry (f : Filter) {c : Char} (hc : c ∈ f.linkEntry.toList) :
    c ∈ f.id.toList ∨ c = '!' ∨ c = '=' ∨ c = ',' ∨ ∃ t ∈ f.texts, c ∈ t.toList := by
  rw [Filter.linkEntry_eq_joinWith] at hc
  rcases Text.mem_joinWith (show "=".toList = ['='] from rfl) hc with h | ⟨x, hx, hcx⟩
  · exact Or.inr (Or.inr (Or.inl h))
  simp only [List.mem_cons, List.mem_nil_iff, or_false] at hx
  rcases hx with rfl | rfl
  · rw [String.toList_append, List.mem_append] at hcx
    rcases hcx with h | h
    · exact Or.inl h
    · split at h
      · exact Or.inr (Or.inl (List.mem_singleton.mp h))
      · simp at h
  · rcases Text.mem_joinWith (show ",".toList = [','] from rfl) hcx with h | h
    · exact Or.inr (Or.inr (Or.inr (Or.inl h)))
    · exact Or.inr (Or.inr (Or.inr (Or.inr h)))

theorem Linkable.no_semicolon {f : Filter} (h : Linkable g limit f) : ';' ∉ f.linkEntry.toList := by
  intro hc
  rcases mem_linkEntry f hc with hid | h' | h' | h' | ⟨t, ht, hct⟩
  · exact (ne_of_id_char (Catalog.id_char h.catalog hid)).2.2.2 rfl
  · exact absurd h' (by decide)
  · exact absurd h' (by decide)
  · exact absurd h' (by decide)
  · exact (h.plain t ht).2.1 hct

/-- An entry written from a linkable filter reads back as its definition, negation and texts. -/
theorem Linkable.readLinkEntry {f : Filter} (h : Linkable g limit f) :
    readLinkEntry (Catalog.standard g limit) f.linkEntry = some (f.definition, f.negated, f.texts) := by
  have hid : ∀ c ∈ f.id.toList, c ≠ '!' ∧ c ≠ '=' ∧ c ≠ ',' ∧ c ≠ ';' :=
    fun c hc => ne_of_id_char (Catalog.id_char h.catalog hc)
  -- neither side of the `=` holds one
  have hkey : '=' ∉ (f.id ++ if f.negated then "!" else "").toList := by
    rw [String.toList_append, List.mem_append]
    rintro (h | h)
    · exact (hid '=' h).2.1 rfl
    · split at h
      · exact absurd h (by decide)
      · exact absurd h (by decide)
  have hvalues : '=' ∉ (Text.joinWith "," f.texts).toList := by
    intro h'
    rcases Text.mem_joinWith (show ",".toList = [','] from rfl) h' with h' | ⟨t, ht, hc⟩
    · exact absurd h' (by decide)
    · exact (h.plain t ht).2.2 hc
  have hpieces := @Text.pieces_joinWith "=" '=' rfl
    [f.id ++ (if f.negated then "!" else ""), Text.joinWith "," f.texts] (List.cons_ne_nil _ _)
    (fun x hx => by
      simp only [List.mem_cons, List.mem_nil_iff, or_false] at hx
      rcases hx with rfl | rfl <;> assumption)
  rw [FlowSelect.readLinkEntry, Filter.linkEntry_eq_joinWith, hpieces]
  simp only
  rw [readLinkKey_id (fun c hc => (hid c hc).1), Filter.id, Catalog.find?_of_mem h.catalog,
    Text.pieces_joinWith (show ",".toList = [','] from rfl) h.valued fun t ht => (h.plain t ht).1]
  rfl

theorem filterMap_readLinkEntry {F : List Filter} (hF : ∀ f ∈ F, Linkable g limit f) :
    (F.map Filter.linkEntry).filterMap (readLinkEntry (Catalog.standard g limit)) =
      F.map fun f => (f.definition, f.negated, f.texts) := by
  induction F with
  | nil => rfl
  | cons f F ih =>
    simp only [List.map_cons, List.filterMap_cons, (hF f List.mem_cons_self).readLinkEntry,
      ih fun f' hf' => hF f' (List.mem_cons_of_mem _ hf')]

/-- A link that starts with a catalog filter is not empty: its text starts with that filter's
id, and decoding gives the text back. -/
theorem linkText_isEmpty_cons {f : Filter}
    (hf : f.definition ∈ (Catalog.standard g limit).definitions) (F : List Filter) :
    (linkText (f :: F)).isEmpty = false := by
  have hid : f.id.toList ≠ [] := by
    have hall : ∀ x ∈ Catalog.standardIds, x.toList ≠ [] := by decide
    refine hall _ ?_
    rw [← Catalog.ids_standard g limit]
    exact List.mem_map_of_mem hf
  have hentry : f.linkEntry.toList ≠ [] := by
    rw [Filter.linkEntry, String.toList_append, String.toList_append, String.toList_append]
    simp [hid]
  have hnil : (Text.Percent.decode "").toList = [] := by
    rw [Text.Percent.decode_eq_decodeRuns]
    rfl
  rw [Bool.eq_false_iff]
  intro hempty
  -- an empty link would decode to the empty text, but it decodes to the entries written
  have hdec := Text.Percent.decode_encode (Text.joinWith ";" ((f :: F).map Filter.linkEntry))
  rw [← linkText, String.isEmpty_iff.mp hempty, List.map_cons] at hdec
  obtain ⟨rest, hrest⟩ := Text.toList_joinWith_cons ";" f.linkEntry (F.map Filter.linkEntry)
  rw [← hdec, hnil] at hrest
  exact hentry (List.eq_nil_of_append_eq_nil hrest.symm).1

/-- A link of linkable filters reads back as their definitions, negations and texts, in order. -/
theorem readLinkEntries_linkText {F : List Filter} (hF : ∀ f ∈ F, Linkable g limit f) :
    readLinkEntries (Catalog.standard g limit) (linkText F) =
      F.map fun f => (f.definition, f.negated, f.texts) := by
  cases F with
  | nil => rfl
  | cons f F =>
    have hne := linkText_isEmpty_cons (hF f List.mem_cons_self).catalog F
    rw [readLinkEntries, hne, if_neg Bool.false_ne_true, linkText, Text.Percent.decode_encode,
      Text.pieces_joinWith (show ";".toList = [';'] from rfl) (by simp)
        (fun x hx => by
          obtain ⟨f', hf', rfl⟩ := List.mem_map.mp hx
          exact (hF f' hf').no_semicolon),
      filterMap_readLinkEntry hF]

end Entries

/-! ### Restoring values -/

/-- A lookup offers its suggestions without a fault, unless the text is a numeral of more digits
than are read. -/
theorem Lookup.run_ok (l : Lookup) (s : Store) {t : String}
    (ht : ¬ (Text.Numeral.isDigits t = true ∧ digitLimit < t.length)) : ∃ os, l.run s t = .ok os := by
  cases l
  case ports =>
    show ∃ os, Service.suggest t = .ok os
    unfold Service.suggest
    split
    · next hd =>
      rw [if_neg fun hl => ht ⟨hd, hl⟩]
      split <;> exact ⟨_, rfl⟩
    · split <;> exact ⟨_, rfl⟩
  all_goals exact ⟨_, rfl⟩

/-- A stored text is restored as itself, labelled or not. -/
theorem Definition.resolveValue_ok (d : Definition) (s : Store) {t : String}
    (ht : ¬ (Text.Numeral.isDigits t = true ∧ digitLimit < t.length)) :
    ∃ v, d.resolveValue s t = .ok v ∧ v.text = t := by
  obtain ⟨os, hos⟩ := d.lookup.run_ok s ht
  rw [Definition.resolveValue, Definition.answer?, Definition.suggest, hos]
  exact ⟨_, rfl, rfl⟩

theorem Except.map_eq_ok {α β ε : Type} {f : α → β} {x : Except ε α} {b : β}
    (h : x.map f = .ok b) : ∃ a, x = .ok a ∧ f a = b := by
  cases x with
  | error e => exact nomatch h
  | ok a => exact ⟨a, rfl, Except.ok.inj h⟩

/-- A step that succeeds after another: the first succeeded, and the second succeeded on its
result. -/
theorem Except.bind_eq_ok {α β ε : Type} {x : Except ε α} {f : α → Except ε β} {b : β}
    (h : x >>= f = .ok b) : ∃ a, x = .ok a ∧ f a = .ok b := by
  cases x with
  | error e => exact nomatch h
  | ok a => exact ⟨a, rfl, h⟩

/-- A run over a list gives each element back, once mapped, when each step does. -/
theorem mapM_map_eq_ok {α β ε : Type} {g : α → Except ε β} {k : β → α} {xs : List α}
    (h : ∀ x ∈ xs, ∃ y, g x = .ok y ∧ k y = x) : (xs.mapM g).map (List.map k) = .ok xs := by
  induction xs with
  | nil => rfl
  | cons x xs ih =>
    obtain ⟨y, hy, hky⟩ := h x List.mem_cons_self
    obtain ⟨ys, hys, hkys⟩ := Except.map_eq_ok (ih fun x' hx' => h x' (List.mem_cons_of_mem _ hx'))
    rw [List.mapM_cons, hy, hys]
    show Except.ok (k y :: ys.map k) = _
    rw [hky, hkys]

/-- **Links round trip.** Catalog filters, each with a value, whose texts hold none of `, ; =`
and are no numeral of more digits than are read, are restored from their link with the same
definitions, negations and texts, in order; only the labels are sought again. -/
theorem filtersOfLink_linkText {g : Glossary} {limit : Int} (s : Store) {F : List Filter}
    (hF : ∀ f ∈ F, f.definition ∈ (Catalog.standard g limit).definitions)
    (hvals : ∀ f ∈ F, f.values ≠ [])
    (htexts : ∀ f ∈ F, ∀ v ∈ f.values, isLinkText v.text = true) :
    (filtersOfLink (Catalog.standard g limit) s (linkText F)).map
        (List.map fun f => (f.definition, f.negated, f.texts)) =
      .ok (F.map fun f => (f.definition, f.negated, f.texts)) := by
  have hlink : ∀ f ∈ F, ∀ t ∈ f.texts, (',' ∉ t.toList ∧ ';' ∉ t.toList ∧ '=' ∉ t.toList) ∧
      ¬ (Text.Numeral.isDigits t = true ∧ digitLimit < t.length) := by
    intro f hf t ht
    obtain ⟨v, hv, rfl⟩ := List.mem_map.mp ht
    exact isLinkText_spec (htexts f hf v hv)
  have hlinkable : ∀ f ∈ F, Linkable g limit f := fun f hf =>
    ⟨hF f hf, by simpa [Filter.texts] using hvals f hf, fun t ht => (hlink f hf t ht).1⟩
  rw [filtersOfLink, readLinkEntries_linkText hlinkable]
  apply mapM_map_eq_ok
  intro e he
  obtain ⟨f, hf, rfl⟩ := List.mem_map.mp he
  -- every text of the filter is restored as itself
  obtain ⟨vs, hvs, hvt⟩ := Except.map_eq_ok (@mapM_map_eq_ok _ _ _ (f.definition.resolveValue s)
    Value.text f.texts fun t ht => f.definition.resolveValue_ok s (hlink f hf t ht).2)
  refine ⟨⟨f.definition, vs, f.negated⟩, ?_, ?_⟩
  · dsimp only
    rw [hvs]
    rfl
  · simp only [Filter.texts, hvt]

/-- Two source ports and a negated kind, restored with an empty store. -/
theorem filtersOfLink_linkText_ports :
    let F : List Filter :=
      [⟨(Catalog.standard Glossary.plain defaultLimit).definitions[15],
          [⟨"80", none⟩, ⟨"443", none⟩], false⟩,
        ⟨(Catalog.standard Glossary.plain defaultLimit).definitions[8], [⟨"Pod", none⟩], true⟩]
    ((∀ f ∈ F, f.definition ∈ (Catalog.standard Glossary.plain defaultLimit).definitions) ∧
      (∀ f ∈ F, f.values ≠ []) ∧ ∀ f ∈ F, ∀ v ∈ f.values, isLinkText v.text = true) ∧
      (filtersOfLink (Catalog.standard Glossary.plain defaultLimit) Store.empty (linkText F)).map
          (List.map fun f => (f.definition, f.negated, f.texts)) =
        .ok (F.map fun f => (f.definition, f.negated, f.texts)) := by
  dsimp only
  refine ⟨⟨?_, by decide, by decide⟩,
    filtersOfLink_linkText Store.empty ?_ (by decide) (by decide)⟩ <;>
  -- the definitions are found by position: comparing them in full is more than decide unfolds
  · intro f hf
    simp only [List.mem_cons, List.mem_nil_iff, or_false] at hf
    rcases hf with rfl | rfl <;> exact List.getElem_mem _

end FlowSelect
