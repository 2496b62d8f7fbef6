import FlowSelect.Proofs.LoadRoundTrip
/-! Where looking up suggestions can fail, and what that does to links and loads.

Every lookup but one offers its suggestions without fail. The port registry reads a typed
numeral as a number, and a numeral of more than `digitLimit` digits is refused with
`Fault.tooManyDigits` (`Lookup.run_eq_error`). A definition whose suggestions come from the port
registry therefore fails on such a numeral (`Definition.Overflows`) and on nothing else: when its
suggestions are sought, when a value is made from a typed text and when a stored text is
restored (`Definition.suggest_eq_error`, `createValue_eq_error`, `resolveValue_eq_error`).

A link is restored by restoring every value of every entry the catalog reads, so it fails
exactly when one of those values overflows (`filtersOfLink_ok_iff`). A load restores the link,
then makes values from the texts its rules accept; in the flow catalog the port rule keeps a
numeral as typed, so a load fails exactly when the link does (`loadFilters_ok_iff`). Every
fault of these is `tooManyDigits` of more than `digitLimit` digits
(`lookups_fail_only_on_long_port_numerals`). -/
namespace FlowSelect

/-! ### Failing steps -/

section Steps
variable {α β ε : Type}

theorem Except.map_eq_error {f : α → β} {x : Except ε α} {e : ε} :
    x.map f = .error e ↔ x = .error e := by
  cases x <;> simp [Except.map]

/-- A computation succeeds exactly when it fails with no fault. -/
theorem Except.exists_ok_iff {x : Except ε α} : (∃ a, x = .ok a) ↔ ∀ e, x ≠ .error e := by
  cases x <;> simp

/-- A step that fails after another: the first failed, or it succeeded and the second failed
on its result. -/
theorem Except.bind_eq_error {x : Except ε α} {f : α → Except ε β} {e : ε}
    (h : x >>= f = .error e) : x = .error e ∨ ∃ a, x = .ok a ∧ f a = .error e := by
  cases x with
  | error e' =>
    change (Except.error e' : Except ε β) = Except.error e at h
    cases h
    exact .inl rfl
  | ok a => exact .inr ⟨a, rfl, h⟩

/-- A run over a list succeeds exactly when each step succeeds. -/
theorem mapM_exists_ok_iff {g : α → Except ε β} {xs : List α} :
    (∃ ys, xs.mapM g = .ok ys) ↔ ∀ x ∈ xs, ∃ y, g x = .ok y := by
  induction xs with
  | nil => exact ⟨fun _ x hx => absurd hx List.not_mem_nil, fun _ => ⟨[], rfl⟩⟩
  | cons x xs ih =>
    rw [List.forall_mem_cons, ← ih]
    constructor
    · rintro ⟨ys, h⟩
      rw [List.mapM_cons] at h
      obtain ⟨y, hy, h⟩ := Except.bind_eq_ok h
      obtain ⟨ys', hys', -⟩ := Except.bind_eq_ok h
      exact ⟨⟨y, hy⟩, ys', hys'⟩
    · rintro ⟨⟨y, hy⟩, ys, hys⟩
      exact ⟨y :: ys, by rw [List.mapM_cons, hy, hys]; rfl⟩

/-- A run over a list fails with the fault of one of its steps. -/
theorem mapM_eq_error {g : α → Except ε β} {xs : List α} {e : ε} (h : xs.mapM g = .error e) :
    ∃ x ∈ xs, g x = .error e := by
  induction xs with
  | nil => exact nomatch h
  | cons x xs ih =>
    rw [List.mapM_cons] at h
    rcases Except.bind_eq_error h with hx | ⟨y, -, h⟩
    · exact ⟨x, List.mem_cons_self, hx⟩
    · rcases Except.bind_eq_error h with hxs | ⟨ys, -, h⟩
      · obtain ⟨x', hx', he⟩ := ih hxs
        exact ⟨x', List.mem_cons_of_mem _ hx', he⟩
      · exact nomatch h

end Steps

/-! ### Lookups -/

/-- A text the suggestions of a definition cannot be sought for: a numeral of more digits than
are read, typed for a definition whose suggestions come from the port registry. -/
def Definition.Overflows (d : Definition) (t : String) : Prop :=
  d.lookup = .ports ∧ Text.Numeral.isDigits t = true ∧ digitLimit < t.length

instance (d : Definition) (t : String) : Decidable (d.Overflows t) :=
  inferInstanceAs (Decidable (_ ∧ _ ∧ _))

/-- A lookup fails only in the port registry, on a numeral of more digits than are read, and
then names its count of digits. -/
theorem Lookup.run_eq_error {l : Lookup} {s : Store} {t : String} {f : Fault} :
    l.run s t = .error f ↔ l = .ports ∧ Text.Numeral.isDigits t = true ∧
      digitLimit < t.length ∧ f = .tooManyDigits t.length := by
  constructor
  · intro h
    cases l
    case ports =>
      change Service.suggest t = .error f at h
      unfold Service.suggest at h
      split at h
      · next hd =>
        split at h
        · next hl => exact ⟨rfl, hd, hl, (Except.error.inj h).symm⟩
        · split at h <;> exact nomatch h
      · split at h <;> exact nomatch h
    all_goals exact nomatch h
  · rintro ⟨rfl, hd, hl, rfl⟩
    change Service.suggest t = _
    rw [Service.suggest, if_pos hd, if_pos hl]

theorem Definition.suggest_eq_error {d : Definition} {s : Store} {t : String} {f : Fault} :
    d.suggest s t = .error f ↔ d.Overflows t ∧ f = .tooManyDigits t.length := by
  rw [Definition.suggest, Except.map_eq_error, Lookup.run_eq_error, Definition.Overflows]
  simp only [and_assoc]

theorem Definition.answer?_eq_error {d : Definition} {s : Store} {t : String} {f : Fault} :
    d.answer? s t = .error f ↔ d.Overflows t ∧ f = .tooManyDigits t.length := by
  rw [Definition.answer?, Except.map_eq_error, Definition.suggest_eq_error]

theorem Definition.createValue_eq_error {d : Definition} {s : Store} {t : String} {f : Fault} :
    d.createValue s t = .error f ↔ d.Overflows t ∧ f = .tooManyDigits t.length := by
  rw [Definition.createValue, Except.map_eq_error, Definition.answer?_eq_error]

theorem Definition.resolveValue_eq_error {d : Definition} {s : Store} {t : String} {f : Fault} :
    d.resolveValue s t = .error f ↔ d.Overflows t ∧ f = .tooManyDigits t.length := by
  rw [Definition.resolveValue, Except.map_eq_error, Definition.answer?_eq_error]

/-- A computation that fails exactly with the fault of an overflowing text succeeds exactly
when the text does not overflow. -/
theorem exists_ok_iff_not_overflows {α : Type} {x : Except Fault α} {d : Definition} {t : String}
    (h : ∀ f, x = .error f ↔ d.Overflows t ∧ f = .tooManyDigits t.length) :
    (∃ a, x = .ok a) ↔ ¬ d.Overflows t := by
  rw [Except.exists_ok_iff]
  constructor
  · intro hok hover
    exact hok _ ((h _).mpr ⟨hover, rfl⟩)
  · intro hover f hf
    exact hover ((h f).mp hf).1

/-- Restoring a value succeeds exactly when its text does not overflow. -/
theorem Definition.resolveValue_exists_ok_iff {d : Definition} {s : Store} {t : String} :
    (∃ v, d.resolveValue s t = .ok v) ↔ ¬ d.Overflows t :=
  exists_ok_iff_not_overflows fun _ => Definition.resolveValue_eq_error

/-! ### Links -/

/-- Whether some value of an entry the catalog reads from a link overflows for the entry's
definition. -/
def Catalog.LinkOverflows (c : Catalog) (t : String) : Prop :=
  ∃ e ∈ readLinkEntries c t, ∃ x ∈ e.2.2, e.1.Overflows x

/-- The filter of one link entry, with its values restored. -/
theorem restoreEntry_exists_ok_iff {s : Store} {e : Definition × Bool × List String} :
    (∃ f, (do
        let values ← e.2.2.mapM (e.1.resolveValue s)
        pure (⟨e.1, values, e.2.1⟩ : Filter)) = (Except.ok f : Except Fault Filter)) ↔
      ∀ x ∈ e.2.2, ¬ e.1.Overflows x := by
  constructor
  · rintro ⟨f, hf⟩ x hx
    obtain ⟨vs, hvs, -⟩ := Except.bind_eq_ok hf
    exact Definition.resolveValue_exists_ok_iff.mp (mapM_exists_ok_iff.mp ⟨vs, hvs⟩ x hx)
  · intro h
    obtain ⟨vs, hvs⟩ := mapM_exists_ok_iff.mpr fun x hx =>
      Definition.resolveValue_exists_ok_iff.mpr (h x hx)
    exact ⟨_, by rw [hvs]; rfl⟩

/-- A link is restored exactly when no value the catalog reads from it overflows. -/
theorem filtersOfLink_ok_iff {c : Catalog} {s : Store} {t : String} :
    (∃ fs, filtersOfLink c s t = .ok fs) ↔ ¬ c.LinkOverflows t := by
  rw [filtersOfLink, mapM_exists_ok_iff, Catalog.LinkOverflows]
  simp only [restoreEntry_exists_ok_iff, not_exists, not_and]

/-- Restoring a link fails only on an overflowing value. -/
theorem filtersOfLink_eq_error {c : Catalog} {s : Store} {t : String} {f : Fault}
    (h : filtersOfLink c s t = .error f) : ∃ x, Text.Numeral.isDigits x = true ∧
      digitLimit < x.length ∧ f = .tooManyDigits x.length := by
  obtain ⟨e, -, he⟩ := mapM_eq_error h
  rcases Except.bind_eq_error he with hvs | ⟨vs, -, hpure⟩
  · obtain ⟨x, -, hx⟩ := mapM_eq_error hvs
    obtain ⟨⟨-, hd, hl⟩, rfl⟩ := Definition.resolveValue_eq_error.mp hx
    exact ⟨x, hd, hl, rfl⟩
  · exact nomatch hpure

/-! ### Loads -/

/-- Every value of a restored link is restored from a text that does not overflow. -/
theorem not_overflows_of_filtersOfLink {c : Catalog} {s : Store} {t : String} {fs : List Filter}
    (h : filtersOfLink c s t = .ok fs) :
    ∀ f ∈ fs, f.definition ∈ c.definitions ∧ ∀ v ∈ f.values, ¬ f.definition.Overflows v.text := by
  intro f hf
  obtain ⟨e, he, hef⟩ := exists_of_forall₂_of_mem (mapM_eq_ok_iff.mp h) hf
  obtain ⟨vs, hvs, hef⟩ := Except.bind_eq_ok hef
  cases hef
  refine ⟨(of_mem_readLinkEntries he).1, fun v hv => ?_⟩
  -- the value was restored from a text, and restoring keeps the text
  obtain ⟨x, -, hx⟩ := exists_of_forall₂_of_mem (mapM_eq_ok_iff.mp hvs) hv
  obtain ⟨a, -, rfl⟩ := Except.map_eq_ok hx
  exact Definition.resolveValue_exists_ok_iff.mp ⟨_, hx⟩

/-- In the flow catalog a text a rule accepts overflows only when the typed text does: the port
rule keeps a numeral as typed. -/
theorem Definition.overflows_of_validate {g : Glossary} {limit : Int} {d : Definition}
    (hd : d ∈ (Catalog.standard g limit).definitions) {v w : String}
    (hw : d.validate v = .valid w) (hover : d.Overflows w) : d.Overflows v := by
  have hrule : d.rule = .port := (Catalog.rule_of_lookup hd).1 hover.1
  rcases Rule.check_cases hw with rfl | ⟨hr, -⟩ | ⟨hr, -⟩ | ⟨hr, -⟩
  · exact hover
  all_goals rw [hrule] at hr; exact nomatch hr

/-- Checking a value fails only when the text its rule keeps overflows. -/
theorem Definition.checkValue_eq_error {d : Definition} {s : Store} {v : Value} {f : Fault}
    (h : d.checkValue s v = .error f) :
    ∃ w, d.validate v.text = .valid w ∧ d.Overflows w ∧ f = .tooManyDigits w.length := by
  unfold Definition.checkValue at h
  split at h
  · exact nomatch h
  · next w hw =>
    rcases Except.bind_eq_error h with hu | ⟨u, -, hu⟩
    · exact ⟨w, hw, Definition.createValue_eq_error.mp hu⟩
    · exact nomatch hu

/-- Checking a value restored from a text that does not overflow does not fail. -/
theorem Definition.checkValue_exists_ok {g : Glossary} {limit : Int} {d : Definition}
    (hd : d ∈ (Catalog.standard g limit).definitions) (s : Store) {v : Value}
    (hv : ¬ d.Overflows v.text) : ∃ c, d.checkValue s v = .ok c := by
  refine Except.exists_ok_iff.mpr fun f hf => ?_
  obtain ⟨w, hw, hover, -⟩ := Definition.checkValue_eq_error hf
  exact hv (Definition.overflows_of_validate hd hw hover)

/-- Normalizing filters fails only where checking a value of one of them fails. -/
theorem normalizeFilters_eq_error {s : Store} {fs : List Filter} {f : Fault}
    (h : normalizeFilters s fs = .error f) :
    ∃ g ∈ fs, ∃ v ∈ g.values, g.definition.checkValue s v = .error f := by
  unfold normalizeFilters at h
  rcases Except.bind_eq_error h with hm | ⟨_, -, hpure⟩
  · obtain ⟨g, hg, hgf⟩ := mapM_eq_error hm
    rw [Filter.normalize_eq, Except.map_eq_error] at hgf
    obtain ⟨v, hv, hvf⟩ := mapM_eq_error hgf
    exact ⟨g, hg, v, hv, hvf⟩
  · exact nomatch hpure

/-- Filters of the flow catalog whose values do not overflow are normalized without fail. -/
theorem normalizeFilters_exists_ok {g : Glossary} {limit : Int} {s : Store} {fs : List Filter}
    (h : ∀ f ∈ fs, f.definition ∈ (Catalog.standard g limit).definitions ∧
      ∀ v ∈ f.values, ¬ f.definition.Overflows v.text) :
    ∃ p, normalizeFilters s fs = .ok p := by
  obtain ⟨normalized, hnorm⟩ : ∃ normalized, fs.mapM (Filter.normalize s) = .ok normalized :=
    mapM_exists_ok_iff.mpr fun f hf => by
      obtain ⟨checked, hchecked⟩ : ∃ checked,
          f.values.mapM (f.definition.checkValue s) = .ok checked :=
        mapM_exists_ok_iff.mpr fun v hv =>
          Definition.checkValue_exists_ok (h f hf).1 s ((h f hf).2 v hv)
      exact ⟨_, by rw [Filter.normalize_eq, hchecked]; rfl⟩
  exact ⟨_, by rw [normalizeFilters, hnorm]; rfl⟩

/-- A load from the flow catalog succeeds exactly when its link is restored. -/
theorem loadFilters_ok_iff {g : Glossary} {limit : Int} {s : Store} {t : String} :
    (∃ L, loadFilters (Catalog.standard g limit) s t = .ok L) ↔
      ∃ fs, filtersOfLink (Catalog.standard g limit) s t = .ok fs := by
  constructor
  · rintro ⟨L, hL⟩
    obtain ⟨fs, hfs, -⟩ := loadFilters_ok hL
    exact ⟨fs, hfs⟩
  · rintro ⟨fs, hfs⟩
    obtain ⟨p, hp⟩ : ∃ p, normalizeFilters s fs = .ok p :=
      normalizeFilters_exists_ok (not_overflows_of_filtersOfLink hfs)
    exact ⟨_, by rw [loadFilters, hfs]; simp only [bind, Except.bind]; rw [hp]; rfl⟩

/-- A load fails only on a numeral of more digits than are read. -/
theorem loadFilters_eq_error {c : Catalog} {s : Store} {t : String} {f : Fault}
    (h : loadFilters c s t = .error f) : ∃ x, Text.Numeral.isDigits x = true ∧
      digitLimit < x.length ∧ f = .tooManyDigits x.length := by
  unfold loadFilters at h
  rcases Except.bind_eq_error h with hfs | ⟨fs, -, h⟩
  · exact filtersOfLink_eq_error hfs
  rcases Except.bind_eq_error h with hnorm | ⟨p, -, h⟩
  · obtain ⟨g, -, v, -, hv⟩ := normalizeFilters_eq_error hnorm
    obtain ⟨w, -, ⟨-, hd, hl⟩, rfl⟩ := Definition.checkValue_eq_error hv
    exact ⟨w, hd, hl, rfl⟩
  · exact nomatch h

/-- **Lookups fail only on long port numerals.** For every definition and text, seeking
suggestions, making a value and restoring a value fail exactly when the definition's suggestions
come from the port registry and the text is a numeral of more than `digitLimit` digits. A link
is restored, and loaded in the flow catalog, exactly when no value the catalog reads from it is
such a numeral; and every fault of these is `tooManyDigits` of more than `digitLimit` digits. -/
theorem lookups_fail_only_on_long_port_numerals (g : Glossary) (limit : Int) (s : Store) :
    (∀ (d : Definition) (t : String),
      ((∃ os, d.suggest s t = .ok os) ↔ ¬ d.Overflows t) ∧
        ((∃ v, d.createValue s t = .ok v) ↔ ¬ d.Overflows t) ∧
        ((∃ v, d.resolveValue s t = .ok v) ↔ ¬ d.Overflows t)) ∧
      (∀ t, (∃ fs, filtersOfLink (Catalog.standard g limit) s t = .ok fs) ↔
        ¬ (Catalog.standard g limit).LinkOverflows t) ∧
      (∀ t, (∃ L, loadFilters (Catalog.standard g limit) s t = .ok L) ↔
        ¬ (Catalog.standard g limit).LinkOverflows t) ∧
      (∀ t f, filtersOfLink (Catalog.standard g limit) s t = .error f ∨
          loadFilters (Catalog.standard g limit) s t = .error f →
        ∃ n, digitLimit < n ∧ f = .tooManyDigits n) :=
  ⟨fun _ _ => ⟨exists_ok_iff_not_overflows fun _ => Definition.suggest_eq_error,
      exists_ok_iff_not_overflows fun _ => Definition.createValue_eq_error,
      exists_ok_iff_not_overflows fun _ => Definition.resolveValue_eq_error⟩,
    fun _ => filtersOfLink_ok_iff,
    fun _ => loadFilters_ok_iff.trans filtersOfLink_ok_iff,
    fun _ _ h => by
      obtain ⟨x, -, hl, rfl⟩ := h.elim filtersOfLink_eq_error loadFilters_eq_error
      exact ⟨x.length, hl, rfl⟩⟩

end FlowSelect
