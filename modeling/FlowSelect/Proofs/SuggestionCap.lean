import FlowSelect.Proofs.SettledValue
/-! What the suggestion limit does to the values typed texts become.

A definition of the flow catalog keeps the first `n` suggestions of its lookup, and a typed text
becomes a value through the first kept suggestion it stands for. Searching the first `n` entries
finds what searching the whole list finds unless the whole list has a match and its first `n`
entries none (`find?_take_cases`). So the limit changes the value a text becomes, or the label a
stored text is restored with, exactly when the lookup's whole list has a suggestion the text
stands for and none of its first `n` is one (`values_uncapped_iff`); the text is then kept
without a label, where the whole list would label it or, for a protocol, replace a name by its
number. A port lookup offers at most one suggestion and a name or address definition none, so
for them a limit of one or more changes nothing. The other lookups can put the suggestion a text
stands for late: with the namespaces `ab` and `a` known in that order, a limit of one keeps `a`
without its label (`createValue_limit_one_namespace`), and the protocol `SMP` (121) comes before
`SM` (122), so a limit of one keeps `SM` as typed instead of its number. -/
namespace FlowSelect

/-- The first suggestion of a lookup's whole list that a typed text stands for. -/
def Lookup.answer? (l : Lookup) (s : Store) (text : String) : Except Fault (Option Suggestion) :=
  (l.run s text).map fun os => os.find? fun o => o.answers text

/-- The value a typed text becomes from the suggestion it stands for, or the text itself
without a label. -/
def Value.ofAnswer (text : String) : Option Suggestion → Value
  | some o => ⟨o.value, some o.name⟩
  | none => ⟨text, none⟩

/-- The value a typed text becomes through a lookup's whole list. -/
def Lookup.createValue (l : Lookup) (s : Store) (text : String) : Except Fault Value :=
  (l.answer? s text).map (Value.ofAnswer text)

/-- The value a stored text is restored as through a lookup's whole list. -/
def Lookup.resolveValue (l : Lookup) (s : Store) (text : String) : Except Fault Value :=
  (l.answer? s text).map fun o => ⟨text, o.map Suggestion.name⟩

theorem Value.ofAnswer_inj {text : String} {a b : Option Suggestion} :
    Value.ofAnswer text a = Value.ofAnswer text b ↔ a = b := by
  constructor
  · intro h
    cases a with
    | none => cases b <;> simp_all [Value.ofAnswer]
    | some o =>
      cases b with
      | none => simp [Value.ofAnswer] at h
      | some o' =>
        simp only [Value.ofAnswer, Value.mk.injEq, Option.some.injEq] at h
        obtain ⟨name, value⟩ := o
        obtain ⟨name', value'⟩ := o'
        simp_all
  · rintro rfl
    rfl

theorem Definition.createValue_eq (d : Definition) (s : Store) (text : String) :
    d.createValue s text = (d.answer? s text).map (Value.ofAnswer text) := rfl

/-! ### Searching the first entries -/

section Take

variable {α : Type} {p : α → Bool} {xs : List α} {n : Nat}

/-- Searching the first `n` entries finds what searching the whole list finds, or nothing
while the whole list has a match. -/
theorem find?_take_cases :
    (xs.take n).find? p = xs.find? p ∨
      ((xs.take n).find? p = none ∧ ∃ x, xs.find? p = some x) := by
  have hsplit : xs.find? p = ((xs.take n).find? p).or ((xs.drop n).find? p) := by
    rw [← List.find?_append, List.take_append_drop]
  rw [hsplit]
  cases (xs.take n).find? p with
  | some x => exact .inl rfl
  | none =>
    cases hd : (xs.drop n).find? p with
    | none => exact .inl rfl
    | some x => exact .inr ⟨rfl, x, rfl⟩

/-- The first `n` entries find the whole list's match exactly when they hold a match whenever
the whole list does. -/
theorem find?_take_eq_iff :
    (xs.take n).find? p = xs.find? p ↔ ((∃ x ∈ xs, p x) → ∃ x ∈ xs.take n, p x) := by
  constructor
  · rintro h ⟨x, hx, hpx⟩
    obtain ⟨y, hy⟩ := List.find?_isSome.mp (by rw [h]; exact List.find?_isSome.mpr ⟨x, hx, hpx⟩)
    exact ⟨y, hy.1, hy.2⟩
  · intro h
    rcases @find?_take_cases _ p xs n with he | ⟨hnone, x, hx⟩
    · exact he
    · obtain ⟨y, hy, hpy⟩ := h ⟨x, List.mem_of_find?_eq_some hx, List.find?_some hx⟩
      exact absurd hpy (List.find?_eq_none.mp hnone y hy)

end Take

/-! ### The limit of the flow catalog -/

theorem keepFirst_of_nonneg {α : Type} {n : Int} (hn : 0 ≤ n) (xs : List α) :
    keepFirst n xs = xs.take n.toNat := if_pos hn

/-- Every definition of the flow catalog keeps the catalog's number of suggestions. -/
theorem Catalog.limit_of_mem {g : Glossary} {limit : Int} {d : Definition}
    (hd : d ∈ (Catalog.standard g limit).definitions) : d.limit = limit := by
  have hall : ∀ x ∈ (Catalog.standard g limit).definitions.map Definition.limit, x = limit := by
    simp [Catalog.standard, Catalog.standardDefinitions, peers, Catalog.base]
  exact hall _ (List.mem_map_of_mem hd)

/-- The port registry offers at most one suggestion: the service of a numeral, or the port of a
service name. -/
theorem Service.suggest_length {t : String} {os : List Suggestion}
    (h : Service.suggest t = .ok os) : os.length ≤ 1 := by
  unfold Service.suggest at h
  split at h
  · split at h
    · cases h
    · split at h <;> cases h <;> simp
  · split at h <;> cases h <;> simp

/-- A definition that keeps `n` suggestions answers a text as its lookup's first `n`
suggestions do. -/
theorem Definition.answer?_of_limit {d : Definition} {n : Nat} (hl : d.limit = n) (s : Store)
    (text : String) :
    d.answer? s text = (d.lookup.run s text).map fun os => (os.take n).find? (·.answers text) := by
  unfold Definition.answer? Definition.suggest
  cases d.lookup.run s text with
  | error e => rfl
  | ok os =>
    simp only [Except.map]
    rw [hl, keepFirst_of_nonneg (Int.natCast_nonneg n), Int.toNat_natCast]

/-- Two searches give the same made and restored values exactly when they find the same
suggestion. -/
theorem values_eq_iff {ans ans' : Option Suggestion} (text : String) :
    (Value.ofAnswer text ans = Value.ofAnswer text ans' ∧
        (⟨text, ans.map Suggestion.name⟩ : Value) = ⟨text, ans'.map Suggestion.name⟩) ↔
      ans = ans' := by
  constructor
  · exact fun h => Value.ofAnswer_inj.mp h.1
  · rintro rfl
    exact ⟨rfl, rfl⟩

/-- **The limit changes what a text resolves to exactly when it hides the suggestion the text
stands for.** For a definition of the flow catalog keeping `n ≥ 1` suggestions, the value a text
becomes and the value it is restored as are those made through the lookup's whole list exactly
when, should the whole list hold a suggestion the text stands for, one of its first `n` does.
For port, name and address definitions they always are. -/
theorem values_uncapped_iff {g : Glossary} {n : Nat} (hn : 1 ≤ n) {d : Definition}
    (hd : d ∈ (Catalog.standard g n).definitions) (s : Store) (v : String) :
    ((d.createValue s v = d.lookup.createValue s v ∧
        d.resolveValue s v = d.lookup.resolveValue s v) ↔
      ∀ os, d.lookup.run s v = .ok os →
        (∃ o ∈ os, o.answers v = true) → ∃ o ∈ os.take n, o.answers v = true) ∧
    (d.lookup = .ports ∨ d.lookup = .nothing →
      d.createValue s v = d.lookup.createValue s v ∧
        d.resolveValue s v = d.lookup.resolveValue s v) := by
  have hans := Definition.answer?_of_limit (Catalog.limit_of_mem hd) s v
  -- both sides read the same lookup run; only the search differs
  have hiff : (d.createValue s v = d.lookup.createValue s v ∧
      d.resolveValue s v = d.lookup.resolveValue s v) ↔
      ∀ os, d.lookup.run s v = .ok os →
        (os.take n).find? (·.answers v) = os.find? (·.answers v) := by
    rw [Definition.createValue_eq, Definition.resolveValue, Lookup.createValue,
      Lookup.resolveValue, Lookup.answer?, hans]
    cases d.lookup.run s v with
    | error e =>
      refine ⟨fun _ os h => ?_, fun _ => ⟨rfl, rfl⟩⟩
      cases h
    | ok os =>
      simp only [Except.map, Except.ok.injEq, forall_eq']
      exact values_eq_iff v
  refine ⟨hiff.trans (forall_congr' fun os => imp_congr_right fun _ => find?_take_eq_iff), ?_⟩
  intro hl
  refine hiff.mpr fun os hrun => ?_
  -- at most one suggestion: the first `n ≥ 1` are all of them
  have hlen : os.length ≤ n := by
    rcases hl with hl | hl
    · rw [hl] at hrun
      exact (Service.suggest_length hrun).trans hn
    · rw [hl] at hrun
      cases hrun
      exact Nat.zero_le n
  rw [List.take_of_length_le hlen]

/-- The protocol definition under a limit of one, with the empty store and the text `SM`. -/
theorem values_uncapped_iff_SM :
    1 ≤ 1 ∧
      (Catalog.standard Glossary.plain 1).definitions[18] ∈
        (Catalog.standard Glossary.plain 1).definitions ∧
      ((((Catalog.standard Glossary.plain 1).definitions[18].createValue Store.empty "SM" =
            (Catalog.standard Glossary.plain 1).definitions[18].lookup.createValue Store.empty "SM" ∧
          (Catalog.standard Glossary.plain 1).definitions[18].resolveValue Store.empty "SM" =
            (Catalog.standard Glossary.plain 1).definitions[18].lookup.resolveValue Store.empty
              "SM") ↔
        ∀ os, (Catalog.standard Glossary.plain 1).definitions[18].lookup.run Store.empty "SM" =
            .ok os →
          (∃ o ∈ os, o.answers "SM" = true) → ∃ o ∈ os.take 1, o.answers "SM" = true) ∧
      ((Catalog.standard Glossary.plain 1).definitions[18].lookup = .ports ∨
          (Catalog.standard Glossary.plain 1).definitions[18].lookup = .nothing →
        (Catalog.standard Glossary.plain 1).definitions[18].createValue Store.empty "SM" =
            (Catalog.standard Glossary.plain 1).definitions[18].lookup.createValue Store.empty "SM" ∧
          (Catalog.standard Glossary.plain 1).definitions[18].resolveValue Store.empty "SM" =
            (Catalog.standard Glossary.plain 1).definitions[18].lookup.resolveValue Store.empty
              "SM")) :=
  ⟨le_refl 1, List.getElem_mem _,
    values_uncapped_iff (le_refl 1) (List.getElem_mem _) Store.empty "SM"⟩

/-- Under a limit of one, with the namespaces `ab` and `a` known in that order, the namespace
definition keeps `a` and restores it without a label, where the whole list labels it `a`. -/
theorem createValue_limit_one_namespace :
    (Catalog.standard Glossary.plain 1).definitions[2].createValue
        ⟨["ab", "a"], [], OrderedMap.empty⟩ "a" = .ok ⟨"a", none⟩ ∧
      (Catalog.standard Glossary.plain 1).definitions[2].lookup.createValue
        ⟨["ab", "a"], [], OrderedMap.empty⟩ "a" = .ok ⟨"a", some "a"⟩ ∧
      (Catalog.standard Glossary.plain 1).definitions[2].resolveValue
        ⟨["ab", "a"], [], OrderedMap.empty⟩ "a" = .ok ⟨"a", none⟩ ∧
      (Catalog.standard Glossary.plain 1).definitions[2].lookup.resolveValue
        ⟨["ab", "a"], [], OrderedMap.empty⟩ "a" = .ok ⟨"a", some "a"⟩ := by
  decide +kernel

end FlowSelect
