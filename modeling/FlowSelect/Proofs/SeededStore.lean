import FlowSelect.Settings.Basic
import FlowSelect.Proofs.PathText
import FlowSelect.Proofs.StoreHistory
/-! Settings handed to a suggestion store, and their check.

Seeding a store from settings replaces its namespaces and kinds, then files each names list of
the settings, in key order, skipping every key without exactly one dot. A key with one dot is
cut there into a kind and a namespace, and the store files the list under their joined text,
which is the key again (`nameKey_of_cut`). So one step files a list exactly under its own key
(`names_get?_seedEntry`), and for names keys that are distinct, a whole seeding files each list
under its key when that key has one dot and leaves every other text as it was
(`names_get?_foldl_seedEntry`); the keys of a map are distinct, so seeding from settings does
this for every names key (`names?_seed`).

The check, when it passes, warns once per names key without exactly one dot, in key order. Those
are exactly the keys that seeding a fresh store leaves out: no kind and namespace joining to
such a key read anything back, while a key with one dot reads back its list
(`seed_agrees_with_validate`). -/
namespace FlowSelect

/-- A text that is cut at a dot is the two parts joined by the dot. -/
theorem Store.nameKey_of_cut {k kind ns : String} (h : Text.cut k '.' = some (kind, ns)) :
    Store.nameKey kind ns = k := by
  rw [← String.toList_inj, Text.toList_of_cut h]
  simp [Store.nameKey]

/-- A text holding a separator is cut there. -/
theorem Text.cut_of_mem {s : String} {sep : Char} (h : sep ∈ s.toList) :
    ∃ a b, Text.cut s sep = some (a, b) := by
  cases hcut : Text.cut s sep with
  | none => exact absurd h (Text.not_mem_of_cut_none hcut)
  | some p => exact ⟨p.1, p.2, rfl⟩

namespace OrderedMap

variable {β : Type}

/-- A stored key has a value. -/
theorem get?_ne_none_of_mem {m : OrderedMap β} {k : String} (h : k ∈ m.keys) : m.get? k ≠ none := by
  rw [ne_eq, ← Option.not_isSome_iff_eq_none, not_not, ← contains_eq_isSome_get?, contains,
    List.any_eq_true]
  obtain ⟨e, he, rfl⟩ := List.mem_map.mp h
  exact ⟨e, he, beq_self_eq_true _⟩

theorem get?_cons (e : String × β) (es : List (String × β))
    (h : ((e :: es).map Prod.fst).Nodup) (k : String) :
    (⟨e :: es, h⟩ : OrderedMap β).get? k =
      if e.1 = k then some e.2 else (⟨es, (List.nodup_cons.mp h).2⟩ : OrderedMap β).get? k := by
  by_cases he : e.1 = k <;> simp [get?, he]

end OrderedMap

namespace Settings

/-- One step of seeding: a names list filed under its key, when the key has exactly one dot. -/
def seedEntry (st : Store) (e : String × List String) : Store :=
  if dots e.1 != 1 then st
  else match Text.cut e.1 '.' with
    | some (kind, n) => st.setNames kind n e.2
    | none => st

theorem seed_eq (s : Settings) (st : Store) :
    s.seed st = s.names.entries.foldl seedEntry ((st.setNamespaces s.namespaces).setKinds s.kinds) :=
  rfl

/-- A key with exactly one dot is the joined text of its two parts. -/
theorem exists_nameKey_of_dots {k : String} (h : dots k = 1) :
    ∃ kind ns, Text.cut k '.' = some (kind, ns) ∧ Store.nameKey kind ns = k := by
  have hmem : '.' ∈ k.toList := List.count_pos_iff.mp (by rw [← dots, h]; exact Nat.one_pos)
  obtain ⟨kind, ns, hcut⟩ := Text.cut_of_mem hmem
  exact ⟨kind, ns, hcut, Store.nameKey_of_cut hcut⟩

/-- A seeding step for a key with one dot files the list under the key's two parts, which join
to the key again. -/
theorem seedEntry_of_dots (st : Store) {e : String × List String} (hd : dots e.1 = 1) :
    ∃ kind ns, Store.nameKey kind ns = e.1 ∧ seedEntry st e = st.setNames kind ns e.2 := by
  obtain ⟨kind, ns, hcut, hkey⟩ := exists_nameKey_of_dots hd
  refine ⟨kind, ns, hkey, ?_⟩
  simp only [seedEntry, hd, bne_self_eq_false, Bool.false_eq_true, if_false, hcut]

/-- A seeding step for any other key changes nothing. -/
theorem seedEntry_of_not_dots {st : Store} {e : String × List String} (hd : dots e.1 ≠ 1) :
    seedEntry st e = st := by
  simp only [seedEntry, bne_iff_ne, ne_eq, hd, not_false_eq_true, if_true]

/-- One seeding step files a list under its own key, if that key has one dot, and nowhere
else. -/
theorem names_get?_seedEntry (st : Store) (e : String × List String) (key : String) :
    (seedEntry st e).names.get? key = if dots e.1 = 1 ∧ key = e.1 then some e.2 else st.names.get? key := by
  by_cases hd : dots e.1 = 1
  · obtain ⟨kind, ns, hkey, hstep⟩ := seedEntry_of_dots st hd
    rw [hstep, Store.setNames, OrderedMap.get?_insert, hkey]
    simp only [hd, true_and]
  · rw [seedEntry_of_not_dots hd, if_neg fun h => hd h.1]

/-- Seeding leaves namespaces and kinds as they are. -/
theorem foldl_seedEntry_lists (es : List (String × List String)) (st : Store) :
    (es.foldl seedEntry st).namespaces = st.namespaces ∧ (es.foldl seedEntry st).kinds = st.kinds := by
  induction es generalizing st with
  | nil => exact ⟨rfl, rfl⟩
  | cons e es ih =>
    -- a step changes at most the names
    have hstep : (seedEntry st e).namespaces = st.namespaces ∧ (seedEntry st e).kinds = st.kinds := by
      by_cases hd : dots e.1 = 1
      · obtain ⟨kind, ns, -, hstep⟩ := seedEntry_of_dots st hd
        rw [hstep]
        exact ⟨rfl, rfl⟩
      · rw [seedEntry_of_not_dots hd]
        exact ⟨rfl, rfl⟩
    rw [List.foldl_cons, (ih _).1, (ih _).2]
    exact hstep

/-- **Seeding files each list under its key.** For entries with distinct keys, seeding files a
list under every key with one dot, and leaves every other text as it was. -/
theorem names_get?_foldl_seedEntry {es : List (String × List String)} (hes : (es.map Prod.fst).Nodup)
    (st : Store) (key : String) :
    (es.foldl seedEntry st).names.get? key =
      if dots key = 1 ∧ key ∈ es.map Prod.fst then (⟨es, hes⟩ : OrderedMap (List String)).get? key
      else st.names.get? key := by
  induction es generalizing st with
  | nil => simp
  | cons e es ih =>
    obtain ⟨hnew, hrest⟩ := List.nodup_cons.mp hes
    rw [OrderedMap.get?_cons, List.foldl_cons, ih hrest, names_get?_seedEntry]
    by_cases hkey : key = e.1
    · -- the last step filing under `key` is this one: no later entry has that key
      subst hkey
      simp [hnew]
    · have hmem : key ∈ (e :: es).map Prod.fst ↔ key ∈ es.map Prod.fst := by
        rw [List.map_cons, List.mem_cons, or_iff_right hkey]
      simp only [if_neg (Ne.symm hkey), hmem, hkey, and_false, if_false]

/-- Seeding files each list of the settings under its key when the key has one dot; what any
other pair reads is what the store read before. -/
theorem names?_seed (s : Settings) (st : Store) (kind ns : String) :
    (s.seed st).names? kind ns =
      if dots (Store.nameKey kind ns) = 1 ∧ Store.nameKey kind ns ∈ s.names.keys then
        s.names.get? (Store.nameKey kind ns)
      else st.names? kind ns := by
  rw [seed_eq, Store.names?, names_get?_foldl_seedEntry s.names.nodup]
  rfl

/-- A fresh store seeded from settings reads, for a kind and a namespace, the list the settings
hold under their joined text when it has one dot. -/
theorem names?_seed_empty (s : Settings) (kind ns : String) :
    (s.seed .empty).names? kind ns =
      if dots (Store.nameKey kind ns) = 1 then s.names.get? (Store.nameKey kind ns) else none := by
  rw [names?_seed]
  by_cases hmem : Store.nameKey kind ns ∈ s.names.keys
  · simp only [hmem, and_true]
    rfl
  · simp only [hmem, and_false, if_false, OrderedMap.get?_of_not_mem hmem, ite_self]
    rfl

/-- A check that passes warns once per names key without exactly one dot, in key order. -/
theorem warnings_of_validate {s : Settings} {ws : List String} (h : s.validate = .ok ws) :
    ws = (s.names.keys.filter fun k => dots k != 1).map fun k =>
      "autocomplete.names key '" ++ k ++ "' is not in the Kind.namespace form, ignored" := by
  unfold validate at h
  split_ifs at h
  cases h
  rfl

/-- **Seeding and the check agree on names keys.** A fresh store seeded from settings reads, for
a kind and a namespace, the list the settings hold under their joined text when that text has
exactly one dot, and nothing otherwise; it holds the settings' namespaces and kinds. A check that
passes warns once per names key without exactly one dot, in key order, and these are exactly the
keys that no kind and namespace read back from the seeded store. -/
theorem seed_agrees_with_validate (s : Settings) :
    (∀ kind ns, (s.seed .empty).names? kind ns =
        if dots (Store.nameKey kind ns) = 1 then s.names.get? (Store.nameKey kind ns) else none) ∧
      (s.seed .empty).namespaces = s.namespaces ∧ (s.seed .empty).kinds = s.kinds ∧
      (∀ ws, s.validate = .ok ws → ws = (s.names.keys.filter fun k => dots k != 1).map fun k =>
        "autocomplete.names key '" ++ k ++ "' is not in the Kind.namespace form, ignored") ∧
      ∀ k ∈ s.names.keys,
        dots k ≠ 1 ↔ ∀ kind ns, Store.nameKey kind ns = k → (s.seed .empty).names? kind ns = none := by
  have hlists := foldl_seedEntry_lists s.names.entries ((Store.empty.setNamespaces s.namespaces).setKinds s.kinds)
  refine ⟨names?_seed_empty s, hlists.1, hlists.2, fun _ => warnings_of_validate, fun k hk => ?_⟩
  constructor
  · intro hd kind ns hkey
    rw [names?_seed_empty, hkey, if_neg hd]
  · -- a key with one dot is read back for its own two parts
    intro hnone hd
    obtain ⟨kind, ns, -, hkey⟩ := exists_nameKey_of_dots hd
    have hread := hnone kind ns hkey
    rw [names?_seed_empty, hkey, if_pos hd] at hread
    exact OrderedMap.get?_ne_none_of_mem hk hread

/-- Settings with names under `Pod.default` and under `Pod` seed a store that reads the first
list for the kind `Pod` in the namespace `default`, and nothing for `Pod` with no namespace. -/
theorem seed_agrees_with_validate_pod :
    (({ defaults with names := OrderedMap.ofList [("Pod.default", ["web-1"]), ("Pod", ["web"])] } :
        Settings).seed .empty).names? "Pod" "default" = some ["web-1"] ∧
      (({ defaults with names := OrderedMap.ofList [("Pod.default", ["web-1"]), ("Pod", ["web"])] } :
        Settings).seed .empty).names? "Pod" "" = none := by
  have hnames := (seed_agrees_with_validate
    { defaults with names := OrderedMap.ofList [("Pod.default", ["web-1"]), ("Pod", ["web"])] }).1
  refine ⟨?_, ?_⟩
  · rw [hnames]
    decide
  · rw [hnames]
    decide

end Settings

end FlowSelect
