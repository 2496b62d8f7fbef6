import FlowSelect.Proofs.LoadRoundTrip
import FlowSelect.Proofs.PageRoundTrip
import FlowSelect.Settings.Load
/-! Settings saved to a file and loaded again.

A save writes the query and display sections whole, and of the suggestion settings only those
that differ from the defaults (`Settings.savedSuggestions`), under `autocomplete` when there is
any. Loading reads every key that is present and takes the default for every key that is not,
so each setting left out comes back as the default it equals, and each one written comes back
as written (`Settings.ofDocument_toDocument`). The names are written as a table in the order of
their keys and read back into a map in the same order; the keys of a map are distinct, so the
map read back is the one written.

Writing the document as TOML text and reading that text back is the job of a TOML writer that
is not part of this library; it is a parameter `dump`, of which only one thing is asked: that
the reader gives back the document it wrote. Loading the saved file then gives back the same
settings, with the same warnings or the same refusal of their check (`Settings.load_saved`). -/
namespace FlowSelect

namespace Settings

/-! ### Comparing values -/

mutual
/-- Whether two values are the same, compared part by part. -/
def Value.same : Value → Value → Bool
  | .text a, .text b => a == b
  | .integer a, .integer b => a == b
  | .decimal a, .decimal b => a == b
  | .bool a, .bool b => a == b
  | .chrono k a, .chrono k' b => k == k' && a == b
  | .array xs, .array ys => Value.sameItems xs ys
  | .table es, .table fs => Value.sameEntries es fs
  | .null, .null => true
  | _, _ => false

/-- Whether two lists of values are the same, item by item. -/
def Value.sameItems : List Value → List Value → Bool
  | [], [] => true
  | x :: xs, y :: ys => x.same y && Value.sameItems xs ys
  | _, _ => false

/-- Whether two lists of entries are the same, entry by entry. -/
def Value.sameEntries : List (String × Value) → List (String × Value) → Bool
  | [], [] => true
  | (k, x) :: es, (k', y) :: fs => k == k' && x.same y && Value.sameEntries es fs
  | _, _ => false
end

mutual
theorem Value.same_iff (a b : Value) : a.same b = true ↔ a = b := by
  -- values of different kinds are never the same; arrays and tables compare their parts
  cases a <;> cases b <;> simp only [Value.same, reduceCtorEq, Bool.false_eq_true]
  case array.array xs ys => rw [Value.sameItems_iff xs ys, Value.array.injEq]
  case table.table es fs => rw [Value.sameEntries_iff es fs, Value.table.injEq]
  all_goals simp

theorem Value.sameItems_iff : ∀ xs ys : List Value, Value.sameItems xs ys = true ↔ xs = ys
  | [], [] => by simp [Value.sameItems]
  | x :: xs, y :: ys => by simp [Value.sameItems, Value.same_iff x y, Value.sameItems_iff xs ys]
  | [], _ :: _ => by simp [Value.sameItems]
  | _ :: _, [] => by simp [Value.sameItems]

theorem Value.sameEntries_iff :
    ∀ es fs : List (String × Value), Value.sameEntries es fs = true ↔ es = fs
  | [], [] => by simp [Value.sameEntries]
  | (k, x) :: es, (k', y) :: fs => by
    simp [Value.sameEntries, Value.same_iff x y, Value.sameEntries_iff es fs, and_assoc]
  | [], _ :: _ => by simp [Value.sameEntries]
  | _ :: _, [] => by simp [Value.sameEntries]
end

instance : DecidableEq Value := fun a b => decidable_of_iff _ (Value.same_iff a b)

/-! ### Reading settings -/

/-- A key of a table is read as the value stored there, or as the current value when the key
is absent. -/
theorem readKey_table {α : Type} (es : List (String × Value)) (key : String)
    (read : Value → Except Fault α) (current : α) :
    readKey (.table es) key read current =
      match (es.find? fun e => e.1 == key).map Prod.snd with
      | some v => read v
      | none => .ok current := rfl

theorem texts_array (key : String) (l : List String) : texts key (.array (l.map .text)) = .ok l := by
  unfold texts
  refine mapM_eq_ok_iff.mpr (List.forall₂_map_left_iff.mpr (List.forall₂_same.mpr ?_))
  intro x _
  rfl

/-- A names table written from a map of name lists reads back as the map. -/
theorem nameLists_table (names : OrderedMap (List String)) :
    nameLists (.table (names.entries.map fun (k, ns) => (k, .array (ns.map .text)))) =
      .ok names := by
  -- the names of each entry read back from the array they were written as
  have hentries : (names.entries.map fun e : String × List String =>
      (e.1, Value.array (e.2.map .text))).mapM
      (fun e : String × Value => do
        let ns ← texts ("autocomplete.names." ++ e.1) e.2
        pure (e.1, ns)) = .ok names.entries := by
    refine mapM_eq_ok_iff.mpr (List.forall₂_map_left_iff.mpr (List.forall₂_same.mpr ?_))
    intro e _
    simp only [texts_array]
    rfl
  show (do
    let entries ← (names.entries.map fun e : String × List String =>
      (e.1, Value.array (e.2.map .text))).mapM
      (fun e : String × Value => do
        let ns ← texts ("autocomplete.names." ++ e.1) e.2
        pure (e.1, ns))
    pure (OrderedMap.ofList entries)) = _
  rw [hentries]
  show Except.ok (OrderedMap.ofList names.entries) = _
  rw [OrderedMap.ofList_of_nodup names.nodup]

/-! ### The saved document -/

/-- The suggestion settings a save writes: those that differ from the defaults. -/
def savedSuggestions (s : Settings) : List (String × Value) :=
  (if s.maxOptions != defaults.maxOptions then [("max_options", .integer s.maxOptions)] else []) ++
    (if s.namespaces.isEmpty then [] else [("namespaces", .array (s.namespaces.map .text))]) ++
    (if s.kinds.isEmpty then [] else [("kinds", .array (s.kinds.map .text))]) ++
    (if s.names.entries.isEmpty then []
     else [("names", Value.table (s.names.entries.map fun (k, ns) => (k, .array (ns.map .text))))])

theorem child_query_toDocument (s : Settings) :
    s.toDocument.child "query" = .ok (.table [("match", .text s.mode), ("limit", .integer s.limit),
      ("time_range", .integer s.timeRange), ("reporter", .text s.reporter)]) := rfl

theorem child_display_toDocument (s : Settings) :
    s.toDocument.child "display" = .ok (.table [("colored_output", .bool s.colored)]) := rfl

/-- The suggestion section of a saved document holds the saved suggestion settings; a section
that was left out reads as the empty table, which holds none either. -/
theorem child_autocomplete_toDocument (s : Settings) :
    s.toDocument.child "autocomplete" = .ok (.table s.savedSuggestions) := by
  show Except.ok (Option.getD (Option.map Prod.snd (List.find? _
    ((if s.savedSuggestions.isEmpty then [] else [("autocomplete", Value.table s.savedSuggestions)])))) _) = _
  by_cases h : s.savedSuggestions.isEmpty = true
  · rw [if_pos h, List.isEmpty_iff.mp h]
    rfl
  · rw [if_neg h]
    rfl

/-- An entry written when a condition holds is found under its key when written, and passed
over under any other key. -/
theorem find?_written {c : Bool} (x : String × Value) (rest : List (String × Value)) (k : String) :
    ((if c then [x] else []) ++ rest).find? (fun e => e.1 == k) =
      if c ∧ x.1 = k then some x else rest.find? (fun e => e.1 == k) := by
  cases c <;> by_cases h : x.1 = k <;> simp [h]

/-- An entry left out when a condition holds, found the same way. -/
theorem find?_unwritten {c : Bool} (x : String × Value) (rest : List (String × Value))
    (k : String) :
    ((if c then [] else [x]) ++ rest).find? (fun e => e.1 == k) =
      if c = false ∧ x.1 = k then some x else rest.find? (fun e => e.1 == k) := by
  cases c <;> by_cases h : x.1 = k <;> simp [h]

/-- What a key finds in the saved suggestion section. -/
theorem find?_savedSuggestions (s : Settings) (k : String) :
    s.savedSuggestions.find? (fun e => e.1 == k) =
      if (s.maxOptions != defaults.maxOptions) = true ∧ "max_options" = k then
        some ("max_options", .integer s.maxOptions)
      else if s.namespaces.isEmpty = false ∧ "namespaces" = k then
        some ("namespaces", .array (s.namespaces.map .text))
      else if s.kinds.isEmpty = false ∧ "kinds" = k then some ("kinds", .array (s.kinds.map .text))
      else if s.names.entries.isEmpty = false ∧ "names" = k then
        some ("names", .table (s.names.entries.map fun (k, ns) => (k, .array (ns.map .text))))
      else none := by
  rw [savedSuggestions, ← List.append_nil (_ ++ if s.names.entries.isEmpty then [] else _)]
  simp only [List.append_assoc, find?_written, find?_unwritten, List.find?_nil]

/-- Each suggestion setting reads back from the saved section: the value written when it
differs from its default, else the default, which it then equals. -/
theorem readKey_savedSuggestions (s : Settings) :
    readKey (.table s.savedSuggestions) "max_options" (integer "autocomplete.max_options")
        defaults.maxOptions = .ok s.maxOptions ∧
      readKey (.table s.savedSuggestions) "namespaces" (texts "autocomplete.namespaces")
        defaults.namespaces = .ok s.namespaces ∧
      readKey (.table s.savedSuggestions) "kinds" (texts "autocomplete.kinds")
        defaults.kinds = .ok s.kinds ∧
      readKey (.table s.savedSuggestions) "names" nameLists defaults.names = .ok s.names := by
  simp only [readKey_table, find?_savedSuggestions]
  refine ⟨?_, ?_, ?_, ?_⟩
  · by_cases hm : (s.maxOptions != defaults.maxOptions) = true
    · simp [hm]
      rfl
    · simp only [bne_iff_ne, ne_eq, Decidable.not_not] at hm
      simp [hm]
  · by_cases hn : s.namespaces.isEmpty = true
    · simp [List.isEmpty_iff.mp hn, defaults]
    · simp [hn, texts_array]
  · by_cases hk : s.kinds.isEmpty = true
    · simp [List.isEmpty_iff.mp hk, defaults]
    · simp [hk, texts_array]
  · by_cases hn : s.names.entries.isEmpty = true
    · -- no names were saved, so the map is the empty default
      have hempty : s.names = OrderedMap.empty := OrderedMap.ext (List.isEmpty_iff.mp hn)
      simp [hempty, OrderedMap.empty, defaults]
    · simp [hn, nameLists_table]

/-- **A saved document reads back as the settings saved.** -/
theorem ofDocument_toDocument (s : Settings) : ofDocument s.toDocument = .ok s := by
  obtain ⟨hmax, hns, hkinds, hnames⟩ := readKey_savedSuggestions s
  unfold ofDocument
  rw [child_query_toDocument, child_display_toDocument, child_autocomplete_toDocument]
  simp only [bind, Except.bind, readKey_table, List.find?, hmax, hns, hkinds, hnames]
  rfl

/-! ### Loading a saved file -/

/-- **Loading a saved file gives back the settings saved.** Any settings, those read from a
document among them, saved by a TOML writer whose text the reader reads back as the document
written, load again as the same settings, with the same warnings, or the same refusal, of their
check. -/
theorem load_saved (s : Settings) (dump : Value → String) (hdump : Toml.read (dump s.toDocument) = .ok s.toDocument)
    (path : String) :
    load path (some (dump s.toDocument)) = s.validate.map fun warnings => (s, warnings) := by
  have hparse : parse path (dump s.toDocument) = .ok s.toDocument := by
    rw [parse, hdump]
  show (parse path (dump s.toDocument) >>= fromDocument) = _
  rw [hparse]
  show ofDocument s.toDocument >>= (fun s => s.validate >>= fun warnings => pure (s, warnings)) = _
  rw [ofDocument_toDocument s]
  show s.validate >>= (fun warnings => pure (s, warnings)) = _
  cases s.validate <;> rfl

/-- Suggestion settings with a names key holding a dot, saved as a TOML writer writes them,
load again as they were. -/
theorem load_saved_names :
    ofDocument (.table [("autocomplete", .table [("max_options", .integer 5),
        ("names", .table [("Pod.default", .array [.text "a"])])])]) =
      .ok ⟨"all", 100, 300, "destination", 5, [], [], OrderedMap.ofList [("Pod.default", ["a"])], true⟩ ∧
    Toml.read "[query]\nmatch = \"all\"\nlimit = 100\ntime_range = 300\nreporter = \"destination\"\n\n[display]\ncolored_output = true\n\n[autocomplete]\nmax_options = 5\n\n[autocomplete.names]\n\"Pod.default\" = [\n    \"a\",\n]\n" =
      .ok (toDocument ⟨"all", 100, 300, "destination", 5, [], [], OrderedMap.ofList [("Pod.default", ["a"])], true⟩) ∧
    load "config.toml" (some "[query]\nmatch = \"all\"\nlimit = 100\ntime_range = 300\nreporter = \"destination\"\n\n[display]\ncolored_output = true\n\n[autocomplete]\nmax_options = 5\n\n[autocomplete.names]\n\"Pod.default\" = [\n    \"a\",\n]\n") =
      (validate ⟨"all", 100, 300, "destination", 5, [], [], OrderedMap.ofList [("Pod.default", ["a"])], true⟩).map
        fun warnings => (⟨"all", 100, 300, "destination", 5, [], [], OrderedMap.ofList [("Pod.default", ["a"])], true⟩,
          warnings) := by
  refine ⟨rfl, ?hread, load_saved _ (fun _ => _) ?hread "config.toml"⟩
  exact Except.eq_ok_of_toOption (by decide +kernel)

end Settings

end FlowSelect
