/-! Ordered maps: maps from text keys that remember the order in which keys first arrived.

A key is stored once, and a map carries that fact: writing a new key appends it at the end,
writing a key that is already there replaces its value where it stands (`keys_insertEntry`), so
the keys stay distinct and their order is the order of their first writes. Groups of backend
constraints, the names of a suggestion store, settings tables and translations all rely on this
order. -/
namespace FlowSelect

/-- A map from text keys to values, in the order the keys were first written. -/
structure OrderedMap (β : Type) where
  /-- The entries, in the order their keys were first written. -/
  entries : List (String × β)
  /-- No key is stored twice. -/
  nodup : (entries.map Prod.fst).Nodup
  deriving DecidableEq, Repr

namespace OrderedMap

variable {β : Type}

/-- The map with no entries. -/
def empty : OrderedMap β := ⟨[], List.nodup_nil⟩

/-- Maps with the same entries are equal. -/
@[ext]
theorem ext {m m' : OrderedMap β} (h : m.entries = m'.entries) : m = m' := by
  cases m
  cases m'
  cases h
  rfl

/-- The keys, in order. -/
def keys (m : OrderedMap β) : List String := m.entries.map Prod.fst

theorem keys_nodup (m : OrderedMap β) : m.keys.Nodup := m.nodup

/-- The value stored at a key. -/
def get? (m : OrderedMap β) (k : String) : Option β :=
  (m.entries.find? fun e => e.1 == k).map Prod.snd

/-- Whether a key is stored. -/
def contains (m : OrderedMap β) (k : String) : Bool :=
  m.entries.any fun e => e.1 == k

/-- Entries after writing `v` at `k`: in place if `k` is there, else at the end. -/
def insertEntry (k : String) (v : β) : List (String × β) → List (String × β)
  | [] => [(k, v)]
  | e :: rest => if e.1 == k then (k, v) :: rest else e :: insertEntry k v rest

/-- Writing a key keeps the keys as they are when it is there, and appends it otherwise. -/
theorem keys_insertEntry (k : String) (v : β) (es : List (String × β)) :
    (insertEntry k v es).map Prod.fst =
      if k ∈ es.map Prod.fst then es.map Prod.fst else es.map Prod.fst ++ [k] := by
  induction es with
  | nil => rfl
  | cons e rest ih =>
    by_cases he : e.1 = k
    · simp [insertEntry, he]
    · rw [insertEntry, if_neg (by simpa using he), List.map_cons, ih]
      by_cases h : k ∈ rest.map Prod.fst
      · simp [h]
      · simp [h, Ne.symm he]

/-- Writing a key stores it once. -/
theorem nodup_insertEntry {es : List (String × β)} (h : (es.map Prod.fst).Nodup) (k : String)
    (v : β) : ((insertEntry k v es).map Prod.fst).Nodup := by
  rw [keys_insertEntry]
  split
  · exact h
  · next hk =>
    refine List.nodup_append.mpr ⟨h, List.nodup_cons.mpr ⟨by simp, List.nodup_nil⟩, ?_⟩
    intro a ha b hb
    rw [List.mem_singleton] at hb
    subst hb
    exact fun hab => hk (hab ▸ ha)

/-- The map after writing `v` at `k`. -/
def insert (m : OrderedMap β) (k : String) (v : β) : OrderedMap β :=
  ⟨insertEntry k v m.entries, nodup_insertEntry m.nodup k v⟩

/-- The map built by writing the pairs in order. -/
def ofList (pairs : List (String × β)) : OrderedMap β :=
  pairs.foldl (fun m p => m.insert p.1 p.2) empty

/-- The number of keys. -/
def size (m : OrderedMap β) : Nat := m.entries.length

end OrderedMap

end FlowSelect
