import FlowSelect.Fragment.Basic
/-! Building groups by adding values under keys.

A group is built by adding values under keys one at a time (`Group.addAll`). Writing a key that
is there already appends to its values, so each key of a built group holds everything added
under it, in order (`get?_addAll`, `mem_entries_addAll`). When every added key is new, the group
is just the list of additions (`entries_addAll_fresh`). The compiler builds its groups this way from filters, and the fragment reader
from the constraints it reads. -/
namespace FlowSelect

/-! ### Writing one key -/

namespace OrderedMap

variable {β : Type}

theorem find?_insertEntry (k k' : String) (v : β) (es : List (String × β)) :
    (insertEntry k v es).find? (fun e => e.1 == k') =
      if k' = k then some (k, v) else es.find? (fun e => e.1 == k') := by
  induction es with
  | nil =>
    by_cases h : k' = k
    · subst h; simp [insertEntry]
    · simp [insertEntry, h, Ne.symm h]
  | cons e rest ih =>
    by_cases he : e.1 = k
    · by_cases h : k' = k
      · subst h; simp [insertEntry, he]
      · simp [insertEntry, he, h, Ne.symm h]
    · rw [insertEntry, if_neg (by simpa using he), List.find?_cons, List.find?_cons, ih]
      by_cases h : k' = k
      · subst h
        have hne : (e.1 == k') = false := by simpa using he
        simp [hne]
      · simp [h]

theorem get?_insert (m : OrderedMap β) (k k' : String) (v : β) :
    (m.insert k v).get? k' = if k' = k then some v else m.get? k' := by
  unfold get? insert
  rw [find?_insertEntry]
  split <;> rfl

theorem keys_insert (m : OrderedMap β) (k : String) (v : β) :
    (m.insert k v).keys = if k ∈ m.keys then m.keys else m.keys ++ [k] :=
  keys_insertEntry k v m.entries

theorem mem_iff_find? {es : List (String × β)} (h : (es.map Prod.fst).Nodup) (e : String × β) :
    e ∈ es ↔ es.find? (fun x => x.1 == e.1) = some e := by
  induction es with
  | nil => simp
  | cons x rest ih =>
    rw [List.map_cons, List.nodup_cons] at h
    rw [List.mem_cons, List.find?_cons, ih h.2]
    by_cases hx : x.1 = e.1
    · have hb : (x.1 == e.1) = true := by simpa using hx
      simp only [hb, Option.some.injEq]
      constructor
      · rintro (rfl | hfind)
        · rfl
        · exfalso
          apply h.1
          rw [hx]
          exact List.mem_map.mpr ⟨e, List.mem_of_find?_eq_some hfind, rfl⟩
      · intro hxe
        exact Or.inl hxe.symm
    · have hb : (x.1 == e.1) = false := by simpa using hx
      simp only [hb]
      constructor
      · rintro (rfl | hfind)
        · exact absurd rfl hx
        · exact hfind
      · exact Or.inr

theorem mem_entries_iff {m : OrderedMap β} (e : String × β) :
    e ∈ m.entries ↔ m.get? e.1 = some e.2 := by
  rw [mem_iff_find? m.nodup, get?]
  constructor
  · intro hf
    rw [hf]
    rfl
  · intro hg
    obtain ⟨x, hx, hxe⟩ := Option.map_eq_some_iff.mp hg
    have hk : x.1 = e.1 := by simpa using List.find?_some hx
    rw [hx]
    congr 1
    exact Prod.ext hk hxe

theorem get?_of_not_mem {m : OrderedMap β} {k : String} (h : k ∉ m.keys) : m.get? k = none := by
  unfold get?
  rw [List.find?_eq_none.mpr]
  · rfl
  · intro x hx hxk
    exact h (List.mem_map.mpr ⟨x, hx, by simpa using hxk⟩)

theorem insertEntry_of_not_mem {k : String} (v : β) {es : List (String × β)}
    (h : k ∉ es.map Prod.fst) : insertEntry k v es = es ++ [(k, v)] := by
  induction es with
  | nil => rfl
  | cons e rest ih =>
    rw [List.map_cons, List.mem_cons, not_or] at h
    rw [insertEntry, if_neg (by simpa using Ne.symm h.1), ih h.2, List.cons_append]

end OrderedMap

/-! ### Adding under keys -/

namespace Group

/-- A group after adding each key with its values in turn. -/
def addAll (g : Group) (ps : List (String × List String)) : Group :=
  ps.foldl (fun g p => g.add p.1 p.2) g

/-- Everything added under one key, in the order it was added. -/
def valuesAt (ps : List (String × List String)) (k : String) : List String :=
  (ps.filter fun p => p.1 == k).flatMap Prod.snd

theorem addAll_nil (g : Group) : g.addAll [] = g := rfl

theorem addAll_cons (g : Group) (p : String × List String) (ps : List (String × List String)) :
    g.addAll (p :: ps) = (g.add p.1 p.2).addAll ps := rfl

theorem addAll_append (g : Group) (ps qs : List (String × List String)) :
    g.addAll (ps ++ qs) = (g.addAll ps).addAll qs :=
  List.foldl_append

theorem valuesAt_cons (p : String × List String) (ps : List (String × List String)) (k : String) :
    valuesAt (p :: ps) k = (if p.1 = k then p.2 else []) ++ valuesAt ps k := by
  by_cases h : p.1 = k <;> simp [valuesAt, h]

theorem valuesAt_of_not_mem {ps : List (String × List String)} {k : String}
    (h : k ∉ ps.map Prod.fst) : valuesAt ps k = [] := by
  rw [valuesAt, List.filter_eq_nil_iff.mpr, List.flatMap_nil]
  intro p hp hpk
  exact h (List.mem_map.mpr ⟨p, hp, by simpa using hpk⟩)

theorem mem_valuesAt {ps : List (String × List String)} {k v : String} :
    v ∈ valuesAt ps k ↔ ∃ p ∈ ps, p.1 = k ∧ v ∈ p.2 := by
  simp [valuesAt, and_assoc]

theorem get?_add (g : Group) (k k' : String) (vs : List String) :
    (g.add k vs).get? k' = if k' = k then some ((g.get? k).getD [] ++ vs) else g.get? k' :=
  OrderedMap.get?_insert _ _ _ _

/-- What a key holds after additions: what it held, then everything added under it. -/
theorem get?_addAll (g : Group) (ps : List (String × List String)) (k : String) :
    (g.addAll ps).get? k =
      if k ∈ ps.map Prod.fst then some ((g.get? k).getD [] ++ valuesAt ps k) else g.get? k := by
  induction ps generalizing g with
  | nil => simp [addAll_nil]
  | cons p ps ih =>
    rw [addAll_cons, ih, get?_add, valuesAt_cons]
    by_cases hk : k = p.1
    · subst hk
      by_cases hm : p.1 ∈ ps.map Prod.fst
      · simp [hm]
      · simp [hm, valuesAt_of_not_mem hm]
    · have hmem : k ∈ (p :: ps).map Prod.fst ↔ k ∈ ps.map Prod.fst := by simp [hk]
      rw [if_neg hk, if_neg (Ne.symm hk), List.nil_append]
      simp only [hmem]

/-- Adding keys that are new and distinct writes them after the others, in order. -/
theorem entries_addAll_fresh (g : Group) {ps : List (String × List String)}
    (hn : (ps.map Prod.fst).Nodup) (hg : ∀ p ∈ ps, p.1 ∉ g.keys) :
    (g.addAll ps).entries = g.entries ++ ps := by
  induction ps generalizing g with
  | nil => simp [addAll_nil]
  | cons p ps ih =>
    rw [List.map_cons, List.nodup_cons] at hn
    have hp : p.1 ∉ g.keys := hg p List.mem_cons_self
    have hadd : (g.add p.1 p.2).entries = g.entries ++ [p] := by
      rw [add, OrderedMap.get?_of_not_mem hp, Option.getD_none, List.nil_append]
      exact OrderedMap.insertEntry_of_not_mem _ hp
    rw [addAll_cons, ih _ hn.2, hadd]
    · simp
    · intro q hq hmem
      have hq' : q.1 ∉ g.keys := hg q (List.mem_cons_of_mem _ hq)
      simp only [OrderedMap.keys, hadd, List.map_append, List.mem_append, List.map_cons,
        List.map_nil, List.mem_singleton] at hmem
      rcases hmem with h | h
      · exact hq' h
      · exact hn.1 (h ▸ List.mem_map.mpr ⟨q, hq, rfl⟩)

/-- The entries of a group built from nothing: each key added, with everything added under it. -/
theorem mem_entries_addAll (ps : List (String × List String)) (e : String × List String) :
    e ∈ (Group.empty.addAll ps).entries ↔ e.1 ∈ ps.map Prod.fst ∧ e.2 = valuesAt ps e.1 := by
  rw [OrderedMap.mem_entries_iff, get?_addAll]
  by_cases h : e.1 ∈ ps.map Prod.fst
  · simp only [h, if_true, true_and, Option.some.injEq]
    rw [show Group.empty.get? e.1 = none from rfl, Option.getD_none, List.nil_append]
    exact eq_comm
  · simp only [h, if_false, false_and, iff_false]
    exact fun hc => nomatch hc

end Group
end FlowSelect
