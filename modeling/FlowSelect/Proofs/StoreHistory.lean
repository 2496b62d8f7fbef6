import FlowSelect.Proofs.GroupMerge
import FlowSelect.Proofs.SettledValue
import Mathlib.Data.List.Induction
/-! Suggestion stores after any history of calls.

A store is changed by four calls (`Store.Call`): replacing the namespaces, replacing the kinds,
replacing the names filed for a kind and a namespace, and clearing everything. Each thing a
store is read for is a *register* (`Store.Register`): the namespaces, the kinds, and the names
filed under one key. A call either sets a register, clears it, or leaves it as it is, and these
three step facts are all a history needs: after any history from the empty store, a register
holds what the latest call that set it gave, if no clear came after that call, and its blank
value otherwise (`Register.read_replay`).

Names are filed under the joined text `kind.namespace`, so the register of a pair is shared by
every pair with the same joined text: names given for (`a.b`, `c`) are read back for (`a`,
`b.c`) (`names?_shared_key`). Where no kind holds a dot, the joined text is the pair itself
(`nameKey_inj`), and the names read back are those of the latest call for the same pair
(`names?_replay_of_plain`). -/
namespace FlowSelect

namespace OrderedMap

variable {β : Type}

theorem contains_eq_isSome_get? (m : OrderedMap β) (k : String) :
    m.contains k = (m.get? k).isSome := by
  rw [contains, get?, Option.isSome_map, Bool.eq_iff_iff, List.any_eq_true, List.find?_isSome]

end OrderedMap

namespace Store

/-! ### Calls and histories -/

/-- A call that changes a store. -/
inductive Call where
  | setNamespaces (namespaces : List String)
  | setKinds (kinds : List String)
  | setNames (kind ns : String) (names : List String)
  | clear
  deriving DecidableEq, Repr

/-- The store after a call. -/
def Call.apply (s : Store) : Call → Store
  | .setNamespaces namespaces => s.setNamespaces namespaces
  | .setKinds kinds => s.setKinds kinds
  | .setNames kind ns names => s.setNames kind ns names
  | .clear => s.clear

/-- The store a history of calls leaves, from the empty store. -/
def replay (calls : List Call) : Store := calls.foldl Call.apply empty

theorem replay_append_singleton (calls : List Call) (c : Call) :
    replay (calls ++ [c]) = c.apply (replay calls) := by
  rw [replay, List.foldl_append]
  rfl

/-- The namespaces a call gives, if it replaces them. -/
def Call.namespaces? : Call → Option (List String)
  | .setNamespaces namespaces => some namespaces
  | _ => none

/-- The kinds a call gives, if it replaces them. -/
def Call.kinds? : Call → Option (List String)
  | .setKinds kinds => some kinds
  | _ => none

/-- The names a call files under a key, if it files any there. -/
def Call.namesAt? (key : String) : Call → Option (List String)
  | .setNames kind ns names => if nameKey kind ns = key then some names else none
  | _ => none

/-- The names a call gives for a kind and a namespace, if it is a call for that very pair. -/
def Call.namesFor? (kind ns : String) : Call → Option (List String)
  | .setNames kind' ns' names => if kind' = kind ∧ ns' = ns then some names else none
  | _ => none

/-! ### The latest call that sets a register -/

section Latest

variable {α : Type} {pick : Call → Option α}

/-- `a` is what `pick` reads from the latest call of a history that `pick` reads, and no call
after that one clears the store. -/
def LatestSet (pick : Call → Option α) (calls : List Call) (a : α) : Prop :=
  ∃ pre c post, calls = pre ++ c :: post ∧ pick c = some a ∧
    ∀ c' ∈ post, pick c' = none ∧ c' ≠ .clear

theorem latestSet_nil (a : α) : ¬ LatestSet pick [] a := by
  rintro ⟨pre, c, post, h, -⟩
  exact List.append_ne_nil_of_right_ne_nil pre (List.cons_ne_nil c post) h.symm

/-- The latest setting call of a longer history is its last call, or else the latest one of
the shorter history when the last call neither sets nor clears. -/
theorem latestSet_append_singleton {calls : List Call} {c : Call} {a : α} :
    LatestSet pick (calls ++ [c]) a ↔
      pick c = some a ∨ (pick c = none ∧ c ≠ .clear ∧ LatestSet pick calls a) := by
  constructor
  · rintro ⟨pre, x, post, h, hx, hpost⟩
    -- the setting call is the last one, or the last one lies after it
    rcases List.eq_nil_or_concat post with rfl | ⟨post', y, rfl⟩
    · obtain ⟨rfl, hcx⟩ := List.append_inj' h rfl
      rw [List.singleton_inj] at hcx
      exact .inl (hcx ▸ hx)
    · rw [List.concat_eq_append] at h hpost
      rw [← List.cons_append, ← List.append_assoc] at h
      obtain ⟨rfl, hcy⟩ := List.append_inj' h rfl
      rw [List.singleton_inj] at hcy
      subst hcy
      obtain ⟨hy, hyc⟩ := hpost c (List.mem_append_right _ (List.mem_singleton_self c))
      exact .inr ⟨hy, hyc, pre, x, post', rfl, hx,
        fun c' hc' => hpost c' (List.mem_append_left _ hc')⟩
  · rintro (hc | ⟨hc, hclear, pre, x, post, rfl, hx, hpost⟩)
    · exact ⟨calls, c, [], rfl, hc, by simp⟩
    · refine ⟨pre, x, post ++ [c], by simp, hx, fun c' hc' => ?_⟩
      rcases List.mem_append.mp hc' with hc' | hc'
      · exact hpost c' hc'
      · rw [List.mem_singleton.mp hc']
        exact ⟨hc, hclear⟩

/-- Pickers that agree on every call of a history find the same latest setting call. -/
theorem LatestSet.congr {pick' : Call → Option α} {calls : List Call}
    (h : ∀ c ∈ calls, pick c = pick' c) {a : α} (hl : LatestSet pick calls a) :
    LatestSet pick' calls a := by
  obtain ⟨pre, c, post, rfl, hc, hpost⟩ := hl
  refine ⟨pre, c, post, rfl, by rw [← h c (by simp), hc], fun c' hc' => ?_⟩
  rw [← h c' (by simp [hc'])]
  exact hpost c' hc'

end Latest

/-! ### Registers -/

/-- A part of a store that each call sets to a value, clears, or leaves as it is. `read` reads
it, `pick` says what a call sets it to, and `put` turns that into what is read. -/
structure Register (β α : Type) where
  read : Store → β
  pick : Call → Option α
  put : α → β
  blank : β
  read_empty : read empty = blank
  pick_clear : pick .clear = none
  read_set : ∀ s c a, pick c = some a → read (c.apply s) = put a
  read_keep : ∀ s c, pick c = none → c ≠ .clear → read (c.apply s) = read s

variable {β α : Type}

/-- **A register after any history.** It holds what the latest call that set it gave, when no
clear came after that call, and its blank value when there is no such call. -/
theorem Register.read_replay (r : Register β α) (calls : List Call) :
    (∀ a, LatestSet r.pick calls a → r.read (replay calls) = r.put a) ∧
      ((∀ a, ¬ LatestSet r.pick calls a) → r.read (replay calls) = r.blank) := by
  induction calls using List.reverseRecOn with
  | nil => exact ⟨fun a h => absurd h (latestSet_nil a), fun _ => r.read_empty⟩
  | append_singleton calls c ih =>
    rw [replay_append_singleton]
    cases hc : r.pick c with
    | some a₀ =>
      -- the last call sets the register, so it is the latest setting call
      have hlatest : ∀ a, LatestSet r.pick (calls ++ [c]) a ↔ a₀ = a := by
        intro a
        rw [latestSet_append_singleton, hc]
        simp
      refine ⟨fun a ha => ?_, fun hnone => absurd ((hlatest a₀).mpr rfl) (hnone a₀)⟩
      rw [r.read_set _ _ _ hc, (hlatest a).mp ha]
    | none =>
      by_cases hclear : c = .clear
      · -- a clear at the end leaves no setting call standing
        subst hclear
        refine ⟨fun a ha => ?_, fun _ => r.read_empty⟩
        rw [latestSet_append_singleton, hc] at ha
        simp at ha
      · have hlatest : ∀ a, LatestSet r.pick (calls ++ [c]) a ↔ LatestSet r.pick calls a := by
          intro a
          rw [latestSet_append_singleton, hc]
          simp [hclear]
        rw [r.read_keep _ _ hc hclear]
        exact ⟨fun a ha => ih.1 a ((hlatest a).mp ha),
          fun hnone => ih.2 fun a ha => hnone a ((hlatest a).mpr ha)⟩

/-- What a register reads after a history is `put a` exactly when `a` was set last, for an
injective `put` whose values differ from the blank one. -/
theorem Register.read_replay_eq_put (r : Register β α) (hput : ∀ a b, r.put a = r.put b → a = b)
    (hblank : ∀ a, r.put a ≠ r.blank) (calls : List Call) (a : α) :
    r.read (replay calls) = r.put a ↔ LatestSet r.pick calls a := by
  obtain ⟨hset, hnone⟩ := r.read_replay calls
  constructor
  · intro h
    by_cases hsome : ∃ b, LatestSet r.pick calls b
    · obtain ⟨b, hb⟩ := hsome
      rwa [hput a b (h.symm.trans (hset b hb))]
    · exact absurd (h.symm.trans (hnone fun b hb => hsome ⟨b, hb⟩)) (hblank a)
  · exact hset a

/-- The namespaces of a store. -/
def namespacesRegister : Register (List String) (List String) where
  read := Store.namespaces
  pick := Call.namespaces?
  put := id
  blank := []
  read_empty := rfl
  pick_clear := rfl
  read_set := by
    intro s c a h
    cases c with
    | setNamespaces namespaces => exact Option.some.inj h
    | _ => exact nomatch h
  read_keep := by
    intro s c h hclear
    cases c with
    | setNamespaces namespaces => exact nomatch h
    | clear => exact absurd rfl hclear
    | _ => rfl

/-- The kinds of a store. -/
def kindsRegister : Register (List String) (List String) where
  read := Store.kinds
  pick := Call.kinds?
  put := id
  blank := []
  read_empty := rfl
  pick_clear := rfl
  read_set := by
    intro s c a h
    cases c with
    | setKinds kinds => exact Option.some.inj h
    | _ => exact nomatch h
  read_keep := by
    intro s c h hclear
    cases c with
    | setKinds kinds => exact nomatch h
    | clear => exact absurd rfl hclear
    | _ => rfl

/-- The names of a store filed under one key. -/
def namesRegister (key : String) : Register (Option (List String)) (List String) where
  read s := s.names.get? key
  pick := Call.namesAt? key
  put := some
  blank := none
  read_empty := rfl
  pick_clear := rfl
  read_set := by
    intro s c a h
    cases c with
    | setNames kind ns names =>
      simp only [Call.namesAt?] at h
      split at h
      · next hkey =>
        cases h
        exact (OrderedMap.get?_insert s.names _ key _).trans (if_pos hkey.symm)
      · exact nomatch h
    | _ => exact nomatch h
  read_keep := by
    intro s c h hclear
    cases c with
    | setNames kind ns names =>
      simp only [Call.namesAt?] at h
      split at h
      · exact nomatch h
      · next hkey =>
        exact (OrderedMap.get?_insert s.names _ key _).trans (if_neg (Ne.symm hkey))
    | clear => exact absurd rfl hclear
    | _ => rfl

/-! ### The store law -/

/-- The names read for a kind and a namespace are those of the latest call that filed names
under the same joined text, when no clear came after it. -/
theorem names?_replay (calls : List Call) (kind ns : String) (names : List String) :
    (replay calls).names? kind ns = some names ↔
      LatestSet (Call.namesAt? (nameKey kind ns)) calls names :=
  (namesRegister (nameKey kind ns)).read_replay_eq_put (fun _ _ h => Option.some.inj h)
    (fun _ => Option.some_ne_none _) calls names

/-- **What a store answers after any history.** The names read for a kind and a namespace are
those of the latest call that filed names under the same joined text `kind.namespace`, when no
clear came after it, and none otherwise; names are said to be there exactly when some are read;
and the namespaces and kinds are those of the latest call that replaced them, when no clear came
after it, and empty otherwise. -/
theorem replay_reads (calls : List Call) (kind ns : String) :
    (∀ names, (replay calls).names? kind ns = some names ↔
        LatestSet (Call.namesAt? (nameKey kind ns)) calls names) ∧
      (replay calls).hasNames kind ns = ((replay calls).names? kind ns).isSome ∧
      (∀ l, LatestSet Call.namespaces? calls l → (replay calls).namespaces = l) ∧
      ((∀ l, ¬ LatestSet Call.namespaces? calls l) → (replay calls).namespaces = []) ∧
      (∀ l, LatestSet Call.kinds? calls l → (replay calls).kinds = l) ∧
      ((∀ l, ¬ LatestSet Call.kinds? calls l) → (replay calls).kinds = []) :=
  ⟨names?_replay calls kind ns, OrderedMap.contains_eq_isSome_get? _ _,
    namespacesRegister.read_replay calls |>.1, namespacesRegister.read_replay calls |>.2,
    kindsRegister.read_replay calls |>.1, kindsRegister.read_replay calls |>.2⟩

/-- Names given for the kind `a.b` in the namespace `c` are read back for the kind `a` in the
namespace `b.c`, for which no call gave any. -/
theorem names?_shared_key :
    (replay [.setNames "a.b" "c" ["x"]]).names? "a" "b.c" = some ["x"] ∧
      (replay [.setNames "a.b" "c" ["x"]]).hasNames "a" "b.c" = true := by
  decide

/-! ### Kinds without a dot -/

/-- Joined texts of kinds without a dot are equal only for equal pairs. -/
theorem nameKey_inj {kind kind' ns ns' : String} (hk : '.' ∉ kind.toList)
    (hk' : '.' ∉ kind'.toList) : nameKey kind ns = nameKey kind' ns' ↔ kind = kind' ∧ ns = ns' := by
  constructor
  · intro h
    have hdot : ".".toList = ['.'] := rfl
    have hcut := Text.cut_append hdot hk ns
    rw [← nameKey, h, nameKey, Text.cut_append hdot hk' ns'] at hcut
    obtain ⟨rfl, rfl⟩ := Prod.mk.inj (Option.some.inj hcut)
    exact ⟨rfl, rfl⟩
  · rintro ⟨rfl, rfl⟩
    rfl

/-- Where no kind holds a dot, the names read for a kind and a namespace are those of the latest
call for that very pair, when no clear came after it, and none otherwise. -/
theorem names?_replay_of_plain {calls : List Call} {kind ns : String} (hk : '.' ∉ kind.toList)
    (hcalls : ∀ kind' ns' names, Call.setNames kind' ns' names ∈ calls → '.' ∉ kind'.toList)
    (names : List String) :
    (replay calls).names? kind ns = some names ↔ LatestSet (Call.namesFor? kind ns) calls names := by
  -- on the calls of the history, filing under the joined text is filing for the pair
  have hpick : ∀ c ∈ calls, Call.namesAt? (nameKey kind ns) c = Call.namesFor? kind ns c := by
    intro c hc
    cases c with
    | setNames kind' ns' names' =>
      simp only [Call.namesAt?, Call.namesFor?, nameKey_inj (hcalls kind' ns' names' hc) hk]
    | _ => rfl
  rw [names?_replay]
  exact ⟨LatestSet.congr hpick, LatestSet.congr fun c hc => (hpick c hc).symm⟩

/-- Names given for `Pod` in `default` are read back for that pair after names for another
kind, which files them elsewhere. -/
theorem names?_replay_of_plain_pod :
    '.' ∉ "Pod".toList ∧
      (∀ kind' ns' names, Call.setNames kind' ns' names ∈
          [Call.setNames "Pod" "default" ["web"], .setNames "Svc" "default" ["db"]] →
        '.' ∉ kind'.toList) ∧
      (replay [.setNames "Pod" "default" ["web"], .setNames "Svc" "default" ["db"]]).names?
        "Pod" "default" = some ["web"] := by
  have hk : '.' ∉ "Pod".toList := by decide
  have hcalls : ∀ kind' ns' names, Call.setNames kind' ns' names ∈
      [Call.setNames "Pod" "default" ["web"], .setNames "Svc" "default" ["db"]] →
      '.' ∉ kind'.toList := by
    intro kind' ns' names h
    rcases List.mem_pair.mp h with h | h <;> cases h <;> decide
  -- the call for `Pod` is the latest one for that pair, with only the `Svc` call after it
  have hlatest : LatestSet (Call.namesFor? "Pod" "default")
      [.setNames "Pod" "default" ["web"], .setNames "Svc" "default" ["db"]] ["web"] :=
    ⟨[], _, [.setNames "Svc" "default" ["db"]], rfl, by decide, by decide⟩
  exact ⟨hk, hcalls, (names?_replay_of_plain hk hcalls ["web"]).mpr hlatest⟩

end Store

end FlowSelect
