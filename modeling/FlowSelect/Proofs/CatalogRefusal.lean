import FlowSelect.Catalog.Assemble
import FlowSelect.Proofs.LookupFaults
import Mathlib.Data.List.Nodup
import Mathlib.Data.List.Pairwise
/-! Which entries make a catalog, and which peers clash.

A catalog reads its entries in order: each step keeps a new definition and reads on, or refuses
the entry at hand. What it accepts and what it refuses are both said by how a list splits at
its first entry (`definitions_cons_iff`, `firstRefusal_cons_iff`), so a catalog is made exactly
when the entries are definitions with distinct ids (`ofEntries?_definitions`), and otherwise
refuses the first entry that is not a definition or repeats the id of an earlier definition,
with a fault that names that entry (`checkEntries_eq_error_iff`). So a catalog is refused
exactly when some entry offends the entries before it (`ofEntries?_refused_iff`).

Peers derived from bases have the ids `src_b`, `dst_b` and `b` for each base id `b`, in order.
The three ids of one base never meet; those of two bases meet exactly when the bases share an
id or one base id is the other's with `src_` or `dst_` in front (`peerIds_nodup_iff`). Where no
ids meet, the catalog finds each definition by its id, refuses every other id, and only the
definitions with a bare id, which match either side, need a split (`peers_catalog`,
`needsSplit_peer_iff`). -/
namespace FlowSelect

namespace Catalog

/-! ### Entries -/

/-- An entry refused after the entries `earlier`: something that is not a definition, or a
definition whose id an earlier definition has. -/
def Entry.Offends (earlier : List Entry) : Entry → Prop
  | .foreign _ => True
  | .definition d => ∃ d', Entry.definition d' ∈ earlier ∧ d'.id = d.id

/-- The fault `f` refuses the entry `e`, met after definitions with the ids `ids`, and names it:
by how it is shown when it is no definition, and by its id when that id is among `ids`. -/
def Entry.RefusedWith (ids : List String) (e : Entry) (f : Fault) : Prop :=
  (∃ shown, e = .foreign shown ∧ f = .badDefinition shown "not a FilterDefinition") ∨
    (∃ d, e = .definition d ∧ d.id ∈ ids ∧ f = .badDefinition d.id "duplicate filter id")

@[simp] theorem Entry.refusedWith_foreign {ids : List String} {shown : String} {f : Fault} :
    (Entry.foreign shown).RefusedWith ids f ↔ f = .badDefinition shown "not a FilterDefinition" := by
  simp [Entry.RefusedWith]

@[simp] theorem Entry.refusedWith_definition {ids : List String} {d : Definition} {f : Fault} :
    (Entry.definition d).RefusedWith ids f ↔
      d.id ∈ ids ∧ f = .badDefinition d.id "duplicate filter id" := by
  simp [Entry.RefusedWith]

theorem Entry.RefusedWith.mono {ids ids' : List String} {e : Entry} {f : Fault}
    (h : ∀ x ∈ ids, x ∈ ids') (he : e.RefusedWith ids f) : e.RefusedWith ids' f := by
  rcases he with ⟨shown, rfl, rfl⟩ | ⟨d, rfl, hd, rfl⟩
  · exact .inl ⟨shown, rfl, rfl⟩
  · exact .inr ⟨d, rfl, h _ hd, rfl⟩

/-- An entry is refused after definitions exactly when it offends them. -/
theorem Entry.offends_iff {ds : List Definition} {e : Entry} :
    e.Offends (ds.map .definition) ↔ ∃ f, e.RefusedWith (ds.map Definition.id) f := by
  cases e with
  | foreign shown => simp [Entry.Offends]
  | definition d => simp [Entry.Offends]

/-- Definitions read after the ids `seen`, split at the first: it is new, and the rest are
new after it too. -/
theorem fresh_cons_iff {seen : List String} {d : Definition} {ds : List Definition} :
    ((d :: ds).map Definition.id).Nodup ∧ (∀ d' ∈ d :: ds, d'.id ∉ seen) ↔
      d.id ∉ seen ∧ (ds.map Definition.id).Nodup ∧ ∀ d' ∈ ds, d'.id ∉ d.id :: seen := by
  rw [List.forall_mem_cons]
  simp only [List.map_cons, List.nodup_cons, List.mem_cons, List.mem_map, not_or, not_exists, not_and]
  constructor
  · rintro ⟨⟨hd, hn⟩, hs, hrest⟩
    exact ⟨hs, hn, fun d' hd' => ⟨fun he => hd d' hd' he, hrest d' hd'⟩⟩
  · rintro ⟨hs, hn, hrest⟩
    exact ⟨⟨fun d' hd' he => (hrest d' hd').1 he, hn⟩, hs, fun d' hd' => (hrest d' hd').2⟩

theorem mem_seen_cons_iff {seen : List String} {d : Definition} {ds : List Definition} {x : String} :
    x ∈ d.id :: seen ++ ds.map Definition.id ↔ x ∈ seen ++ (d :: ds).map Definition.id := by
  simp only [List.cons_append, List.mem_cons, List.mem_append, List.map_cons]
  tauto

/-- Entries that are new definitions after the ids `seen`, split at the first: it is a new
definition, and the rest are new definitions after its id too. -/
theorem definitions_cons_iff {seen : List String} {x : Entry} {rest : List Entry}
    {ds : List Definition} :
    (x :: rest = ds.map .definition ∧ (ds.map Definition.id).Nodup ∧ ∀ d ∈ ds, d.id ∉ seen) ↔
      ∃ d ds', x = .definition d ∧ ds = d :: ds' ∧ d.id ∉ seen ∧
        (rest = ds'.map .definition ∧ (ds'.map Definition.id).Nodup ∧
          ∀ d' ∈ ds', d'.id ∉ d.id :: seen) := by
  constructor
  · rintro ⟨heq, hfresh⟩
    cases ds with
    | nil => exact absurd heq (by simp)
    | cons d ds =>
      obtain ⟨rfl, rfl⟩ := List.cons.inj heq
      obtain ⟨hd, hn, hs⟩ := fresh_cons_iff.mp hfresh
      exact ⟨d, ds, rfl, rfl, hd, rfl, hn, hs⟩
  · rintro ⟨d, ds, rfl, rfl, hd, rfl, hn, hs⟩
    exact ⟨rfl, fresh_cons_iff.mpr ⟨hd, hn, hs⟩⟩

/-- The entries are read one by one: a catalog is made of them exactly when they are all
definitions, with distinct ids that no earlier entry had. -/
theorem checkEntries_eq_ok_iff {seen : List String} {es : List Entry} {ds : List Definition} :
    checkEntries seen es = .ok ds ↔
      es = ds.map .definition ∧ (ds.map Definition.id).Nodup ∧ ∀ d ∈ ds, d.id ∉ seen := by
  induction es generalizing seen ds with
  | nil => cases ds <;> simp [checkEntries]
  | cons x rest ih =>
    rw [definitions_cons_iff]
    cases x with
    | foreign shown => simp [checkEntries]
    | definition d =>
      by_cases hd : d.id ∈ seen
      · rw [checkEntries, if_pos (List.contains_iff_mem.mpr hd)]
        simp [hd]
      · rw [checkEntries, if_neg (by simpa using hd)]
        constructor
        · intro h
          obtain ⟨ds', h', rfl⟩ := Except.map_eq_ok h
          exact ⟨d, ds', rfl, rfl, hd, ih.mp h'⟩
        · rintro ⟨d', ds', he, rfl, -, hrest⟩
          cases he
          rw [ih.mpr hrest]
          rfl

/-- The first entry refused after the ids `seen` is `e`, with the fault `f`: before it stands a
run of definitions with distinct ids that `seen` does not hold. -/
def FirstRefusal (seen : List String) (es : List Entry) (f : Fault) : Prop :=
  ∃ (ds : List Definition) (e : Entry) (post : List Entry), es = ds.map .definition ++ e :: post ∧
    (ds.map Definition.id).Nodup ∧ (∀ d ∈ ds, d.id ∉ seen) ∧
    e.RefusedWith (seen ++ ds.map Definition.id) f

theorem not_firstRefusal_nil {seen : List String} {f : Fault} : ¬ FirstRefusal seen [] f := by
  rintro ⟨ds, e, post, h, -⟩
  exact absurd h.symm (by simp)

/-- The first refusal in a list is its first entry, refused at once, or lies in the rest, read
after a first entry that is a new definition. -/
theorem firstRefusal_cons_iff {seen : List String} {x : Entry} {rest : List Entry} {f : Fault} :
    FirstRefusal seen (x :: rest) f ↔
      x.RefusedWith seen f ∨ ∃ d, x = .definition d ∧ d.id ∉ seen ∧ FirstRefusal (d.id :: seen) rest f := by
  constructor
  · rintro ⟨ds, e, post, heq, hn, hs, hr⟩
    cases ds with
    | nil =>
      obtain ⟨rfl, rfl⟩ := List.cons.inj heq
      exact .inl (by simpa using hr)
    | cons d ds =>
      simp only [List.map_cons, List.cons_append, List.cons.injEq] at heq
      obtain ⟨rfl, rfl⟩ := heq
      obtain ⟨hd, hn', hs'⟩ := fresh_cons_iff.mp ⟨hn, hs⟩
      exact .inr ⟨d, rfl, hd, ds, e, post, rfl, hn', hs', hr.mono fun _ => mem_seen_cons_iff.mpr⟩
  · rintro (hr | ⟨d, rfl, hd, ds, e, post, rfl, hn, hs, hr⟩)
    · exact ⟨[], x, rest, rfl, List.nodup_nil, by simp, by simpa using hr⟩
    · obtain ⟨hn', hs'⟩ := fresh_cons_iff.mpr ⟨hd, hn, hs⟩
      exact ⟨d :: ds, e, post, rfl, hn', hs', hr.mono fun _ => mem_seen_cons_iff.mp⟩

/-- **The first offending entry is refused, and named.** Reading fails exactly at the first
entry that is no definition or repeats an id seen before it, with the fault that names it. -/
theorem checkEntries_eq_error_iff {seen : List String} {es : List Entry} {f : Fault} :
    checkEntries seen es = .error f ↔ FirstRefusal seen es f := by
  induction es generalizing seen with
  | nil => exact iff_of_false (by simp [checkEntries]) not_firstRefusal_nil
  | cons x rest ih =>
    rw [firstRefusal_cons_iff]
    cases x with
    | foreign shown =>
      rw [checkEntries]
      simp only [Except.error.injEq, Entry.refusedWith_foreign, reduceCtorEq, false_and,
        exists_false, or_false, eq_comm]
    | definition d =>
      by_cases hd : d.id ∈ seen
      · rw [checkEntries, if_pos (List.contains_iff_mem.mpr hd)]
        simp only [Except.error.injEq, Entry.refusedWith_definition, hd, true_and,
          Entry.definition.injEq, exists_eq_left', not_true_eq_false, false_and, or_false, eq_comm]
      · rw [checkEntries, if_neg (by simpa using hd), Except.map_eq_error, ih]
        simp only [Entry.refusedWith_definition, hd, false_and, Entry.definition.injEq,
          not_false_eq_true, true_and, exists_eq_left', false_or]

/-- A catalog is refused with the fault the check of its entries gives. -/
theorem ofEntries?_eq_error_iff_check {es : List Entry} {f : Fault} :
    ofEntries? es = .error f ↔ checkEntries [] es = .error f := by
  unfold ofEntries?
  split
  · next ds h => simp [h]
  · next f' h => simp [h]

/-- A catalog is made of the definitions the check of its entries gives. -/
theorem ofEntries?_eq_ok_iff_check {es : List Entry} {c : Catalog} :
    ofEntries? es = .ok c ↔ checkEntries [] es = .ok c.definitions := by
  obtain ⟨cs, hc⟩ := c
  unfold ofEntries?
  split
  · next ds h => simp [h]
  · next f h => simp [h]

/-- A catalog is refused exactly when a run of definitions with distinct ids is followed by an
entry that is no definition or repeats one of their ids; the fault names that entry. -/
theorem ofEntries?_eq_error_iff {es : List Entry} {f : Fault} :
    ofEntries? es = .error f ↔
      ∃ (ds : List Definition) (e : Entry) (post : List Entry), es = ds.map .definition ++ e :: post ∧
        (ds.map Definition.id).Nodup ∧ e.RefusedWith (ds.map Definition.id) f := by
  rw [ofEntries?_eq_error_iff_check, checkEntries_eq_error_iff, FirstRefusal]
  simp only [List.not_mem_nil, not_false_eq_true, implies_true, true_and, List.nil_append]

/-- In definitions with distinct ids, no entry offends those before it. -/
theorem not_offends_of_nodup {ds : List Definition} (hn : (ds.map Definition.id).Nodup)
    {pre post : List Entry} {e : Entry} (h : ds.map .definition = pre ++ e :: post) :
    ¬ e.Offends pre := by
  obtain ⟨l₁, l₂, rfl, rfl, h₂⟩ := List.map_eq_append_iff.mp h
  cases l₂ with
  | nil => exact absurd h₂ (by simp)
  | cons d l₂ =>
    obtain ⟨rfl, -⟩ := List.cons.inj h₂
    rintro ⟨d', hd', hid⟩
    obtain ⟨d'', hd'', he⟩ := List.mem_map.mp hd'
    cases he
    rw [List.map_append, List.map_cons, List.nodup_append] at hn
    exact hn.2.2 _ (List.mem_map_of_mem hd'') _ List.mem_cons_self hid

/-- Definitions with distinct ids make the catalog of exactly those definitions. -/
theorem ofEntries?_definitions {ds : List Definition} (hn : (ds.map Definition.id).Nodup) :
    ofEntries? (ds.map .definition) = .ok ⟨ds, hn⟩ :=
  ofEntries?_eq_ok_iff_check.mpr (checkEntries_eq_ok_iff.mpr ⟨rfl, hn, fun _ _ => List.not_mem_nil⟩)

/-- A catalog is made of entries exactly when they are its definitions. -/
theorem ofEntries?_eq_ok_iff {es : List Entry} {c : Catalog} :
    ofEntries? es = .ok c ↔ es = c.definitions.map .definition := by
  rw [ofEntries?_eq_ok_iff_check, checkEntries_eq_ok_iff]
  simp only [List.not_mem_nil, not_false_eq_true, implies_true, and_true]
  exact and_iff_left c.nodup

theorem Except.exists_error_iff {ε α : Type} {x : Except ε α} :
    (∃ e, x = .error e) ↔ ∀ a, x ≠ .ok a := by
  cases x <;> simp

/-- A catalog is refused exactly when some entry offends the entries before it. -/
theorem ofEntries?_refused_iff (es : List Entry) :
    (∃ f, ofEntries? es = .error f) ↔ ∃ pre e post, es = pre ++ e :: post ∧ e.Offends pre := by
  constructor
  · rintro ⟨f, hf⟩
    obtain ⟨ds, e, post, rfl, -, hr⟩ := ofEntries?_eq_error_iff.mp hf
    exact ⟨ds.map .definition, e, post, rfl, Entry.offends_iff.mpr ⟨f, hr⟩⟩
  · rintro ⟨pre, e, post, rfl, he⟩
    refine Except.exists_error_iff.mpr fun c hc => ?_
    exact not_offends_of_nodup c.nodup (ofEntries?_eq_ok_iff.mp hc).symm he

/-- Definitions make no catalog exactly when two share an id. -/
theorem ofEntries?_definitions_refused_iff (ds : List Definition) :
    (∃ f, ofEntries? (ds.map .definition) = .error f) ↔ ¬ (ds.map Definition.id).Nodup := by
  rw [Except.exists_error_iff]
  constructor
  · exact fun h hn => h _ (ofEntries?_definitions hn)
  · intro hn c hc
    have hds : ds = c.definitions :=
      (List.map_injective_iff.mpr fun _ _ h => Entry.definition.inj h) (ofEntries?_eq_ok_iff.mp hc)
    exact hn (hds ▸ c.nodup)

/-! ### Finding definitions by id -/

/-- A catalog finds exactly its definitions, each by its own id. -/
theorem get_eq_ok_iff {c : Catalog} {id : String} {d : Definition} :
    c.get id = .ok d ↔ d ∈ c.definitions ∧ d.id = id := by
  constructor
  · intro h
    cases hf : c.find? id with
    | none =>
      rw [get, hf] at h
      cases h
    | some d' =>
      rw [get, hf] at h
      cases h
      exact ⟨List.mem_of_find?_eq_some hf, by simpa using List.find?_some hf⟩
  · rintro ⟨hd, rfl⟩
    rw [get, find?_of_mem hd]

/-- An id no definition has is refused as unknown. -/
theorem get_of_not_mem {c : Catalog} {id : String} (h : id ∉ c.ids) :
    c.get id = .error (.unknownFilter id) := by
  have hf : c.find? id = none :=
    List.find?_eq_none.mpr fun d hd he => h (List.mem_map.mpr ⟨d, hd, by simpa using he⟩)
  rw [get, hf]

/-! ### Ids of peers -/

/-- A text with a non-empty text in front is another text. -/
theorem ne_append_self (x : String) {p : String} (hp : 0 < p.length) : x ≠ p ++ x := by
  intro h
  have hlen := congrArg String.length h
  rw [String.length_append] at hlen
  omega

theorem src_append_ne_dst_append (x y : String) : "src_" ++ x ≠ "dst_" ++ y := by
  intro h
  have h' := congrArg String.toList h
  rw [String.toList_append, String.toList_append, show "src_".toList = ['s', 'r', 'c', '_'] from rfl,
    show "dst_".toList = ['d', 's', 't', '_'] from rfl] at h'
  exact absurd (List.cons.inj h').1 (by decide)

/-- The three peer ids of a base are distinct. -/
theorem peerIds_nodup (x : String) : ["src_" ++ x, "dst_" ++ x, x].Nodup := by
  have hs := ne_append_self x (p := "src_") (by decide)
  have hd := ne_append_self x (p := "dst_") (by decide)
  simp only [List.nodup_cons, List.mem_cons, List.not_mem_nil, or_false, not_or, List.nodup_nil,
    not_false_eq_true, and_true]
  exact ⟨⟨src_append_ne_dst_append x x, Ne.symm hs⟩, Ne.symm hd⟩

/-- The peer ids of two bases are apart exactly when the base ids differ and neither is the
other's with `src_` or `dst_` in front. -/
theorem peerIds_disjoint_iff (x y : String) :
    List.Disjoint ["src_" ++ x, "dst_" ++ x, x] ["src_" ++ y, "dst_" ++ y, y] ↔
      x ≠ y ∧ ((x ≠ "src_" ++ y ∧ x ≠ "dst_" ++ y) ∧ (y ≠ "src_" ++ x ∧ y ≠ "dst_" ++ x)) := by
  simp only [List.disjoint_cons_left, List.disjoint_nil_left, List.mem_cons, List.not_mem_nil,
    or_false, not_or, String.append_right_inj, src_append_ne_dst_append,
    (src_append_ne_dst_append _ _).symm, not_false_eq_true, true_and, and_true]
  constructor
  · rintro ⟨⟨hxy, hsy⟩, ⟨-, hdy⟩, hs, hd, -⟩
    exact ⟨hxy, ⟨hs, hd⟩, Ne.symm hsy, Ne.symm hdy⟩
  · rintro ⟨hxy, ⟨hs, hd⟩, hsy, hdy⟩
    exact ⟨⟨hxy, Ne.symm hsy⟩, ⟨hxy, Ne.symm hdy⟩, hs, hd, hxy⟩

/-- **When peer ids clash.** The peer ids of bases with the ids `I` are distinct exactly when
the base ids are distinct and none is another's with `src_` or `dst_` in front. -/
theorem peerIds_nodup_iff (I : List String) :
    (I.flatMap fun x => ["src_" ++ x, "dst_" ++ x, x]).Nodup ↔
      I.Nodup ∧ ∀ x ∈ I, ∀ y ∈ I, x ≠ "src_" ++ y ∧ x ≠ "dst_" ++ y := by
  rw [List.nodup_flatMap]
  simp only [peerIds_nodup, implies_true, true_and]
  rw [List.Pairwise.iff fun x y => peerIds_disjoint_iff x y, List.pairwise_and_iff, ← List.Nodup]
  -- two bases in either order: the relation is symmetric, and holds of a base with itself
  have : Std.Symm fun x y : String =>
      (x ≠ "src_" ++ y ∧ x ≠ "dst_" ++ y) ∧ (y ≠ "src_" ++ x ∧ y ≠ "dst_" ++ x) :=
    ⟨fun _ _ h => ⟨h.2, h.1⟩⟩
  have hself : ∀ x : String, x ≠ "src_" ++ x ∧ x ≠ "dst_" ++ x :=
    fun x => ⟨ne_append_self x (by decide), ne_append_self x (by decide)⟩
  constructor
  · rintro ⟨hn, hp⟩
    exact ⟨hn, fun x hx y hy => (hp.forall_of_forall (fun x _ => ⟨hself x, hself x⟩) hx hy).1⟩
  · rintro ⟨hn, h⟩
    exact ⟨hn, List.pairwise_of_forall_mem_list fun x hx y hy => ⟨h x hx y hy, h y hy x hx⟩⟩

theorem ids_flatMap_peers (B : List (Definition × Mapping × Mapping)) :
    (B.flatMap fun b => peers b.1 b.2.1 b.2.2).map Definition.id =
      B.flatMap fun b => ["src_" ++ b.1.id, "dst_" ++ b.1.id, b.1.id] := by
  rw [List.map_flatMap]
  rfl

/-! ### Catalogs of peers -/

section Peers

variable (B : List (Definition × Mapping × Mapping))

theorem ids_flatMap_peers_eq :
    (B.flatMap fun b => peers b.1 b.2.1 b.2.2).map Definition.id =
      (B.map fun b => b.1.id).flatMap fun x => ["src_" ++ x, "dst_" ++ x, x] := by
  rw [ids_flatMap_peers, List.flatMap_map]

/-- Peers of bases make no catalog exactly when two bases share an id or one base id is
another's with `src_` or `dst_` in front. -/
theorem peers_refused_iff :
    (∃ f, ofEntries? ((B.flatMap fun b => peers b.1 b.2.1 b.2.2).map .definition) = .error f) ↔
      ¬ (B.map fun b => b.1.id).Nodup ∨
        ∃ b ∈ B, ∃ b' ∈ B, b.1.id = "src_" ++ b'.1.id ∨ b.1.id = "dst_" ++ b'.1.id := by
  rw [ofEntries?_definitions_refused_iff, ids_flatMap_peers_eq, peerIds_nodup_iff]
  simp only [List.forall_mem_map, not_and_or, not_forall, ne_eq, not_not, exists_prop]

variable {B}

theorem ids_flatMap_peers_nodup (hn : (B.map fun b => b.1.id).Nodup)
    (hp : ∀ b ∈ B, ∀ b' ∈ B, b.1.id ≠ "src_" ++ b'.1.id ∧ b.1.id ≠ "dst_" ++ b'.1.id) :
    ((B.flatMap fun b => peers b.1 b.2.1 b.2.2).map Definition.id).Nodup := by
  rw [ids_flatMap_peers_eq, peerIds_nodup_iff]
  simp only [List.forall_mem_map]
  exact ⟨hn, hp⟩

/-- Where no peer ids clash, the peers make the catalog of exactly those definitions. -/
theorem peers_catalog (hn : (B.map fun b => b.1.id).Nodup)
    (hp : ∀ b ∈ B, ∀ b' ∈ B, b.1.id ≠ "src_" ++ b'.1.id ∧ b.1.id ≠ "dst_" ++ b'.1.id) :
    ofEntries? ((B.flatMap fun b => peers b.1 b.2.1 b.2.2).map .definition) =
      .ok ⟨B.flatMap fun b => peers b.1 b.2.1 b.2.2, ids_flatMap_peers_nodup hn hp⟩ :=
  ofEntries?_definitions (ids_flatMap_peers_nodup hn hp)

/-- Where no peer ids clash, a peer needs a split exactly when its id is a bare base id: the
source and destination peers match one side, and their ids are no base id. -/
theorem needsSplit_peer_iff
    (hp : ∀ b ∈ B, ∀ b' ∈ B, b.1.id ≠ "src_" ++ b'.1.id ∧ b.1.id ≠ "dst_" ++ b'.1.id)
    {d : Definition} (hd : d ∈ B.flatMap fun b => peers b.1 b.2.1 b.2.2) :
    d.needsSplit = true ↔ d.id ∈ B.map fun b => b.1.id := by
  obtain ⟨b, hb, hdb⟩ := List.mem_flatMap.mp hd
  simp only [peers, List.mem_cons, List.not_mem_nil, or_false] at hdb
  rcases hdb with rfl | rfl | rfl
  · simp only [Definition.needsSplit, Bool.false_eq_true, false_iff, List.mem_map, not_exists,
      not_and]
    exact fun b' hb' he => (hp b' hb' b hb).1 he
  · simp only [Definition.needsSplit, Bool.false_eq_true, false_iff, List.mem_map, not_exists,
      not_and]
    exact fun b' hb' he => (hp b' hb' b hb).2 he
  · simp only [Definition.needsSplit, true_iff]
    exact List.mem_map_of_mem hb

end Peers

/-- **A catalog refuses exactly the clashes of ids.** Entries are refused exactly when some
entry is no definition or repeats the id of an earlier one, and the fault names the first such
entry. Peers of bases are therefore refused exactly when two bases share an id or a base id is
another's with `src_` or `dst_` in front. Otherwise their catalog has the ids `src_b`, `dst_b`
and `b` for each base in order, finds each definition by its id and refuses every other id as
unknown, and only the definitions with a bare id need a split. -/
theorem refusal_exactly_on_clashes :
    (∀ es : List Entry,
        (∃ f, ofEntries? es = .error f) ↔ ∃ pre e post, es = pre ++ e :: post ∧ e.Offends pre) ∧
      (∀ (es : List Entry) (f : Fault), ofEntries? es = .error f ↔
        ∃ (ds : List Definition) (e : Entry) (post : List Entry),
          es = ds.map .definition ++ e :: post ∧ (ds.map Definition.id).Nodup ∧
          e.RefusedWith (ds.map Definition.id) f) ∧
      ∀ B : List (Definition × Mapping × Mapping),
        ((∃ f, ofEntries? ((B.flatMap fun b => peers b.1 b.2.1 b.2.2).map .definition) = .error f) ↔
          ¬ (B.map fun b => b.1.id).Nodup ∨
            ∃ b ∈ B, ∃ b' ∈ B, b.1.id = "src_" ++ b'.1.id ∨ b.1.id = "dst_" ++ b'.1.id) ∧
        ((B.map fun b => b.1.id).Nodup →
          (∀ b ∈ B, ∀ b' ∈ B, b.1.id ≠ "src_" ++ b'.1.id ∧ b.1.id ≠ "dst_" ++ b'.1.id) →
          ∃ c, ofEntries? ((B.flatMap fun b => peers b.1 b.2.1 b.2.2).map .definition) = .ok c ∧
            c.ids = (B.flatMap fun b => ["src_" ++ b.1.id, "dst_" ++ b.1.id, b.1.id]) ∧
            (∀ id d, c.get id = .ok d ↔ d ∈ c.definitions ∧ d.id = id) ∧
            (∀ id, id ∉ c.ids → c.get id = .error (.unknownFilter id)) ∧
            ∀ d ∈ c.definitions, d.needsSplit = true ↔ d.id ∈ B.map fun b => b.1.id) := by
  exact ⟨ofEntries?_refused_iff, fun _ _ => ofEntries?_eq_error_iff, fun B => ⟨peers_refused_iff B,
    fun hn hp => ⟨_, peers_catalog hn hp, ids_flatMap_peers B, fun _ _ => get_eq_ok_iff,
      fun _ => get_of_not_mem, fun _ => needsSplit_peer_iff hp⟩⟩⟩

/-- The peers of one base `zone` make a catalog with the ids `src_zone`, `dst_zone` and
`zone`. -/
theorem refusal_exactly_on_clashes_zone :
    ([(Definition.bare "zone" (.always (.field "Zone")), Mapping.field "SrcZone",
        Mapping.field "DstZone")].map fun b => b.1.id).Nodup ∧
      (∀ b ∈ [(Definition.bare "zone" (.always (.field "Zone")), Mapping.field "SrcZone",
          Mapping.field "DstZone")],
        ∀ b' ∈ [(Definition.bare "zone" (.always (.field "Zone")), Mapping.field "SrcZone",
          Mapping.field "DstZone")],
          b.1.id ≠ "src_" ++ b'.1.id ∧ b.1.id ≠ "dst_" ++ b'.1.id) ∧
      ∃ c, ofEntries? (([(Definition.bare "zone" (.always (.field "Zone")), Mapping.field "SrcZone",
          Mapping.field "DstZone")].flatMap fun b => peers b.1 b.2.1 b.2.2).map .definition) = .ok c ∧
        c.ids = ["src_zone", "dst_zone", "zone"] := by
  have hn : ([(Definition.bare "zone" (.always (.field "Zone")), Mapping.field "SrcZone",
      Mapping.field "DstZone")].map fun b => b.1.id).Nodup := by decide
  have hp : ∀ b ∈ [(Definition.bare "zone" (.always (.field "Zone")), Mapping.field "SrcZone",
        Mapping.field "DstZone")],
      ∀ b' ∈ [(Definition.bare "zone" (.always (.field "Zone")), Mapping.field "SrcZone",
        Mapping.field "DstZone")],
        b.1.id ≠ "src_" ++ b'.1.id ∧ b.1.id ≠ "dst_" ++ b'.1.id := by decide
  obtain ⟨c, hc, hids, -⟩ := (refusal_exactly_on_clashes.2.2 _).2 hn hp
  exact ⟨hn, hp, c, hc, hids⟩

end Catalog

end FlowSelect
