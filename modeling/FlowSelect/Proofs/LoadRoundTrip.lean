import FlowSelect.Filter.Load
import FlowSelect.Proofs.SettledValue
import FlowSelect.Catalog.Standard
/-! Loading filters, writing their link and loading it again.

A load reads the entries of a link, restores their values and normalizes them: each text is
checked by its definition's rule and a value is made from what the rule keeps
(`Definition.Makes`). A link of catalog filters with values that hold no link separator reads
back as the filters written, and its load makes the values of their texts
(`loadFilters_linkText_makes`). What a load with no error line keeps is such a filter, with
texts that are settled (`settled_of_loadFilters`), and settled texts make values of themselves.
So filters loaded with no error line load again from their link as the same definitions,
negations and texts (`loadFilters_reload`), provided every resource path kept has a kind that
capitalizes to itself; a kind such as `ß` capitalizes to `SS`, which is not its own
capitalization (`loadFilters_reload_sharp_s`). -/
namespace FlowSelect

/-! ### Pieces of a text -/

/-- A piece of a list cut at a separator holds no separator and only the list's elements. -/
theorem Text.of_mem_splitOn {α : Type} [BEq α] [LawfulBEq α] {a : α} :
    ∀ {xs l : List α}, l ∈ xs.splitOn a → a ∉ l ∧ ∀ x ∈ l, x ∈ xs
  | [], l, h => by
    rw [List.splitOn_nil, List.mem_singleton] at h
    subst h
    exact ⟨List.not_mem_nil, fun x hx => absurd hx List.not_mem_nil⟩
  | x :: xs, l, h => by
    rw [List.splitOn_cons_eq_if_modifyHead] at h
    split at h
    · rcases List.mem_cons.mp h with rfl | h
      · exact ⟨List.not_mem_nil, fun y hy => absurd hy List.not_mem_nil⟩
      · obtain ⟨hna, hsub⟩ := Text.of_mem_splitOn h
        exact ⟨hna, fun y hy => List.mem_cons_of_mem _ (hsub y hy)⟩
    · next hx =>
      obtain ⟨p, ps, hps⟩ := List.exists_cons_of_ne_nil (List.splitOn_ne_nil a xs)
      rw [hps, List.modifyHead_cons] at h
      have hp := Text.of_mem_splitOn (hps ▸ List.mem_cons_self : p ∈ xs.splitOn a)
      rcases List.mem_cons.mp h with rfl | h
      · refine ⟨?_, ?_⟩
        · rw [List.mem_cons, not_or]
          exact ⟨fun he => hx (he ▸ beq_self_eq_true a), hp.1⟩
        · intro y hy
          rcases List.mem_cons.mp hy with rfl | hy
          · exact List.mem_cons_self
          · exact List.mem_cons_of_mem _ (hp.2 y hy)
      · obtain ⟨hna, hsub⟩ :=
          Text.of_mem_splitOn (hps ▸ List.mem_cons_of_mem _ h : l ∈ xs.splitOn a)
        exact ⟨hna, fun y hy => List.mem_cons_of_mem _ (hsub y hy)⟩

/-- A piece of a text cut at a separator holds no separator and only the text's characters. -/
theorem Text.of_mem_pieces {s x : String} {sep : Char} (h : x ∈ Text.pieces s sep) :
    sep ∉ x.toList ∧ ∀ c ∈ x.toList, c ∈ s.toList := by
  obtain ⟨l, hl, rfl⟩ := List.mem_map.mp h
  rw [String.toList_ofList]
  exact Text.of_mem_splitOn hl

theorem Text.pieces_ne_nil (s : String) (sep : Char) : Text.pieces s sep ≠ [] := by
  rw [Text.pieces, Ne, List.map_eq_nil_iff]
  exact List.splitOn_ne_nil sep s.toList

/-! ### Runs over lists -/

section Runs
variable {α β ε : Type}

/-- A run over a list succeeds exactly when every step succeeds, giving the results in order. -/
theorem mapM_eq_ok_iff {g : α → Except ε β} {xs : List α} {ys : List β} :
    xs.mapM g = .ok ys ↔ List.Forall₂ (fun x y => g x = .ok y) xs ys := by
  induction xs generalizing ys with
  | nil =>
    cases ys with
    | nil => exact ⟨fun _ => .nil, fun _ => rfl⟩
    | cons y ys => exact ⟨(fun h => nomatch h), (fun h => nomatch h)⟩
  | cons x xs ih =>
    rw [List.mapM_cons]
    constructor
    · intro h
      obtain ⟨y, hy, h⟩ := Except.bind_eq_ok h
      obtain ⟨ys', hys', h⟩ := Except.bind_eq_ok h
      cases h
      exact .cons hy (ih.mp hys')
    · rintro (_ | ⟨hy, hys⟩)
      rw [hy, ih.mpr hys]
      rfl

/-- A run over a list succeeds when every step does, each result related to its element. -/
theorem exists_mapM_eq_ok {g : α → Except ε β} {R : α → β → Prop} {xs : List α}
    (h : ∀ x ∈ xs, ∃ y, g x = .ok y ∧ R x y) :
    ∃ ys, xs.mapM g = .ok ys ∧ List.Forall₂ R xs ys := by
  induction xs with
  | nil => exact ⟨[], rfl, .nil⟩
  | cons x xs ih =>
    obtain ⟨y, hy, hr⟩ := h x List.mem_cons_self
    obtain ⟨ys, hys, hrs⟩ := ih fun x' hx' => h x' (List.mem_cons_of_mem _ hx')
    refine ⟨y :: ys, ?_, .cons hr hrs⟩
    rw [List.mapM_cons, hy, hys]
    rfl

/-- Something related to every element of a list's partner comes from one of them. -/
theorem exists_of_forall₂_of_mem {R : α → β → Prop} {xs : List α} {ys : List β}
    (h : List.Forall₂ R xs ys) {y : β} (hy : y ∈ ys) : ∃ x ∈ xs, R x y := by
  induction h with
  | nil => exact absurd hy List.not_mem_nil
  | @cons x y' xs ys hxy _ ih =>
    rcases List.mem_cons.mp hy with rfl | hy
    · exact ⟨x, List.mem_cons_self, hxy⟩
    · obtain ⟨x', hx', hr⟩ := ih hy
      exact ⟨x', List.mem_cons_of_mem _ hx', hr⟩

/-- Two relations between three lists, one after the other, relate the first and the last. -/
theorem forall₂_trans {γ : Type} {R : α → β → Prop} {S : β → γ → Prop}
    {T : α → γ → Prop}
    (hRS : ∀ a b c, R a b → S b c → T a c) {xs : List α} {ys : List β} {zs : List γ}
    (h1 : List.Forall₂ R xs ys) (h2 : List.Forall₂ S ys zs) : List.Forall₂ T xs zs := by
  induction h1 generalizing zs with
  | nil =>
    cases h2
    exact .nil
  | cons hab _ ih =>
    cases h2 with
    | cons hbc h2 => exact .cons (hRS _ _ _ hab hbc) (ih h2)

theorem forall₂_singleton {R : α → β → Prop} {a : α} {ys : List β}
    (h : List.Forall₂ R [a] ys) : ∃ b, R a b ∧ ys = [b] := by
  obtain ⟨b, ys', hab, hrest, rfl⟩ := List.forall₂_cons_left_iff.mp h
  exact ⟨b, hab, by rw [List.forall₂_nil_left_iff.mp hrest]⟩

theorem map_eq_map_of_forall₂ {γ : Type} {j : α → γ} {k : β → γ} {xs : List α}
    {ys : List β}
    (h : List.Forall₂ (fun x y => j x = k y) xs ys) : xs.map j = ys.map k := by
  induction h with
  | nil => rfl
  | cons hxy _ ih => rw [List.map_cons, List.map_cons, hxy, ih]

/-- A list is the image of the list it is related to, element by element, through a function. -/
theorem map_eq_of_forall₂ {k : β → α} {xs : List α} {ys : List β}
    (h : List.Forall₂ (fun x y => x = k y) xs ys) : ys.map k = xs := by
  have hmap := map_eq_map_of_forall₂ (j := id) h
  rw [List.map_id] at hmap
  exact hmap.symm

end Runs

/-! ### Making values -/

/-- A value a definition makes from a typed text: the text is accepted, and the value is made
from what the rule keeps. -/
def Definition.Makes (d : Definition) (s : Store) (x : String) (u : Value) : Prop :=
  ∃ w, d.validate x = .valid w ∧ d.createValue s w = .ok u

theorem Except.eq_ok_of_toOption {ε α : Type} {x : Except ε α} {a : α}
    (h : x.toOption = some a) : x = .ok a := by
  cases x with
  | error e => exact nomatch h
  | ok b => exact congrArg Except.ok (Option.some.inj h)

theorem Definition.Makes.unique {d : Definition} {s : Store} {x : String} {u u' : Value}
    (h : d.Makes s x u) (h' : d.Makes s x u') : u = u' := by
  obtain ⟨w, hw, hu⟩ := h
  obtain ⟨w', hw', hu'⟩ := h'
  rw [hw, Verdict.valid.injEq] at hw'
  subst hw'
  exact Except.ok.inj (hu.symm.trans hu')

/-- A settled text makes a value of itself, and nothing else. -/
theorem Definition.Settled.text_of_makes {d : Definition} {s : Store} {x : String} {u : Value}
    (hx : d.Settled s x) (h : d.Makes s x u) : u.text = x := by
  obtain ⟨hvalid, u', hu', hut⟩ := hx
  rw [h.unique ⟨x, hvalid, hu'⟩, hut]

/-- One value checked by a definition, as a filter is normalized: the value made from its
accepted text, or the error line for its refusal. -/
def Definition.checkValue (d : Definition) (s : Store) (v : Value) :
    Except Fault (Option Value × List String) :=
  match d.validate v.text with
  | .invalid why => pure (none, [d.id ++ "=" ++ v.text ++ ": " ++ d.explain why])
  | .valid w => do
    let value ← d.createValue s w
    pure (some value, [])

/-- Normalizing a filter checks each of its values, keeps the values made and collects the error
lines. -/
theorem Filter.normalize_eq (s : Store) (f : Filter) :
    f.normalize s = (f.values.mapM (f.definition.checkValue s)).map fun checked =>
      ({ f with values := checked.filterMap (·.1) }, checked.flatMap (·.2)) := by
  unfold Filter.normalize Except.map
  rfl

theorem Definition.checkValue_of_makes {d : Definition} {s : Store} {v : Value} {u : Value}
    (h : d.Makes s v.text u) : d.checkValue s v = .ok (some u, []) := by
  obtain ⟨w, hw, hu⟩ := h
  rw [Definition.checkValue, hw]
  simp only [hu]
  rfl

/-- A check that gave no error line made a value from the text. -/
theorem Definition.checkValue_eq_ok {d : Definition} {s : Store} {v : Value}
    {c : Option Value × List String} (h : d.checkValue s v = .ok c) (hc : c.2 = []) :
    ∃ u, c = (some u, []) ∧ d.Makes s v.text u := by
  unfold Definition.checkValue at h
  split at h
  · cases h
    exact absurd hc (List.cons_ne_nil _ _)
  · next w hw =>
    obtain ⟨u, hu, h⟩ := Except.bind_eq_ok h
    exact ⟨u, (Except.ok.inj h).symm, w, hw, hu⟩

/-- Checks that each made a value keep those values, in order, with no error line. -/
theorem checks_made {d : Definition} {s : Store} {vs : List Value}
    {cs : List (Option Value × List String)}
    (h : List.Forall₂ (fun v c => ∃ u, c = (some u, []) ∧ d.Makes s v.text u) vs cs) :
    cs.flatMap (·.2) = [] ∧
      List.Forall₂ (fun v u => d.Makes s v.text u) vs (cs.filterMap (·.1)) := by
  induction h with
  | nil => exact ⟨rfl, .nil⟩
  | cons hvc _ ih =>
    obtain ⟨u, rfl, hu⟩ := hvc
    constructor
    · rw [List.flatMap_cons, ih.1]
      rfl
    · exact .cons hu ih.2

/-- A filter normalized with no error line keeps its definition and negation, and each of its
values is made from a text of the filter, in order. -/
theorem Filter.normalize_ok {s : Store} {f f' : Filter} {errs : List String}
    (h : f.normalize s = .ok (f', errs)) (herr : errs = []) :
    f'.definition = f.definition ∧ f'.negated = f.negated ∧
      List.Forall₂ (fun v u => f.definition.Makes s v.text u) f.values f'.values := by
  rw [Filter.normalize_eq] at h
  obtain ⟨checked, hchecked, hpure⟩ := Except.map_eq_ok h
  cases hpure
  refine ⟨rfl, rfl, ?_⟩
  have hall := mapM_eq_ok_iff.mp hchecked
  clear hchecked h
  generalize f.values = vs at hall ⊢
  -- every check gave a value and no error line
  induction hall with
  | nil => exact .nil
  | @cons v c vs cs hstep _ ih =>
    rw [List.flatMap_cons, List.append_eq_nil_iff] at herr
    obtain ⟨u, rfl, hu⟩ := Definition.checkValue_eq_ok hstep herr.1
    exact .cons hu (ih herr.2)

/-- A filter each text of which makes a value normalizes to those values, with no error line. -/
theorem Filter.normalize_makes {s : Store} {f : Filter}
    (h : ∀ v ∈ f.values, ∃ u, f.definition.Makes s v.text u) :
    ∃ f', f.normalize s = .ok (f', []) ∧ f'.definition = f.definition ∧
      f'.negated = f.negated ∧
      List.Forall₂ (fun v u => f.definition.Makes s v.text u) f.values f'.values := by
  obtain ⟨checked, hchecked, hrel⟩ := exists_mapM_eq_ok (g := f.definition.checkValue s)
    (R := fun v c => ∃ u, c = (some u, []) ∧ f.definition.Makes s v.text u) fun v hv => by
      obtain ⟨u, hu⟩ := h v hv
      exact ⟨_, Definition.checkValue_of_makes hu, u, rfl, hu⟩
  obtain ⟨herr, hmade⟩ := checks_made hrel
  refine ⟨{ f with values := checked.filterMap (·.1) }, ?_, rfl, rfl, hmade⟩
  rw [Filter.normalize_eq, hchecked, ← herr]
  rfl

/-- Filters normalized with no error line keep their definitions and negations, in order, and
each of their values is made from a text. -/
theorem normalizeFilters_ok {s : Store} {fs F : List Filter} {errs : List String}
    (h : normalizeFilters s fs = .ok (F, errs)) (herr : errs = []) :
    List.Forall₂ (fun f f' => f'.definition = f.definition ∧ f'.negated = f.negated ∧
      List.Forall₂ (fun v u => f.definition.Makes s v.text u) f.values f'.values) fs F := by
  unfold normalizeFilters at h
  obtain ⟨normalized, hnorm, hpure⟩ := Except.bind_eq_ok h
  clear h
  cases hpure
  have hall := mapM_eq_ok_iff.mp hnorm
  clear hnorm
  induction hall with
  | nil => exact .nil
  | @cons f p fs ps hstep _ ih =>
    rw [List.flatMap_cons, List.append_eq_nil_iff] at herr
    exact .cons (Filter.normalize_ok hstep herr.1) (ih herr.2)

/-- Filters each text of which makes a value normalize to those values, with no error line. -/
theorem normalizeFilters_makes {s : Store} {fs : List Filter}
    (h : ∀ f ∈ fs, ∀ v ∈ f.values, ∃ u, f.definition.Makes s v.text u) :
    ∃ F, normalizeFilters s fs = .ok (F, []) ∧
      List.Forall₂ (fun f f' => f'.definition = f.definition ∧ f'.negated = f.negated ∧
        List.Forall₂ (fun v u => f.definition.Makes s v.text u) f.values f'.values) fs F := by
  obtain ⟨normalized, hnorm, hrel⟩ := exists_mapM_eq_ok (g := Filter.normalize s)
    (R := fun f p => p.2 = [] ∧ p.1.definition = f.definition ∧ p.1.negated = f.negated ∧
      List.Forall₂ (fun v u => f.definition.Makes s v.text u) f.values p.1.values)
    fun f hf => by
      obtain ⟨f', hf', hrest⟩ := Filter.normalize_makes (h f hf)
      exact ⟨_, hf', rfl, hrest⟩
  have herr : normalized.flatMap (·.2) = [] := by
    refine List.flatMap_eq_nil_iff.mpr fun p hp => ?_
    obtain ⟨f, -, hfp⟩ := exists_of_forall₂_of_mem hrel hp
    exact hfp.1
  refine ⟨normalized.map (·.1), ?_,
    List.forall₂_map_right_iff.mpr (hrel.imp fun f p hfp => hfp.2)⟩
  rw [normalizeFilters, hnorm]
  show Except.ok (_, normalized.flatMap (·.2)) = _
  rw [herr]

/-! ### Reading a link -/

theorem Catalog.mem_of_find? {c : Catalog} {id : String} {d : Definition}
    (h : c.find? id = some d) : d ∈ c.definitions :=
  List.mem_of_find?_eq_some h

/-- An entry the catalog reads from a link names a catalog definition and has values, none of
which holds a link separator. -/
theorem of_mem_readLinkEntries {c : Catalog} {t : String} {e : Definition × Bool × List String}
    (he : e ∈ readLinkEntries c t) :
    e.1 ∈ c.definitions ∧ e.2.2 ≠ [] ∧ ∀ x ∈ e.2.2, Text.isUnseparated x = true := by
  unfold readLinkEntries at he
  split at he
  · exact absurd he List.not_mem_nil
  obtain ⟨entry, hentry, hread⟩ := List.mem_filterMap.mp he
  have hentry := Text.of_mem_pieces hentry
  unfold readLinkEntry at hread
  split at hread
  · next key values hkv =>
    have hvalues := Text.of_mem_pieces (hkv ▸ List.mem_cons_of_mem _ List.mem_cons_self :
      values ∈ Text.pieces entry '=')
    obtain ⟨d, hd, rfl⟩ := Option.map_eq_some_iff.mp hread
    refine ⟨Catalog.mem_of_find? hd, Text.pieces_ne_nil _ _, fun x hx => ?_⟩
    -- a value is cut at `,` from the values, which were cut at `=` from an entry cut at `;`
    have hx := Text.of_mem_pieces hx
    rw [Text.isUnseparated_iff_not_mem]
    exact ⟨hx.1, fun h => hentry.1 (hvalues.2 _ (hx.2 _ h)), fun h => hvalues.1 (hx.2 _ h)⟩
  · exact nomatch hread

/-- The filters of a link are catalog filters with values, none of which holds a link
separator. -/
theorem linkable_of_filtersOfLink {g : Glossary} {limit : Int} {s : Store} {t : String}
    {fs : List Filter} (h : filtersOfLink (Catalog.standard g limit) s t = .ok fs) :
    ∀ f ∈ fs, Linkable g limit f := by
  intro f hf
  obtain ⟨e, he, hef⟩ := exists_of_forall₂_of_mem (mapM_eq_ok_iff.mp h) hf
  obtain ⟨hd, hne, hsep⟩ := of_mem_readLinkEntries he
  obtain ⟨vs, hvs, hef⟩ := Except.bind_eq_ok hef
  cases hef
  -- restoring keeps every text
  have htexts : vs.map Value.text = e.2.2 :=
    map_eq_of_forall₂ ((mapM_eq_ok_iff.mp hvs).imp fun x v hv => by
      obtain ⟨a, -, rfl⟩ := Except.map_eq_ok hv
      rfl)
  refine ⟨hd, ?_, fun x hx => ?_⟩
  · rw [Filter.texts]
    dsimp only
    rw [htexts]
    exact hne
  · rw [Filter.texts] at hx
    dsimp only at hx
    rw [htexts] at hx
    exact Text.isUnseparated_iff_not_mem.mp (hsep x hx)

theorem Lookup.run_ok_of_ne_ports {l : Lookup} (hl : l ≠ .ports) (s : Store) (x : String) :
    ∃ os, l.run s x = .ok os := by
  cases l
  case ports => exact absurd rfl hl
  all_goals exact ⟨_, rfl⟩

/-- A text that makes a value is restored as itself: only a port numeral can fail to be looked
up, and a port numeral is made into a value by being looked up. -/
theorem Definition.resolveValue_of_makes {g : Glossary} {limit : Int} {d : Definition}
    (hd : d ∈ (Catalog.standard g limit).definitions) {s : Store} {x : String} {u : Value}
    (h : d.Makes s x u) : ∃ v, d.resolveValue s x = .ok v ∧ v.text = x := by
  obtain ⟨w, hw, hu⟩ := h
  have hanswer : ∃ a, d.answer? s x = .ok a := by
    rcases Rule.check_cases hw with rfl | ⟨hr, -⟩ | ⟨hr, -⟩ | ⟨hr, -⟩
    · obtain ⟨a, ha, -⟩ := Except.map_eq_ok hu
      exact ⟨a, ha⟩
    all_goals
      obtain ⟨os, hos⟩ := Lookup.run_ok_of_ne_ports
        (fun hl => by simp [(Catalog.rule_of_lookup hd).1 hl] at hr) s x
      exact ⟨_, by rw [Definition.answer?, Definition.suggest, hos]; rfl⟩
  obtain ⟨a, ha⟩ := hanswer
  rw [Definition.resolveValue, ha]
  exact ⟨_, rfl, rfl⟩

/-- A link of linkable filters each text of which makes a value gives back their definitions,
negations and texts, in order. -/
theorem restore_linkText {g : Glossary} {limit : Int} (s : Store) {F : List Filter}
    (hF : ∀ f ∈ F, Linkable g limit f)
    (hmade : ∀ f ∈ F, ∀ x ∈ f.texts, ∃ u, f.definition.Makes s x u) :
    ∃ fs, filtersOfLink (Catalog.standard g limit) s (linkText F) = .ok fs ∧
      List.Forall₂ (fun f f2 => f2.definition = f.definition ∧ f2.negated = f.negated ∧
        f2.texts = f.texts) F fs := by
  have hread : ∃ fs, filtersOfLink (Catalog.standard g limit) s (linkText F) = .ok fs ∧
      List.Forall₂ (fun e f2 => f2.definition = e.1 ∧ f2.negated = e.2.1 ∧ f2.texts = e.2.2)
        (F.map fun f => (f.definition, f.negated, f.texts)) fs := by
    rw [filtersOfLink, readLinkEntries_linkText hF]
    refine exists_mapM_eq_ok fun e he => ?_
    obtain ⟨f, hf, rfl⟩ := List.mem_map.mp he
    obtain ⟨vs, hvs, htexts⟩ := exists_mapM_eq_ok (g := f.definition.resolveValue s)
      (R := fun x v => x = v.text) fun x hx => by
        obtain ⟨u, hu⟩ := hmade f hf x hx
        obtain ⟨v, hv, hvt⟩ := Definition.resolveValue_of_makes (hF f hf).catalog hu
        exact ⟨v, hv, hvt.symm⟩
    refine ⟨⟨f.definition, vs, f.negated⟩, ?_, rfl, rfl, ?_⟩
    · dsimp only
      rw [hvs]
      rfl
    · exact map_eq_of_forall₂ htexts
  obtain ⟨fs, hfs, hrel⟩ := hread
  exact ⟨fs, hfs, List.forall₂_map_left_iff.mp hrel⟩

/-! ### Loading -/

/-- A load reads the filters of the link, then normalizes them. -/
theorem loadFilters_ok {c : Catalog} {s : Store} {t : String} {L : Loaded}
    (h : loadFilters c s t = .ok L) :
    ∃ fs, filtersOfLink c s t = .ok fs ∧ normalizeFilters s fs = .ok (L.filters, L.errors) := by
  unfold loadFilters at h
  obtain ⟨fs, hfs, h⟩ := Except.bind_eq_ok h
  obtain ⟨p, hp, h⟩ := Except.bind_eq_ok h
  cases h
  exact ⟨fs, hfs, hp⟩

/-- **Loading a link makes its values.** A link of linkable filters each text of which makes a
value loads with no error line as those values, with the same definitions and negations, in
order. -/
theorem loadFilters_linkText_makes {g : Glossary} {limit : Int} (s : Store) {F : List Filter}
    (hF : ∀ f ∈ F, Linkable g limit f)
    (hmade : ∀ f ∈ F, ∀ x ∈ f.texts, ∃ u, f.definition.Makes s x u) :
    ∃ L, loadFilters (Catalog.standard g limit) s (linkText F) = .ok L ∧ L.errors = [] ∧
      List.Forall₂ (fun f f' => f'.definition = f.definition ∧ f'.negated = f.negated ∧
        List.Forall₂ (f.definition.Makes s) f.texts f'.values) F L.filters := by
  obtain ⟨fs, hfs, hrel⟩ := restore_linkText s hF hmade
  have hmade' : ∀ f2 ∈ fs, ∀ v ∈ f2.values, ∃ u, f2.definition.Makes s v.text u := by
    intro f2 hf2 v hv
    obtain ⟨f, hf, hdef, -, htexts⟩ := exists_of_forall₂_of_mem hrel hf2
    rw [hdef]
    exact hmade f hf v.text (htexts ▸ List.mem_map_of_mem hv)
  obtain ⟨F2, hnorm, hrel2⟩ := normalizeFilters_makes hmade'
  refine ⟨⟨F2, [], ignoredEntries (linkText F) fs⟩, ?_, rfl, ?_⟩
  · rw [loadFilters, hfs]
    show (normalizeFilters s fs >>= _) = _
    rw [hnorm]
    rfl
  · -- the restored filter has the texts written, and the loaded one the values made from them
    refine forall₂_trans (fun f f2 f' h1 h2 => ⟨h2.1.trans h1.1, h2.2.1.trans h1.2.1, ?_⟩)
      hrel hrel2
    rw [← h1.2.2, Filter.texts, List.forall₂_map_left_iff, ← h1.1]
    exact h2.2.2

/-- The link of one catalog filter with one value loads as the value its text makes. -/
theorem loadFilters_linkText_single {g : Glossary} {limit : Int} (s : Store) {d : Definition}
    (hd : d ∈ (Catalog.standard g limit).definitions) (negated : Bool) {v u : Value}
    (hv : Text.isUnseparated v.text = true) (hmakes : d.Makes s v.text u) :
    ∃ L, loadFilters (Catalog.standard g limit) s (linkText [⟨d, [v], negated⟩]) = .ok L ∧
      L.errors = [] ∧ L.filters = [⟨d, [u], negated⟩] := by
  have htexts : (Filter.mk d [v] negated).texts = [v.text] := rfl
  obtain ⟨L, hL, herr, hrel⟩ := loadFilters_linkText_makes (F := [⟨d, [v], negated⟩]) s
    (fun f hf => by
      rw [List.mem_singleton.mp hf]
      refine ⟨hd, by rw [htexts]; exact List.cons_ne_nil _ _, fun x hx => ?_⟩
      rw [htexts, List.mem_singleton] at hx
      rw [hx]
      exact Text.isUnseparated_iff_not_mem.mp hv)
    (fun f hf x hx => by
      rw [List.mem_singleton.mp hf] at hx ⊢
      rw [htexts, List.mem_singleton] at hx
      rw [hx]
      exact ⟨u, hmakes⟩)
  obtain ⟨f', ⟨hdef, hneg, hvals⟩, hfs⟩ := forall₂_singleton hrel
  obtain ⟨u', hu', hvs⟩ := forall₂_singleton hvals
  refine ⟨L, hL, herr, ?_⟩
  rw [hfs, hmakes.unique hu']
  cases f'
  dsimp only at hdef hneg hvs
  rw [hdef, hneg, hvs]

/-- What a load with no error line keeps: catalog filters with values that hold no link
separator, each text settled, provided a resource path's kind capitalizes to itself. -/
theorem settled_of_loadFilters {g : Glossary} {limit : Int} {s : Store} {t : String} {L : Loaded}
    (hL : loadFilters (Catalog.standard g limit) s t = .ok L) (herr : L.errors = [])
    (hkinds : ∀ f ∈ L.filters, f.definition.rule = .resource → ∀ x ∈ f.texts,
      capitalize (ResourcePath.ofText x).kind = (ResourcePath.ofText x).kind) :
    ∀ f ∈ L.filters, Linkable g limit f ∧ ∀ x ∈ f.texts, f.definition.Settled s x := by
  obtain ⟨fs, hfs, hnorm⟩ := loadFilters_ok hL
  intro f' hf'
  obtain ⟨f, hf, hdef, -, hvals⟩ :=
    exists_of_forall₂_of_mem (normalizeFilters_ok hnorm herr) hf'
  have hlink := linkable_of_filtersOfLink hfs f hf
  -- every kept text is made from a text of the filter read
  have hfrom : ∀ x ∈ f'.texts, ∃ v ∈ f.values, ∃ u, f.definition.Makes s v.text u ∧
      u.text = x := by
    intro x hx
    obtain ⟨u, hu, rfl⟩ := List.mem_map.mp hx
    obtain ⟨v, hv, hmakes⟩ := exists_of_forall₂_of_mem hvals hu
    exact ⟨v, hv, u, hmakes, rfl⟩
  refine ⟨⟨hdef ▸ hlink.catalog, ?_, fun x hx => ?_⟩, fun x hx => ?_⟩
  · have hlen : f'.texts.length = f.texts.length := by
      simp only [Filter.texts, List.length_map, hvals.length_eq]
    exact List.ne_nil_of_length_pos (hlen ▸ List.length_pos_of_ne_nil hlink.valued)
  · obtain ⟨v, hv, u, ⟨w, hw, hu⟩, rfl⟩ := hfrom x hx
    exact Text.isUnseparated_iff_not_mem.mp (Definition.isUnseparated_createValue hw hu
      (Text.isUnseparated_iff_not_mem.mpr (hlink.plain v.text (List.mem_map_of_mem hv))))
  · obtain ⟨v, hv, u, ⟨w, hw, hu⟩, rfl⟩ := hfrom x hx
    rw [hdef]
    exact Definition.settled_createValue hlink.catalog s hw hu
      (fun hr => hkinds f' hf' (hdef ▸ hr) u.text hx)

/-- Linkable filters whose texts are all settled load from their link as themselves, with no
error line. -/
theorem loadFilters_linkText_settled {g : Glossary} {limit : Int} (s : Store) {F : List Filter}
    (hF : ∀ f ∈ F, Linkable g limit f ∧ ∀ x ∈ f.texts, f.definition.Settled s x) :
    ∃ L, loadFilters (Catalog.standard g limit) s (linkText F) = .ok L ∧ L.errors = [] ∧
      L.filters.map (fun f => (f.definition, f.negated, f.texts)) =
        F.map (fun f => (f.definition, f.negated, f.texts)) := by
  obtain ⟨L, hL, herr, hrel⟩ := loadFilters_linkText_makes s (fun f hf => (hF f hf).1)
    fun f hf x hx => by
      obtain ⟨hvalid, u, hu, -⟩ := (hF f hf).2 x hx
      exact ⟨u, x, hvalid, hu⟩
  refine ⟨L, hL, herr, (map_eq_map_of_forall₂ ?_).symm⟩
  refine (List.forall₂_and_left _ _).mpr ⟨fun f hf => hF f hf, hrel⟩ |>.imp
    fun f f' ⟨hf, hdef, hneg, hmade⟩ => ?_
  -- a settled text makes a value of itself
  have htexts : f'.values.map Value.text = f.texts :=
    map_eq_of_forall₂ ((List.forall₂_and_left _ _).mpr ⟨hf.2, hmade⟩ |>.imp
      fun x u ⟨hx, hm⟩ => (hx.text_of_makes hm).symm)
  show (f.definition, f.negated, f.texts) = (f'.definition, f'.negated, f'.values.map Value.text)
  rw [hdef, hneg, htexts]

/-- **A load reloads through its link.** Filters loaded from any text with no error line load
again from their link with no error line, as the same definitions, negations and texts, in
order, provided every resource path kept has a kind that capitalizes to itself. -/
theorem loadFilters_reload {g : Glossary} {limit : Int} (s : Store) {t : String} {L : Loaded}
    (hL : loadFilters (Catalog.standard g limit) s t = .ok L) (herr : L.errors = [])
    (hkinds : ∀ f ∈ L.filters, f.definition.rule = .resource → ∀ x ∈ f.texts,
      capitalize (ResourcePath.ofText x).kind = (ResourcePath.ofText x).kind) :
    ∃ L2, loadFilters (Catalog.standard g limit) s (linkText L.filters) = .ok L2 ∧
      L2.errors = [] ∧
      L2.filters.map (fun f => (f.definition, f.negated, f.texts)) =
        L.filters.map (fun f => (f.definition, f.negated, f.texts)) :=
  loadFilters_linkText_settled s (settled_of_loadFilters hL herr hkinds)

/-- A resource path typed with its kind in lower case: the first load capitalizes the kind, and
the link of what it keeps loads again as the same. -/
theorem loadFilters_reload_pod :
    ∃ L, loadFilters (Catalog.standard Glossary.plain defaultLimit) Store.empty
        (linkText [⟨(Catalog.standard Glossary.plain defaultLimit).definitions[11],
          [⟨"pod.default.web", none⟩], false⟩]) = .ok L ∧ L.errors = [] ∧
      (∀ f ∈ L.filters, f.definition.rule = .resource → ∀ x ∈ f.texts,
        capitalize (ResourcePath.ofText x).kind = (ResourcePath.ofText x).kind) ∧
      L.filters.map Filter.texts = [["Pod.default.web"]] ∧
      ∃ L2, loadFilters (Catalog.standard Glossary.plain defaultLimit) Store.empty
          (linkText L.filters) = .ok L2 ∧ L2.errors = [] ∧
        L2.filters.map (fun f => (f.definition, f.negated, f.texts)) =
          L.filters.map (fun f => (f.definition, f.negated, f.texts)) := by
  have hmakes : (Catalog.standard Glossary.plain defaultLimit).definitions[11].Makes Store.empty
      "pod.default.web" ⟨"Pod.default.web", none⟩ :=
    ⟨"Pod.default.web", by decide +kernel, Except.eq_ok_of_toOption (by decide +kernel)⟩
  obtain ⟨L, hL, herr, hfs⟩ :=
    loadFilters_linkText_single Store.empty (List.getElem_mem _) false
    (v := ⟨"pod.default.web", none⟩) (by decide +kernel) hmakes
  have hkinds : ∀ f ∈ L.filters, f.definition.rule = .resource → ∀ x ∈ f.texts,
      capitalize (ResourcePath.ofText x).kind = (ResourcePath.ofText x).kind := by
    intro f hf _ x hx
    rw [hfs, List.mem_singleton] at hf
    subst hf
    rw [List.mem_singleton.mp hx]
    decide +kernel
  exact ⟨L, hL, herr, hkinds, by rw [hfs]; rfl, loadFilters_reload Store.empty hL herr hkinds⟩

/-- A kind whose upper case has two letters is not its own capitalization: the sharp s
capitalizes to `SS`, and `SS` to `Ss`. So a path loaded with no error line loads from its link,
again with no error line, as another text. -/
theorem loadFilters_reload_sharp_s :
    ∃ L L2, loadFilters (Catalog.standard Glossary.plain defaultLimit) Store.empty
        (linkText [⟨(Catalog.standard Glossary.plain defaultLimit).definitions[11],
          [⟨"ß.default.x", none⟩], false⟩]) = .ok L ∧ L.errors = [] ∧
      loadFilters (Catalog.standard Glossary.plain defaultLimit) Store.empty
        (linkText L.filters) = .ok L2 ∧ L2.errors = [] ∧
      L.filters.map Filter.texts = [["SS.default.x"]] ∧
      L2.filters.map Filter.texts = [["Ss.default.x"]] := by
  have hmakes : (Catalog.standard Glossary.plain defaultLimit).definitions[11].Makes Store.empty
      "ß.default.x" ⟨"SS.default.x", none⟩ :=
    ⟨"SS.default.x", by decide +kernel, Except.eq_ok_of_toOption (by decide +kernel)⟩
  have hmakes' : (Catalog.standard Glossary.plain defaultLimit).definitions[11].Makes Store.empty
      "SS.default.x" ⟨"Ss.default.x", none⟩ :=
    ⟨"Ss.default.x", by decide +kernel, Except.eq_ok_of_toOption (by decide +kernel)⟩
  obtain ⟨L, hL, herr, hfs⟩ :=
    loadFilters_linkText_single Store.empty (List.getElem_mem _) false
    (v := ⟨"ß.default.x", none⟩) (by decide +kernel) hmakes
  obtain ⟨L2, hL2, herr2, hfs2⟩ := loadFilters_linkText_single Store.empty (List.getElem_mem _)
    false (v := ⟨"SS.default.x", none⟩) (by decide +kernel) hmakes'
  exact ⟨L, L2, hL, herr, hfs ▸ hL2, herr2, by rw [hfs]; rfl, by rw [hfs2]; rfl⟩

end FlowSelect
