import FlowSelect.Proofs.FragmentRoundTrip
/-! The fragment reader reads exactly the fragment grammar.

A text the grammar derives (`Derivation`) reads as one group per `|`-separated part, in order,
each built by adding its constraints' entries one after another, so that a key repeated in a
group gathers the values of all its constraints (`readGroups_yield`). Conversely, every text the
reader accepts is one the grammar derives (`readGroups_eq_some`): the pieces between `|`, `&` and
`,`, with the field characters up to the operator, are the parts of a derivation of it.

`read_follows_grammar`: a percent-encoded fragment whose decoded, trimmed text is empty reads as
no groups; one whose text the grammar derives reads as the groups of that derivation; any other
is refused with `Fault.unreadableFragment`, which carries the decoded, trimmed text. -/
namespace FlowSelect.Fragment

/-- What a derivation means: for each group, its clauses' entries added in order. -/
def Derivation.built (d : Derivation) : List Group :=
  d.groups.map fun grp => Group.empty.addAll (grp.map Clause.entry)

/-! ### Reading a derived text -/

theorem readGroups_yield {d : Derivation} (hd : d.derivable = true) :
    readGroups d.yield.toList = some d.built := by
  rw [Derivation.yield_eq, readGroups_writeEntries (by simpa using d.groups_ne_nil hd)
    (Derivation.entries_readable hd), List.map_map]
  rfl

/-- The grammar gives one meaning to a text, however it is derived. -/
theorem Derivation.built_eq_of_yield_eq {d d' : Derivation} (hd : d.derivable = true)
    (hd' : d'.derivable = true) (h : d.yield = d'.yield) : d.built = d'.built := by
  have hread := readGroups_yield hd
  rw [h, readGroups_yield hd'] at hread
  exact (Option.some.inj hread).symm

/-- A derived text is never empty: it starts with a field character. -/
theorem Derivation.yield_isEmpty {d : Derivation} (hd : d.derivable = true) :
    d.yield.isEmpty = false := by
  obtain ⟨grp, rest, hgroups⟩ := List.exists_cons_of_ne_nil (d.groups_ne_nil hd)
  have hfirst := Derivation.entries_readable hd (grp.map Clause.entry) (by simp [hgroups])
  obtain ⟨c, cs, hcs, -⟩ : ∃ c cs,
      (writeEntries (grp.map Clause.entry :: rest.map (·.map Clause.entry))).toList = c :: cs ∧
        isFieldChar c = true :=
    writeEntries_head hfirst.1 hfirst.2
  rw [Derivation.yield_eq, hgroups, List.map_cons]
  simp [← String.toList_inj, hcs]

/-! ### What the reader accepts is derived -/

/-- Values related to the pieces of a list by a partial function that succeeds on all of them
can be chosen, one per piece, when each success comes from such a value. -/
theorem exists_map_of_mapM_eq_some {α β γ : Type} {f : α → Option β} {g : γ → α}
    {P : γ → Prop} (hf : ∀ x y, f x = some y → ∃ z, P z ∧ g z = x) {xs : List α}
    {ys : List β} (h : xs.mapM f = some ys) : ∃ zs : List γ, (∀ z ∈ zs, P z) ∧ zs.map g = xs := by
  induction xs generalizing ys with
  | nil => exact ⟨[], by simp, rfl⟩
  | cons x xs ih =>
    simp only [List.mapM_cons, Option.bind_eq_bind, Option.bind_eq_some_iff, Option.pure_def,
      Option.some.injEq] at h
    obtain ⟨y, hy, ys', hys', -⟩ := h
    obtain ⟨z, hz, rfl⟩ := hf x y hy
    obtain ⟨zs, hzs, rfl⟩ := ih hys'
    exact ⟨z :: zs, List.forall_mem_cons.mpr ⟨hz, hzs⟩, rfl⟩

/-- Joining the pieces of a text cut at a separator gives the text back. -/
theorem toList_joinWith_of_splitOn {sep : String} {c : Char} (hsep : sep.toList = [c])
    {xs : List String} {cs : List Char} (h : xs.map String.toList = cs.splitOn c) :
    (Text.joinWith sep xs).toList = cs := by
  rw [Text.toList_joinWith hsep, h, List.intercalate_splitOn]

/-- A constraint the reader accepts is the text of a derivable clause, read as its entry. -/
theorem readConstraint_eq_some {cs : List Char} {e : String × List String}
    (h : readConstraint cs = some e) :
    ∃ c : Clause, c.derivable = true ∧ c.text.toList = cs ∧ c.entry = e := by
  simp only [readConstraint] at h
  split at h
  · cases h
  rename_i hfield
  obtain ⟨⟨negated, vs⟩, hop, h⟩ := Option.bind_eq_some_iff.mp h
  -- the operator is the first thing after the field characters
  have hrest : cs.dropWhile isFieldChar = (if negated then "!=" else "=").toList ++ vs := by
    split at hop <;> simp_all
  split at h
  · rename_i hvalues
    cases h
    refine ⟨⟨String.ofList (cs.takeWhile isFieldChar), negated, (vs.splitOn ',').map String.ofList⟩,
      ?derivable, ?text, rfl⟩
    case derivable =>
      have hne : cs.takeWhile isFieldChar ≠ [] := by simpa using hfield
      simp only [List.all_eq_true] at hvalues
      simpa [Clause.derivable, isValue, ← String.toList_inj, hne, List.all_takeWhile,
        List.splitOn_ne_nil] using hvalues
    case text =>
      have hvs : (Text.joinWith "," ((vs.splitOn ',').map String.ofList)).toList = vs :=
        toList_joinWith_of_splitOn (show ",".toList = [','] from rfl) (by simp [List.map_map])
      rw [Clause.text, String.toList_append, String.toList_append, hvs, String.toList_ofList,
        List.append_assoc, ← hrest, List.takeWhile_append_dropWhile]
  · cases h

/-- A group the reader accepts is a nonempty run of derivable clauses joined by `&`. -/
theorem readGroup_eq_some {cs : List Char} {g : Group} (h : readGroup cs = some g) :
    ∃ grp : List Clause, (grp ≠ [] ∧ ∀ c ∈ grp, c.derivable = true) ∧
      (Text.joinWith "&" (grp.map Clause.text)).toList = cs := by
  obtain ⟨entries, hentries, -⟩ := Option.map_eq_some_iff.mp h
  have hclause : ∀ x e, readConstraint x = some e →
      ∃ c : Clause, c.derivable = true ∧ c.text.toList = x := by
    intro x e hx
    obtain ⟨c, hc, htext, -⟩ := readConstraint_eq_some hx
    exact ⟨c, hc, htext⟩
  obtain ⟨grp, hgrp, hmap⟩ := exists_map_of_mapM_eq_some hclause hentries
  refine ⟨grp, ⟨?_, hgrp⟩, toList_joinWith_of_splitOn (show "&".toList = ['&'] from rfl) ?_⟩
  · rintro rfl
    exact List.splitOn_ne_nil _ _ hmap.symm
  · rw [List.map_map]
    exact hmap

/-- A text the reader accepts is derived by the grammar. -/
theorem readGroups_eq_some {cs : List Char} {gs : List Group} (h : readGroups cs = some gs) :
    ∃ d : Derivation, d.derivable = true ∧ d.yield.toList = cs := by
  obtain ⟨grps, hgrps, hmap⟩ := exists_map_of_mapM_eq_some (fun _ _ hg => readGroup_eq_some hg) h
  have hne : grps ≠ [] := by
    rintro rfl
    exact List.splitOn_ne_nil _ _ hmap.symm
  refine ⟨⟨grps⟩, ?_, toList_joinWith_of_splitOn (show "|".toList = ['|'] from rfl) ?_⟩
  · simp only [Derivation.derivable, Bool.and_eq_true, Bool.not_eq_true',
      List.isEmpty_eq_false_iff, List.all_eq_true]
    exact ⟨hne, fun grp hgrp => ⟨by simpa using (hgrps grp hgrp).1, (hgrps grp hgrp).2⟩⟩
  · rw [List.map_map]
    exact hmap

/-! ### Reading fragments -/

theorem read_follows_grammar (s : String) :
    ((Text.trim (Text.Percent.decode s)).isEmpty = true → read s = .ok []) ∧
    (∀ d : Derivation, d.derivable = true → d.yield = Text.trim (Text.Percent.decode s) →
      read s = .ok d.built) ∧
    ((Text.trim (Text.Percent.decode s)).isEmpty = false →
      (¬∃ d : Derivation, d.derivable = true ∧ d.yield = Text.trim (Text.Percent.decode s)) →
      read s = .error (.unreadableFragment (Text.trim (Text.Percent.decode s)))) := by
  refine ⟨fun hempty => ?empty, fun d hd hyield => ?derived, fun hfull hnone => ?refused⟩
  case empty => simp only [read, hempty, if_true]
  case derived =>
    simp only [read, ← hyield, d.yield_isEmpty hd, readGroups_yield hd, Bool.false_eq_true,
      if_false]
  case refused =>
    simp only [read, hfull, Bool.false_eq_true, if_false]
    -- whatever the reader accepts has a derivation, and there is none
    cases hgs : readGroups (Text.trim (Text.Percent.decode s)).toList with
    | none => rfl
    | some gs =>
      obtain ⟨d, hd, hyield⟩ := readGroups_eq_some hgs
      exact absurd ⟨d, hd, String.toList_inj.mp hyield⟩ hnone

example : readGroups "a=1&a!=2&a=3|b=".toList =
    some [.ofList [("a", ["1", "3"]), ("a!", ["2"])], .ofList [("b", [""])]] := by decide

end FlowSelect.Fragment
