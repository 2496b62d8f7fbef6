import FlowSelect.Fragment.Read
import FlowSelect.Proofs.GroupMerge
import FlowSelect.Proofs.TextRoundTrip
/-! Writing backend fragments and reading them back.

`encode_read_inverse`: writing groups and reading fragments undo each other on the texts both
agree on. Groups read back as themselves when each has an entry, its keys are field names
(followed by `!` when negated) and distinct, each key holds at least one value, no value holds
one of `, & | = !`, and the written text does not end in a blank, which reading trims
(`read_encodeGroups`). Conversely, a text the fragment grammar derives, with no key repeated in
a group and no blank at either end, is written back exactly as it was read
(`encodeGroups_read_derived`).

Both directions rest on `readGroups_joined`: a text written from readable entries is cut at the
separators exactly where the writer put them, and each piece reads back as its entry. -/
namespace FlowSelect.Fragment

/-! ### Characters -/

theorem toNat_of_isFieldChar {c : Char} (h : isFieldChar c = true) :
    (65 ≤ c.toNat ∧ c.toNat ≤ 90) ∨ (97 ≤ c.toNat ∧ c.toNat ≤ 122) ∨ (48 ≤ c.toNat ∧ c.toNat ≤ 57) ∨
      c.toNat = 95 := by
  simp only [isFieldChar, Bool.or_eq_true, Bool.and_eq_true, decide_eq_true_eq, beq_iff_eq,
    Char.le_def, UInt32.le_iff_toNat_le] at h
  rcases h with ((h | h) | h) | h
  · exact Or.inl h
  · exact Or.inr (Or.inl h)
  · exact Or.inr (Or.inr (Or.inl h))
  · subst h; decide

theorem isBlank_of_isFieldChar {c : Char} (h : isFieldChar c = true) : Text.isBlank c = false := by
  have := toNat_of_isFieldChar h
  simp only [Text.isBlank, Text.blankRanges, List.any_cons, List.any_nil, Bool.or_false,
    Bool.or_eq_false_iff, Bool.and_eq_false_iff, decide_eq_false_iff_not, Nat.not_le]
  omega

/-- A text without its blanks at either end is itself when it starts and ends with no blank. -/
theorem trimChars_eq_self {cs : List Char} (h1 : ∀ c ∈ cs.head?, Text.isBlank c = false)
    (h2 : ∀ c ∈ cs.getLast?, Text.isBlank c = false) : Text.trimChars cs = cs := by
  have hdrop : ∀ ds : List Char, (∀ c ∈ ds.head?, Text.isBlank c = false) →
      ds.dropWhile Text.isBlank = ds := by
    intro ds hds
    cases ds with
    | nil => rfl
    | cons d ds => exact List.dropWhile_cons_of_neg (by simp [hds d rfl])
  rw [Text.trimChars, hdrop cs h1, hdrop cs.reverse (by simpa [List.head?_reverse] using h2),
    List.reverse_reverse]

/-! ### What reads back -/

/-- Whether a text is a key the reader files: a field name of at least one field character,
followed by `!` when the field is negated. -/
def isKey (k : String) : Bool :=
  !(k.toList.takeWhile isFieldChar).isEmpty &&
    (k.toList.dropWhile isFieldChar == [] || k.toList.dropWhile isFieldChar == ['!'])

/-- Whether a value reads back as itself: it holds none of `, & | = !`. -/
def isValue (v : String) : Bool := v.toList.all isValueChar

/-- Whether a written entry `key=v1,v2` reads back as itself: a key with at least one value,
every value reading back. -/
def entryReadable (e : String × List String) : Bool :=
  isKey e.1 && !e.2.isEmpty && e.2.all isValue

/-- Whether a group reads back as itself: it has an entry, its keys are distinct, as in every
group the library builds, and every entry reads back. -/
def groupReadable (g : Group) : Bool :=
  !g.entries.isEmpty && decide g.keys.Nodup && g.entries.all entryReadable

/-- Whether written groups read back as themselves: every group does, and the written text does
not end in a blank. No groups at all are written as the empty text. -/
def readable (gs : List Group) : Bool :=
  gs.all groupReadable && !((renderGroups gs).toList.getLast?.any Text.isBlank)

theorem eq_fieldKey_of_isKey {k : String} (h : isKey k = true) :
    ∃ (field : List Char) (negated : Bool), field ≠ [] ∧ (∀ c ∈ field, isFieldChar c = true) ∧
      k.toList = field ++ (if negated then ['!'] else []) := by
  simp only [isKey, Bool.and_eq_true, Bool.not_eq_true', List.isEmpty_eq_false_iff,
    Bool.or_eq_true, beq_iff_eq] at h
  obtain ⟨hne, hrest⟩ := h
  have hsplit : k.toList = k.toList.takeWhile isFieldChar ++ k.toList.dropWhile isFieldChar :=
    List.takeWhile_append_dropWhile.symm
  have hall : ∀ c ∈ k.toList.takeWhile isFieldChar, isFieldChar c = true :=
    List.all_eq_true.mp List.all_takeWhile
  rcases hrest with hrest | hrest
  · exact ⟨_, false, hne, hall, by simpa [hrest] using hsplit⟩
  · exact ⟨_, true, hne, hall, by simpa [hrest] using hsplit⟩

theorem mem_key {k : String} (h : isKey k = true) {c : Char} (hc : c ∈ k.toList) :
    isFieldChar c = true ∨ c = '!' := by
  obtain ⟨field, negated, -, hf, hk⟩ := eq_fieldKey_of_isKey h
  rw [hk, List.mem_append] at hc
  rcases hc with hc | hc
  · exact Or.inl (hf c hc)
  · cases negated <;> simp_all

theorem toList_renderEntry (e : String × List String) :
    (Group.renderEntry e).toList = e.1.toList ++ '=' :: [','].intercalate (e.2.map String.toList) := by
  rw [Group.renderEntry, String.toList_append, String.toList_append,
    Text.toList_joinWith (show ",".toList = [','] from rfl)]
  simp

/-- An entry written from a readable entry reads back as that entry. -/
theorem readConstraint_renderEntry {e : String × List String} (h : entryReadable e = true) :
    readConstraint (Group.renderEntry e).toList = some e := by
  obtain ⟨k, vs⟩ := e
  simp only [entryReadable, Bool.and_eq_true, Bool.not_eq_true', List.isEmpty_eq_false_iff,
    List.all_eq_true] at h
  obtain ⟨⟨hk, hne⟩, hv⟩ := h
  obtain ⟨field, negated, hfne, hf, hkl⟩ := eq_fieldKey_of_isKey hk
  have hcomma : ∀ v ∈ vs, ',' ∉ v.toList := by
    intro v hv' hmem
    have := List.all_eq_true.mp (hv v hv') ',' hmem
    exact absurd this (by decide)
  have hsplit : ([','].intercalate (vs.map String.toList)).splitOn ',' = vs.map String.toList := by
    rw [List.splitOn_intercalate]
    · intro l hl
      obtain ⟨v, hv', rfl⟩ := List.mem_map.mp hl
      exact hcomma v hv'
    · simpa using hne
  have hvalues : (vs.map String.toList).all (·.all isValueChar) = true := by
    simpa [List.all_eq_true, isValue] using hv
  have hkey : Group.fieldKey (String.ofList field) negated = k := by
    apply String.toList_inj.mp
    rw [hkl]
    cases negated <;> simp [Group.fieldKey]
  rw [toList_renderEntry, hkl]
  -- the field stops where the key's `!` or the `=` begins
  cases negated
  · simp only [Bool.false_eq_true, if_false, List.append_nil, readConstraint,
      List.takeWhile_append_of_pos hf, List.dropWhile_append_of_pos hf,
      List.takeWhile_cons_of_neg (show ¬isFieldChar '=' = true by decide),
      List.dropWhile_cons_of_neg (show ¬isFieldChar '=' = true by decide), List.append_nil,
      List.isEmpty_iff, hfne, if_false, Option.bind_some, hsplit, hvalues, if_true, List.map_map]
    simp [← hkey]
  · simp only [if_true, readConstraint, List.append_assoc, List.singleton_append,
      List.takeWhile_append_of_pos hf, List.dropWhile_append_of_pos hf,
      List.takeWhile_cons_of_neg (show ¬isFieldChar '!' = true by decide),
      List.dropWhile_cons_of_neg (show ¬isFieldChar '!' = true by decide), List.append_nil,
      List.isEmpty_iff, hfne, if_false, Option.bind_some, hsplit, hvalues, if_true, List.map_map]
    simp [← hkey]

/-- Every character of a readable entry as written is a field character, `!`, `=`, `,` or a
value character. -/
theorem mem_renderEntry {e : String × List String} (h : entryReadable e = true) {c : Char}
    (hc : c ∈ (Group.renderEntry e).toList) :
    isFieldChar c = true ∨ c = '!' ∨ c = '=' ∨ c = ',' ∨ isValueChar c = true := by
  simp only [entryReadable, Bool.and_eq_true, List.all_eq_true] at h
  rw [Group.renderEntry, String.toList_append, String.toList_append, List.mem_append,
    List.mem_append] at hc
  rcases hc with (hc | hc) | hc
  · rcases mem_key h.1.1 hc with hf | hb
    · exact Or.inl hf
    · exact Or.inr (Or.inl hb)
  · exact Or.inr (Or.inr (Or.inl (by simpa using hc)))
  · rcases Text.mem_joinWith (show ",".toList = [','] from rfl) hc with hcomma | ⟨v, hv, hcv⟩
    · exact Or.inr (Or.inr (Or.inr (Or.inl hcomma)))
    · exact Or.inr (Or.inr (Or.inr (Or.inr (List.all_eq_true.mp (h.2 v hv) c hcv))))

/-- Neither `&` nor `|` appears in a readable entry as written. -/
theorem renderEntry_no_separator {e : String × List String} (h : entryReadable e = true) :
    '&' ∉ (Group.renderEntry e).toList ∧ '|' ∉ (Group.renderEntry e).toList := by
  constructor
  · intro hc
    rcases mem_renderEntry h hc with hc | hc | hc | hc | hc <;> exact absurd hc (by decide)
  · intro hc
    rcases mem_renderEntry h hc with hc | hc | hc | hc | hc <;> exact absurd hc (by decide)

theorem mapM_map_eq_some {α β γ : Type} (f : β → Option γ) (g : α → β) (k : α → γ) {xs : List α}
    (h : ∀ x ∈ xs, f (g x) = some (k x)) : (xs.map g).mapM f = some (xs.map k) := by
  induction xs with
  | nil => rfl
  | cons x xs ih =>
    rw [List.map_cons, List.mapM_cons, h x List.mem_cons_self,
      ih fun y hy => h y (List.mem_cons_of_mem _ hy)]
    rfl

/-- A group written from readable entries reads back as the group they build. -/
theorem readGroup_joined {es : List (String × List String)} (hne : es ≠ [])
    (h : ∀ e ∈ es, entryReadable e = true) :
    readGroup (Text.joinWith "&" (es.map Group.renderEntry)).toList = some (Group.empty.addAll es) := by
  have hamp : ∀ x ∈ es.map Group.renderEntry, '&' ∉ x.toList := by
    intro x hx
    obtain ⟨e, he, rfl⟩ := List.mem_map.mp hx
    exact (renderEntry_no_separator (h e he)).1
  rw [readGroup, Text.splitOn_joinWith (show "&".toList = ['&'] from rfl) (by simpa using hne) hamp,
    List.map_map, mapM_map_eq_some readConstraint (String.toList ∘ Group.renderEntry) id fun e he => readConstraint_renderEntry (h e he),
    Option.map_some, List.map_id]
  rfl

/-! ### Reading written groups -/

/-- The text written for groups with these entries: entries joined by `&`, groups by `|`. -/
def writeEntries (ess : List (List (String × List String))) : String :=
  Text.joinWith "|" (ess.map fun es => Text.joinWith "&" (es.map Group.renderEntry))

theorem renderGroups_eq_writeEntries (gs : List Group) :
    renderGroups gs = writeEntries (gs.map OrderedMap.entries) := by
  rw [renderGroups, writeEntries, List.map_map]
  rfl

/-- Groups written from readable entries read back as the groups the entries build. -/
theorem readGroups_writeEntries {ess : List (List (String × List String))} (hne : ess ≠ [])
    (h : ∀ es ∈ ess, es ≠ [] ∧ ∀ e ∈ es, entryReadable e = true) :
    readGroups (writeEntries ess).toList = some (ess.map Group.empty.addAll) := by
  have hbar : ∀ x ∈ ess.map (fun es => Text.joinWith "&" (es.map Group.renderEntry)),
      '|' ∉ x.toList := by
    intro x hx hc
    obtain ⟨es, hes, rfl⟩ := List.mem_map.mp hx
    rcases Text.mem_joinWith (show "&".toList = ['&'] from rfl) hc with hc | ⟨y, hy, hcy⟩
    · exact absurd hc (by decide)
    · obtain ⟨e, he, rfl⟩ := List.mem_map.mp hy
      exact (renderEntry_no_separator ((h es hes).2 e he)).2 hcy
  rw [readGroups, writeEntries,
    Text.splitOn_joinWith (show "|".toList = ['|'] from rfl) (by simpa using hne) hbar, List.map_map]
  exact mapM_map_eq_some readGroup _ Group.empty.addAll fun es hes =>
    readGroup_joined (h es hes).1 (h es hes).2

/-- Text written from readable entries starts with a field character. -/
theorem writeEntries_head {es : List (String × List String)} {ess : List (List (String × List String))}
    (hes : es ≠ []) (h : ∀ e ∈ es, entryReadable e = true) :
    ∃ c cs, (writeEntries (es :: ess)).toList = c :: cs ∧ isFieldChar c = true := by
  obtain ⟨e, rest, rfl⟩ := List.exists_cons_of_ne_nil hes
  have hk : isKey e.1 = true := by
    have := h e List.mem_cons_self
    simp only [entryReadable, Bool.and_eq_true] at this
    exact this.1.1
  obtain ⟨field, negated, hfne, hf, hkl⟩ := eq_fieldKey_of_isKey hk
  obtain ⟨c, cs, rfl⟩ := List.exists_cons_of_ne_nil hfne
  obtain ⟨r1, h1⟩ := Text.toList_joinWith_cons "|" (Text.joinWith "&" ((e :: rest).map Group.renderEntry))
    (ess.map fun es => Text.joinWith "&" (es.map Group.renderEntry))
  obtain ⟨r2, h2⟩ := Text.toList_joinWith_cons "&" (Group.renderEntry e) (rest.map Group.renderEntry)
  rw [writeEntries, List.map_cons, h1, List.map_cons, h2, toList_renderEntry, hkl]
  exact ⟨c, _, rfl, hf c List.mem_cons_self⟩

/-- Percent-encoded text written from readable entries, with no blank at either end, reads back
as the groups the entries build. -/
theorem read_writeEntries {ess : List (List (String × List String))} (hne : ess ≠ [])
    (h : ∀ es ∈ ess, es ≠ [] ∧ ∀ e ∈ es, entryReadable e = true)
    (htrim : Text.trim (writeEntries ess) = writeEntries ess) :
    read (Text.Percent.encode (writeEntries ess)) = .ok (ess.map Group.empty.addAll) := by
  obtain ⟨es, rest, rfl⟩ := List.exists_cons_of_ne_nil hne
  obtain ⟨c, cs, hcs, -⟩ := writeEntries_head (h es List.mem_cons_self).1 (h es List.mem_cons_self).2
  have hfull : (writeEntries (es :: rest)).isEmpty = false := by
    cases he : (writeEntries (es :: rest)).isEmpty
    · rfl
    · rw [String.isEmpty_iff] at he
      rw [he] at hcs
      cases hcs
  rw [read, Text.Percent.decode_encode, htrim]
  simp only [hfull, Bool.false_eq_true, if_false, readGroups_writeEntries hne h]

/-! ### The fragment grammar -/

/-- A constraint as the fragment grammar derives it: a field, the operator (`!=` when negated)
and the values. -/
structure Clause where
  /-- The field name. -/
  field : String
  /-- Whether the operator is `!=`. -/
  negated : Bool
  /-- The values, in order; a value may be empty. -/
  values : List String

/-- Whether the grammar derives a clause: one or more field characters, then one or more values,
each holding none of `, & | = !`. -/
def Clause.derivable (c : Clause) : Bool :=
  !c.field.isEmpty && c.field.toList.all isFieldChar && !c.values.isEmpty && c.values.all isValue

/-- The text of a clause: `field=v1,v2`, or `field!=v1,v2`. -/
def Clause.text (c : Clause) : String :=
  c.field ++ (if c.negated then "!=" else "=") ++ Text.joinWith "," c.values

/-- The key a clause is filed under. -/
def Clause.key (c : Clause) : String := Group.fieldKey c.field c.negated

/-- A derivation of a fragment by the grammar: its groups, each a list of clauses. -/
structure Derivation where
  /-- The groups, in order. -/
  groups : List (List Clause)

/-- Whether the grammar derives a fragment this way: one or more groups, each of one or more
derivable clauses. -/
def Derivation.derivable (d : Derivation) : Bool :=
  !d.groups.isEmpty && d.groups.all fun grp => !grp.isEmpty && grp.all Clause.derivable

/-- The text a derivation yields: clauses joined by `&`, groups by `|`. -/
def Derivation.yield (d : Derivation) : String :=
  Text.joinWith "|" (d.groups.map fun grp => Text.joinWith "&" (grp.map Clause.text))

/-- Whether no group of a derivation has two clauses filed under one key. -/
def Derivation.keysDistinct (d : Derivation) : Prop :=
  ∀ grp ∈ d.groups, (grp.map Clause.key).Nodup

instance (d : Derivation) : Decidable d.keysDistinct :=
  inferInstanceAs (Decidable (∀ grp ∈ d.groups, (grp.map Clause.key).Nodup))

/-- The entry a clause is read as. -/
def Clause.entry (c : Clause) : String × List String := (c.key, c.values)

theorem Clause.text_eq (c : Clause) : c.text = Group.renderEntry c.entry := by
  cases hn : c.negated <;>
    simp [Clause.text, Clause.entry, Clause.key, Group.renderEntry, Group.fieldKey, hn,
      String.append_assoc, show "!=" = "!" ++ "=" from rfl]

/-- A field name followed by `!` or not is a key. -/
theorem isKey_fieldKey {field : String} (hne : field.toList ≠ [])
    (hf : ∀ c ∈ field.toList, isFieldChar c = true) (negated : Bool) :
    isKey (Group.fieldKey field negated) = true := by
  have htl : (Group.fieldKey field negated).toList = field.toList ++ (if negated then ['!'] else []) := by
    cases negated <;> simp [Group.fieldKey]
  have hbang : isFieldChar '!' = false := by decide
  rw [isKey, htl, List.takeWhile_append_of_pos hf, List.dropWhile_append_of_pos hf]
  cases negated <;> simp [hne, hbang]

theorem Clause.entryReadable_entry {c : Clause} (h : c.derivable = true) :
    entryReadable c.entry = true := by
  simp only [Clause.derivable, Bool.and_eq_true, Bool.not_eq_true', List.isEmpty_eq_false_iff,
    String.isEmpty_eq_false_iff] at h
  obtain ⟨⟨⟨hne, hf⟩, hvs⟩, hv⟩ := h
  have hkey : isKey c.key = true :=
    isKey_fieldKey (by simpa using hne) (List.all_eq_true.mp hf) c.negated
  simp [entryReadable, Clause.entry, hkey, hvs, hv]

theorem Derivation.yield_eq (d : Derivation) :
    d.yield = writeEntries (d.groups.map (·.map Clause.entry)) := by
  rw [Derivation.yield, writeEntries, List.map_map]
  congr 1
  apply List.map_congr_left
  intro grp _
  rw [Function.comp_apply, List.map_map]
  congr 1
  apply List.map_congr_left
  intro c _
  exact Clause.text_eq c

theorem Derivation.groups_ne_nil {d : Derivation} (hd : d.derivable = true) : d.groups ≠ [] := by
  simp only [Derivation.derivable, Bool.and_eq_true, Bool.not_eq_true',
    List.isEmpty_eq_false_iff] at hd
  exact hd.1

/-- The entries of a derivable derivation, group by group: every group has one, and each reads
back as itself. -/
theorem Derivation.entries_readable {d : Derivation} (hd : d.derivable = true) :
    ∀ es ∈ d.groups.map (·.map Clause.entry), es ≠ [] ∧ ∀ e ∈ es, entryReadable e = true := by
  simp only [Derivation.derivable, Bool.and_eq_true, Bool.not_eq_true', List.isEmpty_eq_false_iff,
    List.all_eq_true] at hd
  intro es hes
  obtain ⟨grp, hgrp, rfl⟩ := List.mem_map.mp hes
  obtain ⟨hgne, hcl⟩ := hd.2 grp hgrp
  refine ⟨by simpa using hgne, ?_⟩
  intro e he
  obtain ⟨c, hc, rfl⟩ := List.mem_map.mp he
  exact Clause.entryReadable_entry (hcl c hc)

/-- A derived fragment, with no key repeated in a group and no blank at either end, reads back
as groups that are written as the same text. -/
theorem encodeGroups_read_derived (d : Derivation) (hd : d.derivable = true)
    (hkeys : d.keysDistinct) (htrim : Text.trim d.yield = d.yield) :
    (read (Text.Percent.encode d.yield)).map encodeGroups = .ok (Text.Percent.encode d.yield) := by
  -- distinct keys: each group read is the list of its entries
  have hbuild : ((d.groups.map (·.map Clause.entry)).map Group.empty.addAll).map
      OrderedMap.entries = d.groups.map (·.map Clause.entry) := by
    rw [List.map_map]
    conv => rhs; rw [← List.map_id (d.groups.map _)]
    apply List.map_congr_left
    intro es hes
    obtain ⟨grp, hgrp, rfl⟩ := List.mem_map.mp hes
    rw [Function.comp_apply, Group.entries_addAll_fresh Group.empty
      (by rw [List.map_map]; exact hkeys grp hgrp) (fun p _ hp => nomatch hp)]
    rfl
  rw [Derivation.yield_eq] at htrim ⊢
  rw [read_writeEntries (by simpa using d.groups_ne_nil hd) (Derivation.entries_readable hd) htrim]
  simp only [Except.map, encodeGroups, renderGroups_eq_writeEntries, hbuild]

/-! ### Both directions -/

/-- Readable groups, written and percent-encoded, read back as themselves. -/
theorem read_encodeGroups {gs : List Group} (h : readable gs = true) : read (encodeGroups gs) = .ok gs := by
  simp only [readable, Bool.and_eq_true, List.all_eq_true, Bool.not_eq_true'] at h
  obtain ⟨hgs, hlast⟩ := h
  have hg : ∀ g ∈ gs, g.entries ≠ [] ∧ g.keys.Nodup ∧ ∀ e ∈ g.entries, entryReadable e = true := by
    intro g hg
    have := hgs g hg
    simp only [groupReadable, Bool.and_eq_true, Bool.not_eq_true', List.isEmpty_eq_false_iff,
      decide_eq_true_eq, List.all_eq_true] at this
    exact ⟨this.1.1, this.1.2, this.2⟩
  -- distinct keys: building a group from its own entries gives it back
  have hbuild : (gs.map OrderedMap.entries).map Group.empty.addAll = gs := by
    rw [List.map_map]
    conv => rhs; rw [← List.map_id gs]
    apply List.map_congr_left
    intro g hg'
    rw [Function.comp_apply]
    exact OrderedMap.ext
      (Group.entries_addAll_fresh Group.empty (hg g hg').2.1 (fun p _ hp => nomatch hp))
  cases gs with
  | nil =>
    rw [read, encodeGroups, Text.Percent.decode_encode]
    rfl
  | cons g rest =>
    have hess : ∀ es ∈ (g :: rest).map OrderedMap.entries,
        es ≠ [] ∧ ∀ e ∈ es, entryReadable e = true := by
      intro es hes
      obtain ⟨g', hg', rfl⟩ := List.mem_map.mp hes
      exact ⟨(hg g' hg').1, (hg g' hg').2.2⟩
    obtain ⟨c, cs, hcs, hc⟩ := @writeEntries_head _ (rest.map OrderedMap.entries)
      (hg g List.mem_cons_self).1 (hg g List.mem_cons_self).2.2
    have htrim : Text.trim (renderGroups (g :: rest)) = renderGroups (g :: rest) := by
      rw [Text.trim, trimChars_eq_self, String.ofList_toList]
      · rw [renderGroups_eq_writeEntries, List.map_cons, hcs]
        intro c' hc'
        cases hc'
        exact isBlank_of_isFieldChar hc
      · intro c' hc'
        rw [Option.mem_def] at hc'
        simpa [hc'] using hlast
    rw [encodeGroups, renderGroups_eq_writeEntries] at *
    rw [read_writeEntries (by simp) hess htrim, hbuild]

/-- Writing groups and reading fragments undo each other: readable groups read back as
themselves, and a derived fragment with no key repeated in a group and no blank at either end is
written back as it was read. -/
theorem encode_read_inverse :
    (∀ gs : List Group, readable gs = true → read (encodeGroups gs) = .ok gs) ∧
    (∀ d : Derivation, d.derivable = true → d.keysDistinct → Text.trim d.yield = d.yield →
      (read (Text.Percent.encode d.yield)).map encodeGroups = .ok (Text.Percent.encode d.yield)) :=
  ⟨fun _ h => read_encodeGroups h, fun d hd hk ht => encodeGroups_read_derived d hd hk ht⟩

/-- Two groups with a negated key and several values read back as themselves, and a derived
fragment with an empty value and a `!=` is written back as it was. -/
theorem encode_read_inverse_sample :
    (readable [.ofList [("SrcPort", ["80", "443"]), ("Proto!", ["6"])], .ofList [("DstPort", ["80"])]] = true ∧
      read (encodeGroups [.ofList [("SrcPort", ["80", "443"]), ("Proto!", ["6"])], .ofList [("DstPort", ["80"])]]) =
        .ok [.ofList [("SrcPort", ["80", "443"]), ("Proto!", ["6"])], .ofList [("DstPort", ["80"])]]) ∧
    (Derivation.derivable ⟨[[⟨"SrcPort", false, ["80", ""]⟩, ⟨"Proto", true, ["6"]⟩]]⟩ = true ∧
      Derivation.keysDistinct ⟨[[⟨"SrcPort", false, ["80", ""]⟩, ⟨"Proto", true, ["6"]⟩]]⟩ ∧
      Text.trim (Derivation.yield ⟨[[⟨"SrcPort", false, ["80", ""]⟩, ⟨"Proto", true, ["6"]⟩]]⟩) =
        Derivation.yield ⟨[[⟨"SrcPort", false, ["80", ""]⟩, ⟨"Proto", true, ["6"]⟩]]⟩ ∧
      (read (Text.Percent.encode (Derivation.yield
          ⟨[[⟨"SrcPort", false, ["80", ""]⟩, ⟨"Proto", true, ["6"]⟩]]⟩))).map encodeGroups =
        .ok (Text.Percent.encode (Derivation.yield
          ⟨[[⟨"SrcPort", false, ["80", ""]⟩, ⟨"Proto", true, ["6"]⟩]]⟩))) :=
  ⟨⟨by decide, encode_read_inverse.1 _ (by decide)⟩,
    ⟨by decide, by decide, by decide, encode_read_inverse.2 _ (by decide) (by decide) (by decide)⟩⟩

end FlowSelect.Fragment
