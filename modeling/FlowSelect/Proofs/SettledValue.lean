import FlowSelect.Catalog.Rule
import FlowSelect.Proofs.CompiledFragment
import FlowSelect.Proofs.LinkRoundTrip
import FlowSelect.Proofs.NumeralRoundTrip
import Mathlib.Data.List.Find
/-! Texts that a load keeps as it found them.

Loading checks each typed text by its definition's rule and makes a value from what the rule
keeps, through the definition's suggestions. A text is settled when its rule keeps it as it is
and the value made from it keeps it too (`Definition.Settled`). Every value a load makes has a
settled text (`Definition.settled_createValue`), with one exception: the resource rule writes
the kind of a path with its first character in upper case and the rest in lower case, and under
the full Unicode case mappings that is not always the kind's own capitalization (`ß` becomes
`SS`, and `SS` becomes `Ss`). Where the kind capitalizes to itself, the kept text is settled.

The case mappings never produce a character below `A` that they were not given
(`Text.eq_of_mem_upperChar`), so capitalizing a kind adds no dot and no link separator. Every
other rule keeps its text, an empty name pattern, or a registered protocol name; suggestions
keep the text, or for a port or a protocol a short numeral. So what a load keeps holds no link
separator that was not typed (`Definition.isUnseparated_createValue`). -/
namespace FlowSelect.Text

/-! ### Case mapping keeps low characters -/

/-- A character below `A` other than NUL: the digits, the blank, the controls and the ASCII
punctuation, among them every separator of links and resource paths. -/
def IsLow (d : Char) : Prop := 0 < d.toNat ∧ d.toNat < 0x41

instance : DecidablePred IsLow := fun d => inferInstanceAs (Decidable (0 < d.toNat ∧ _))

theorem toNat_ofNat_cases (n : Nat) : (Char.ofNat n).toNat = n ∨ (Char.ofNat n).toNat = 0 := by
  by_cases h : n.isValidChar
  · exact Or.inl (by rw [Char.ofNat, dif_pos h]; rfl)
  · exact Or.inr (by rw [Char.ofNat, dif_neg h]; rfl)

/-- A code point at `A` or beyond names no low character, valid or not. -/
theorem not_isLow_ofNat {n : Nat} (h : 0x41 ≤ n) : ¬ IsLow (Char.ofNat n) := by
  rintro ⟨hpos, hlt⟩
  rcases toNat_ofNat_cases n with he | he <;> omega

namespace Case

theorem upperRuns_high :
    upperRuns.all (fun r => decide (0x41 ≤ (r.start : Int) + r.shift)) = true := by decide +kernel

theorem lowerRuns_high :
    lowerRuns.all (fun r => decide (0x41 ≤ (r.start : Int) + r.shift)) = true := by decide +kernel

theorem upperExpansions_high :
    upperExpansions.all (fun e => !e.2.isEmpty && e.2.all fun d => decide (0x41 ≤ d.toNat)) =
      true := by
  decide +kernel

/-- A run that moves every code point to `A` or beyond gives no low character. -/
theorem Run.lookup_not_isLow {rs : List Run}
    (hrs : rs.all (fun r => decide (0x41 ≤ (r.start : Int) + r.shift)) = true) {c d : Char}
    (h : Run.lookup rs c = some d) : ¬ IsLow d := by
  obtain ⟨r, hr, rfl⟩ := Option.map_eq_some_iff.mp h
  have hmem := List.mem_of_find?_eq_some hr
  have hholds := List.find?_some hr
  have hhigh := of_decide_eq_true (List.all_eq_true.mp hrs r hmem)
  simp only [Run.holds, Bool.and_eq_true, decide_eq_true_eq] at hholds
  apply not_isLow_ofNat
  simp only [Int.ofNat_eq_natCast]
  omega

/-- An expansion has characters, all at `A` or beyond. -/
theorem expansion_high {n : Nat} {e : List Char} (h : upperExpansions.lookup n = some e) :
    e ≠ [] ∧ ∀ d ∈ e, 0x41 ≤ d.toNat := by
  obtain ⟨l₁, l₂, hl, -⟩ := List.lookup_eq_some_iff.mp h
  have hmem : (n, e) ∈ upperExpansions := by rw [hl]; simp
  have hall := List.all_eq_true.mp upperExpansions_high _ hmem
  simp only [Bool.and_eq_true, Bool.not_eq_true', List.isEmpty_eq_false_iff, List.all_eq_true,
    decide_eq_true_eq] at hall
  exact hall

end Case

/-- An ASCII character is its own upper case, or its upper case is at `A` or beyond. -/
theorem toUpper_ascii {c : Char} (hc : c.toNat < 0x80) :
    c.toUpper = c ∨ 0x41 ≤ c.toUpper.toNat := by
  have h : ∀ n, n < 0x80 →
      (Char.ofNat n).toUpper = Char.ofNat n ∨ 0x41 ≤ (Char.ofNat n).toUpper.toNat := by
    decide +kernel
  simpa only [Char.ofNat_toNat] using h c.toNat hc

/-- An ASCII character is its own lower case, or its lower case is at `A` or beyond. -/
theorem toLower_ascii {c : Char} (hc : c.toNat < 0x80) :
    c.toLower = c ∨ 0x41 ≤ c.toLower.toNat := by
  have h : ∀ n, n < 0x80 →
      (Char.ofNat n).toLower = Char.ofNat n ∨ 0x41 ≤ (Char.ofNat n).toLower.toNat := by
    decide +kernel
  simpa only [Char.ofNat_toNat] using h c.toNat hc

/-- Upper case gives no low character but the one it was given. -/
theorem eq_of_mem_upperChar {c d : Char} (hd : d ∈ upperChar c) (hlow : IsLow d) : d = c := by
  unfold upperChar at hd
  split at hd
  · next hc =>
    rw [List.mem_singleton] at hd
    subst hd
    rcases toUpper_ascii hc with h | h
    · exact h
    · exact absurd hlow.2 (by omega)
  · split at hd
    · next e he => exact absurd hlow.2 (by have := (Case.expansion_high he).2 d hd; omega)
    · split at hd
      · next d' hd' =>
        rw [List.mem_singleton] at hd
        subst hd
        exact absurd hlow (Case.Run.lookup_not_isLow Case.upperRuns_high hd')
      · exact List.mem_singleton.mp hd

theorem upperChar_ne_nil (c : Char) : upperChar c ≠ [] := by
  unfold upperChar
  split
  · exact List.cons_ne_nil _ _
  · split
    · next e he => exact (Case.expansion_high he).1
    · split <;> exact List.cons_ne_nil _ _

/-- Lower case gives no low character but the one it was given. -/
theorem eq_of_mem_lowerChar {c d : Char} (hd : d ∈ lowerChar c) (hlow : IsLow d) : d = c := by
  unfold lowerChar at hd
  split at hd
  · next hc =>
    rw [List.mem_singleton] at hd
    subst hd
    rcases toLower_ascii hc with h | h
    · exact h
    · exact absurd hlow.2 (by omega)
  · split at hd
    · -- the dotted capital I becomes `i` and a combining dot
      simp only [List.mem_cons, List.mem_nil_iff, or_false] at hd
      rcases hd with rfl | rfl <;> exact absurd hlow (by decide)
    · split at hd
      · next d' hd' =>
        rw [List.mem_singleton] at hd
        subst hd
        exact absurd hlow (Case.Run.lookup_not_isLow Case.lowerRuns_high hd')
      · exact List.mem_singleton.mp hd

theorem mem_lowerFrom {before cs : List Char} {d : Char} (hd : d ∈ lowerFrom before cs)
    (hlow : IsLow d) : d ∈ cs := by
  induction cs generalizing before with
  | nil => simp [lowerFrom] at hd
  | cons c rest ih =>
    rw [lowerFrom, List.mem_append] at hd
    rcases hd with hd | hd
    · split at hd
      · -- a capital sigma becomes one of the two small sigmas
        rw [List.mem_singleton] at hd
        split at hd <;> (subst hd; exact absurd hlow (by decide))
      · exact List.mem_cons.mpr (Or.inl (eq_of_mem_lowerChar hd hlow))
    · exact List.mem_cons_of_mem _ (ih hd)

end FlowSelect.Text

namespace FlowSelect

/-! ### Capitalizing -/

/-- Capitalizing gives no low character that the text did not hold. -/
theorem mem_capitalize {k : String} {d : Char} (hd : d ∈ (capitalize k).toList)
    (hlow : Text.IsLow d) : d ∈ k.toList := by
  unfold capitalize at hd
  split at hd
  · simp at hd
  · next c cs hk =>
    rw [String.toList_ofList, List.mem_append] at hd
    rw [hk]
    rcases hd with hd | hd
    · exact List.mem_cons.mpr (Or.inl (Text.eq_of_mem_upperChar hd hlow))
    · exact List.mem_cons_of_mem _ (Text.mem_lowerFrom hd hlow)

theorem capitalize_ne_empty {k : String} (h : k ≠ "") : capitalize k ≠ "" := by
  unfold capitalize
  split
  · next hk => exact absurd (String.toList_eq_nil_iff.mp hk) h
  · intro he
    have := congrArg String.toList he
    rw [String.toList_ofList, String.toList_empty, List.append_eq_nil_iff] at this
    exact Text.upperChar_ne_nil _ this.1

/-! ### Resource paths -/

theorem Text.cutChars_append {sep : Char} {a : List Char} (ha : sep ∉ a) (b : List Char) :
    Text.cutChars sep (a ++ sep :: b) = some (a, b) := by
  induction a with
  | nil => simp [Text.cutChars]
  | cons c a ih =>
    rw [List.cons_append, Text.cutChars, if_neg fun h : c = sep => ha (h ▸ List.mem_cons_self),
      ih fun h => ha (List.mem_cons_of_mem _ h)]
    rfl

/-- A text cut at a separator that its first part does not hold gives its two parts back. -/
theorem Text.cut_append {sep : Char} {s a : String} (hs : s.toList = [sep]) (ha : sep ∉ a.toList)
    (b : String) : Text.cut (a ++ s ++ b) sep = some (a, b) := by
  rw [Text.cut, String.toList_append, String.toList_append, hs, List.append_assoc,
    List.singleton_append, Text.cutChars_append ha]
  simp

theorem Text.not_mem_of_cutChars {sep : Char} {cs a b : List Char}
    (h : Text.cutChars sep cs = some (a, b)) : sep ∉ a := by
  induction cs generalizing a b with
  | nil => exact nomatch h
  | cons c cs ih =>
    rw [Text.cutChars] at h
    split at h
    · cases h
      exact List.not_mem_nil
    · next hc =>
      obtain ⟨⟨a', b'⟩, hp, he⟩ := Option.map_eq_some_iff.mp h
      cases he
      rw [List.mem_cons, not_or]
      exact ⟨Ne.symm hc, ih hp⟩

theorem Text.not_mem_of_cutChars_none {sep : Char} {cs : List Char}
    (h : Text.cutChars sep cs = none) : sep ∉ cs := by
  induction cs with
  | nil => exact List.not_mem_nil
  | cons c cs ih =>
    rw [Text.cutChars] at h
    split at h
    · exact absurd h (Option.some_ne_none _)
    · next hc =>
      rw [List.mem_cons, not_or]
      exact ⟨Ne.symm hc, ih (Option.map_eq_none_iff.mp h)⟩

theorem Text.not_mem_of_cut {s : String} {sep : Char} {a b : String}
    (h : Text.cut s sep = some (a, b)) : sep ∉ a.toList := by
  obtain ⟨⟨a', b'⟩, hp, he⟩ := Option.map_eq_some_iff.mp h
  cases he
  rw [String.toList_ofList]
  exact Text.not_mem_of_cutChars hp

theorem Text.not_mem_of_cut_none {s : String} {sep : Char} (h : Text.cut s sep = none) :
    sep ∉ s.toList :=
  Text.not_mem_of_cutChars_none (Option.map_eq_none_iff.mp h)

/-- The kind and the namespace of a path hold no dot: the path is cut at its first two. -/
theorem ResourcePath.dot_not_mem (v : String) :
    '.' ∉ (ResourcePath.ofText v).kind.toList ∧ '.' ∉ (ResourcePath.ofText v).ns.toList := by
  unfold ResourcePath.ofText
  split
  · next hcut => exact ⟨Text.not_mem_of_cut_none hcut, by simp⟩
  · next kind rest hcut =>
    split
    · next hcut' => exact ⟨Text.not_mem_of_cut hcut, Text.not_mem_of_cut_none hcut'⟩
    · next ns name hcut' => exact ⟨Text.not_mem_of_cut hcut, Text.not_mem_of_cut hcut'⟩

/-- A complete path whose kind and namespace hold no dot reads back from what it writes. -/
theorem ResourcePath.ofText_render {p : ResourcePath} (hs : p.stage = .complete)
    (hk : '.' ∉ p.kind.toList) (hn : '.' ∉ p.ns.toList) : ResourcePath.ofText p.render = p := by
  have hdot : ".".toList = ['.'] := rfl
  have hassoc :
      p.kind ++ "." ++ p.ns ++ "." ++ p.name = p.kind ++ "." ++ (p.ns ++ "." ++ p.name) := by
    simp only [String.append_assoc]
  rw [ResourcePath.ofText, ResourcePath.render, hs]
  simp only
  rw [hassoc, Text.cut_append hdot hk]
  simp only
  rw [Text.cut_append hdot hn]
  cases p
  cases hs
  rfl

/-- A path the resource rule accepts: complete, with a kind, a valid namespace or none, and a
valid name. -/
def ResourcePath.Accepted (p : ResourcePath) : Prop :=
  p.stage = .complete ∧ p.kind ≠ "" ∧ (!p.ns.isEmpty && !ObjectName.isValid p.ns) = false ∧
    ObjectName.isValid p.name = true

/-- A path with its kind capitalized, as the resource rule keeps it. -/
def ResourcePath.capitalizeKind (p : ResourcePath) : ResourcePath :=
  { p with kind := capitalize p.kind }

/-- A path whose kind capitalizes to itself is kept as it is. -/
theorem ResourcePath.capitalizeKind_of_kind {p : ResourcePath} (h : capitalize p.kind = p.kind) :
    p.capitalizeKind = p := by
  rw [ResourcePath.capitalizeKind, h]

/-- The resource rule accepts exactly the accepted paths, and keeps them with the kind
capitalized. -/
theorem checkResource_eq_valid_iff {v w : String} :
    checkResource v = .valid w ↔
      (ResourcePath.ofText v).Accepted ∧ w = (ResourcePath.ofText v).capitalizeKind.render := by
  unfold checkResource ResourcePath.Accepted
  simp only
  constructor
  · intro h
    split at h
    · exact nomatch h
    · next h1 =>
      split at h
      · exact nomatch h
      · next h2 =>
        split at h
        · exact nomatch h
        · next h3 =>
          split at h
          · exact nomatch h
          · next h4 =>
            cases h
            refine ⟨⟨?_, ?_, Bool.eq_false_iff.mpr h3, by simpa using h4⟩, rfl⟩
            · simpa using h1
            · simpa [String.isEmpty_iff] using h2
  · rintro ⟨⟨hs, hk, hns, hname⟩, rfl⟩
    rw [if_neg (by simp [hs]), if_neg (by simpa [String.isEmpty_iff] using hk),
      if_neg (by simp [hns]), if_neg (by simp [hname])]
    rfl

/-- A complete path, its kind capitalized, reads back from what it writes: capitalizing brings
no dot into the kind. -/
theorem ResourcePath.ofText_capitalizeKind_render {v : String}
    (hs : (ResourcePath.ofText v).stage = .complete) :
    ResourcePath.ofText (ResourcePath.ofText v).capitalizeKind.render =
      (ResourcePath.ofText v).capitalizeKind := by
  have hdots := ResourcePath.dot_not_mem v
  exact ResourcePath.ofText_render hs (fun hd => hdots.1 (mem_capitalize hd (by decide))) hdots.2

/-- A path the resource rule keeps is kept again when its capitalized kind capitalizes to
itself. -/
theorem checkResource_idem {v w : String} (h : checkResource v = .valid w)
    (hk : capitalize (ResourcePath.ofText w).kind = (ResourcePath.ofText w).kind) :
    checkResource w = .valid w := by
  obtain ⟨⟨hs, hkind, hns, hname⟩, rfl⟩ := checkResource_eq_valid_iff.mp h
  have hp := ResourcePath.ofText_capitalizeKind_render hs
  rw [hp] at hk
  refine checkResource_eq_valid_iff.mpr ⟨?_, ?_⟩
  · rw [hp]
    exact ⟨hs, capitalize_ne_empty hkind, hns, hname⟩
  · rw [hp, ResourcePath.capitalizeKind_of_kind hk]

/-- A path the resource rule keeps as it is has a kind that capitalizes to itself. -/
theorem checkResource_kind_of_fixed {w : String} (h : checkResource w = .valid w) :
    capitalize (ResourcePath.ofText w).kind = (ResourcePath.ofText w).kind := by
  obtain ⟨⟨hs, -⟩, hw⟩ := checkResource_eq_valid_iff.mp h
  have hp := ResourcePath.ofText_capitalizeKind_render hs
  -- the path read from `w` is its own capitalization
  rw [← hw] at hp
  exact (congrArg ResourcePath.kind hp).symm

theorem ResourcePath.render_complete {p : ResourcePath} (hs : p.stage = .complete) :
    p.render = p.kind ++ "." ++ p.ns ++ "." ++ p.name := by
  rw [ResourcePath.render, hs]

/-- A low character other than a dot that the resource rule keeps was typed: capitalizing the
kind cannot have made it. -/
theorem mem_of_checkResource {v w : String} (h : checkResource v = .valid w) {c : Char}
    (hc : c ∈ w.toList) (hlow : Text.IsLow c) (hdot : c ≠ '.') : c ∈ v.toList := by
  obtain ⟨⟨hs, -⟩, rfl⟩ := checkResource_eq_valid_iff.mp h
  rw [ResourcePath.render_complete (p := (ResourcePath.ofText v).capitalizeKind) hs] at hc
  simp only [String.toList_append, List.mem_append] at hc
  rcases hc with (((hk | hd) | hn) | hd) | hname
  · exact ResourcePath.mem_of_ofText (Or.inl (mem_capitalize hk hlow))
  · exact absurd (List.mem_singleton.mp hd) hdot
  · exact ResourcePath.mem_of_ofText (Or.inr (Or.inl hn))
  · exact absurd (List.mem_singleton.mp hd) hdot
  · exact ResourcePath.mem_of_ofText (Or.inr (Or.inr hname))

/-! ### Link separators -/

/-- Whether a character separates the parts of a link: `,` between values, `;` between
filters, `=` between a key and its values. -/
def Text.isLinkSep (c : Char) : Bool := c == ',' || c == ';' || c == '='

/-- Whether a text holds no separator of a link. -/
def Text.isUnseparated (t : String) : Bool := t.toList.all fun c => !Text.isLinkSep c

theorem Text.isUnseparated_iff {t : String} :
    Text.isUnseparated t = true ↔ ∀ c ∈ t.toList, Text.isLinkSep c = false := by
  simp [Text.isUnseparated]

theorem Text.isUnseparated_iff_not_mem {t : String} :
    Text.isUnseparated t = true ↔ ',' ∉ t.toList ∧ ';' ∉ t.toList ∧ '=' ∉ t.toList := by
  rw [Text.isUnseparated_iff]
  constructor
  · intro h
    refine ⟨fun hc => ?_, fun hc => ?_, fun hc => ?_⟩ <;> simpa [Text.isLinkSep] using h _ hc
  · rintro ⟨h1, h2, h3⟩ c hc
    simp only [Text.isLinkSep, Bool.or_eq_false_iff, beq_eq_false_iff_ne]
    exact ⟨⟨fun he => h1 (he ▸ hc), fun he => h2 (he ▸ hc)⟩, fun he => h3 (he ▸ hc)⟩

theorem Text.isLinkSep_isLow {c : Char} (h : Text.isLinkSep c = true) : Text.IsLow c := by
  simp only [Text.isLinkSep, Bool.or_eq_true, beq_iff_eq] at h
  rcases h with (rfl | rfl) | rfl <;> decide

/-! ### Rules -/

namespace Protocol

/-- Every registered protocol has a name that is no numeral and holds no link separator, and is
kept as a numeral of few digits. -/
theorem suggestions_spec :
    suggestions.all (fun o => !o.name.isEmpty && !Text.Numeral.isDigits o.name &&
      Text.isUnseparated o.name && Text.Numeral.isDigits o.value &&
      decide (o.value.length ≤ digitLimit)) = true := by
  decide +kernel

theorem mem_of_find? {v : String} {o : Suggestion} (h : find? v = some o) : o ∈ suggestions := by
  unfold find? at h
  exact List.mem_of_find?_eq_some h

theorem spec_of_mem {o : Suggestion} (ho : o ∈ suggestions) :
    o.name ≠ "" ∧ Text.Numeral.isDigits o.name = false ∧ Text.isUnseparated o.name = true ∧
      Text.Numeral.isDigits o.value = true ∧ o.value.length ≤ digitLimit := by
  have h := List.all_eq_true.mp suggestions_spec o ho
  simp only [Bool.and_eq_true, Bool.not_eq_true', String.isEmpty_eq_false_iff,
    decide_eq_true_eq] at h
  obtain ⟨⟨⟨⟨hname, hdig⟩, hsep⟩, hval⟩, hlen⟩ := h
  exact ⟨hname, hdig, hsep, hval, hlen⟩

/-- A protocol found by a text that is no numeral is found again by its registered name: no
registered number is such a text or a name, so both finds seek the same name, case aside. -/
theorem find?_name {v : String} (hv : Text.Numeral.isDigits v = false) {o : Suggestion}
    (h : find? v = some o) : find? o.name = some o := by
  have ho := mem_of_find? h
  have hmatch := List.find?_some h
  -- registered numbers are numerals, and neither the text nor a name is one
  have hvalue : ∀ x ∈ suggestions, x.value ≠ v ∧ x.value ≠ o.name := by
    intro x hx
    have hdig := (spec_of_mem hx).2.2.2.1
    refine ⟨fun he => ?_, fun he => ?_⟩
    · rw [he, hv] at hdig
      exact Bool.false_ne_true hdig
    · rw [he, (spec_of_mem ho).2.1] at hdig
      exact Bool.false_ne_true hdig
  have hlower : Text.lower o.name = Text.lower v := by
    simpa [(hvalue o ho).1] using hmatch
  unfold find? at h ⊢
  simp only at h ⊢
  rw [← h, hlower]
  refine List.find?_congr fun x hx => ?_
  rw [beq_eq_false_iff_ne.mpr (hvalue x hx).1, beq_eq_false_iff_ne.mpr (hvalue x hx).2]

end Protocol

/-- What a rule keeps of a typed value: the value itself, but for the empty name, which asks for
an empty field, a resource path, and a protocol name, kept as registered. -/
theorem Rule.check_cases {r : Rule} {v w : String} (h : r.check v = .valid w) :
    w = v ∨ (r = .objectName ∧ v = "" ∧ w = ObjectName.exactEmpty) ∨
      (r = .resource ∧ checkResource v = .valid w) ∨
      (r = .protocol ∧ v ≠ "" ∧ Text.Numeral.isDigits v = false ∧
        ∃ o, Protocol.find? v = some o ∧ w = o.name) := by
  cases r with
  | objectName =>
    rw [Rule.check] at h
    split at h
    · next hv => exact .inr (.inl ⟨rfl, String.isEmpty_iff.mp hv, (Verdict.valid.inj h).symm⟩)
    · split at h
      · exact .inl (Verdict.valid.inj h).symm
      · exact nomatch h
  | resource => exact .inr (.inr (.inl ⟨rfl, h⟩))
  | protocol =>
    rw [Rule.check] at h
    split at h
    · exact nomatch h
    · next hv =>
      split at h
      · exact .inl (Verdict.valid.inj h).symm
      · next hd =>
        split at h
        · next o ho =>
          exact .inr (.inr (.inr ⟨rfl, fun he => hv (String.isEmpty_iff.mpr he),
            Bool.eq_false_iff.mpr hd, o, ho, (Verdict.valid.inj h).symm⟩))
        · exact nomatch h
  | nonEmpty | address | port =>
    left
    simp only [Rule.check] at h
    split_ifs at h
    exact (Verdict.valid.inj h).symm

/-- The name of a protocol found by a text that is no numeral is accepted as it is. -/
theorem Rule.check_found_name {v : String} (hv : Text.Numeral.isDigits v = false) {o : Suggestion}
    (h : Protocol.find? v = some o) : Rule.protocol.check o.name = .valid o.name := by
  obtain ⟨hname, hdig, -, -, -⟩ := Protocol.spec_of_mem (Protocol.mem_of_find? h)
  rw [Rule.check, if_neg (by simpa [String.isEmpty_iff] using hname), if_neg (by simp [hdig]),
    Protocol.find?_name hv h]

/-- **A rule keeps what it kept.** A value a rule accepts is accepted again as it is, provided
that a resource path's kind capitalizes to itself. -/
theorem Rule.check_idem {r : Rule} {v w : String} (h : r.check v = .valid w)
    (hk : r = .resource →
      capitalize (ResourcePath.ofText w).kind = (ResourcePath.ofText w).kind) :
    r.check w = .valid w := by
  rcases Rule.check_cases h with
    rfl | ⟨rfl, -, rfl⟩ | ⟨rfl, hres⟩ | ⟨rfl, -, hdig, o, ho, rfl⟩
  · exact h
  · decide
  · exact checkResource_idem hres (hk rfl)
  · exact Rule.check_found_name hdig ho

/-- **What a definition keeps is kept again, but for some resource kinds.** When a definition's
rule keeps `w` for a typed text, it keeps `w` again as it is exactly when `w` is no resource path
or the kind of `w` capitalizes to itself. -/
theorem Definition.validate_fixed_iff {d : Definition} {r w : String}
    (h : d.validate r = .valid w) :
    d.validate w = .valid w ↔
      (d.rule = .resource →
        capitalize (ResourcePath.ofText w).kind = (ResourcePath.ofText w).kind) := by
  constructor
  · intro hw hr
    rw [Definition.validate, hr] at hw
    exact checkResource_kind_of_fixed hw
  · exact Rule.check_idem h

/-- A resource path typed with its kind in lower case is kept with the kind capitalized, and
that is kept again. -/
theorem Definition.validate_fixed_iff_pod :
    let d := (Catalog.standard Glossary.plain defaultLimit).definitions[11]
    d.validate "pod.default.web" = .valid "Pod.default.web" ∧
      (d.validate "Pod.default.web" = .valid "Pod.default.web" ↔
        (d.rule = .resource → capitalize (ResourcePath.ofText "Pod.default.web").kind =
          (ResourcePath.ofText "Pod.default.web").kind)) := by
  intro d
  have h : d.validate "pod.default.web" = .valid "Pod.default.web" := by decide +kernel
  exact ⟨h, Definition.validate_fixed_iff h⟩

/-- The sharp s upper-cases to two letters: the resource rule keeps the kind `ß` as `SS`, and
does not keep `SS` as it is, since its second letter is lower-cased. -/
theorem Definition.validate_sharp_s_unsettled :
    let d := (Catalog.standard Glossary.plain defaultLimit).definitions[11]
    d.validate "ß.default.x" = .valid "SS.default.x" ∧
      d.validate "SS.default.x" ≠ .valid "SS.default.x" := by
  decide +kernel

/-- A rule brings no link separator into what it keeps. -/
theorem Rule.isUnseparated_check {r : Rule} {v w : String} (h : r.check v = .valid w)
    (hv : Text.isUnseparated v = true) : Text.isUnseparated w = true := by
  rcases Rule.check_cases h with rfl | ⟨-, -, rfl⟩ | ⟨-, hres⟩ | ⟨-, -, -, o, ho, rfl⟩
  · exact hv
  · decide
  · rw [Text.isUnseparated_iff] at hv ⊢
    intro c hc
    rw [Bool.eq_false_iff]
    intro hsep
    -- a separator is low and no dot, so it was typed
    have hcv := mem_of_checkResource hres hc (Text.isLinkSep_isLow hsep)
      (by rintro rfl; exact absurd hsep (by decide))
    rw [hv c hcv] at hsep
    exact Bool.false_ne_true hsep
  · exact (Protocol.spec_of_mem (Protocol.mem_of_find? ho)).2.2.1

/-! ### Numerals that suggestions keep -/

namespace Text.Numeral

/-- A numeral a port lookup reads: digits only, at most `digitLimit` of them. -/
def IsReadable (x : String) : Prop := isDigits x = true ∧ x.length ≤ digitLimit

theorem isReadable_toString {n : Nat} (h : n < Nat.pow 10 5) : IsReadable (toString n) := by
  have hlist : (toString n).toList = Nat.toDigits 10 n := Nat.toList_repr
  refine ⟨?_, ?_⟩
  · simp only [isDigits, Bool.and_eq_true, Bool.not_eq_true', String.isEmpty_eq_false_iff,
      List.all_eq_true]
    refine ⟨fun he => Nat.toDigits_ne_nil (by rw [← hlist, he]; rfl), fun c hc => ?_⟩
    rw [hlist] at hc
    exact isAsciiDigit_of_isDigit (Nat.isDigit_of_mem_toDigits (by decide) (by decide) hc)
  · rw [← String.length_toList, hlist]
    exact (length_toDigits_le (by decide) h).trans (by decide)

theorem isUnseparated_of_isDigits {x : String} (h : isDigits x = true) :
    isUnseparated x = true := by
  simp only [isDigits, Bool.and_eq_true, List.all_eq_true] at h
  rw [isUnseparated_iff]
  intro c hc
  have hd := h.2 c hc
  simp only [isAsciiDigit, Bool.and_eq_true, decide_eq_true_eq, Char.le_def] at hd
  simp only [isLinkSep, Bool.or_eq_false_iff, beq_eq_false_iff_ne]
  refine ⟨⟨?_, ?_⟩, ?_⟩ <;> rintro rfl <;> simp at hd

end Text.Numeral

theorem Service.registry_ports :
    Service.registry.all (fun p => decide (p.1 < Nat.pow 10 5)) = true := by decide +kernel

theorem Service.port?_lt {t : String} {p : Nat} (h : Service.port? t = some p) :
    p < Nat.pow 10 5 := by
  obtain ⟨e, he, rfl⟩ := Option.map_eq_some_iff.mp h
  exact of_decide_eq_true
    (List.all_eq_true.mp Service.registry_ports e (List.mem_of_find?_eq_some he))

/-! ### What suggestions keep -/

theorem keepFirst_subset {α : Type} {n : Int} {xs : List α} {x : α} (h : x ∈ keepFirst n xs) :
    x ∈ xs := by
  unfold keepFirst at h
  split at h <;> exact List.mem_of_mem_take h

theorem value_eq_name_of_mem_byPrefix {names : List String} {pfx : String} {o : Suggestion}
    (h : o ∈ byPrefix names pfx) : o.value = o.name := by
  unfold byPrefix at h
  split at h <;>
  · obtain ⟨n, -, rfl⟩ := List.mem_map.mp h
    rfl

theorem Suggestion.value_of_answers {o : Suggestion} (hv : o.value = o.name) {w : String}
    (h : o.answers w = true) : o.value = w := by
  rw [Suggestion.answers, hv, Bool.or_self, beq_iff_eq] at h
  rw [hv, h]

/-- What a lookup offers for a text keeps the text it answers to, but for a port or a protocol,
which keeps a numeral of few digits. -/
theorem Lookup.value_of_offered {l : Lookup} {s : Store} {w : String} {os : List Suggestion}
    (h : l.run s w = .ok os) {o : Suggestion} (ho : o ∈ os) (hans : o.answers w = true) :
    o.value = w ∨ (l = .ports ∨ l = .protocols) ∧ Text.Numeral.IsReadable o.value := by
  cases l with
  | nothing =>
    cases h
    exact absurd ho List.not_mem_nil
  | namespaces | kinds =>
    cases h
    exact .inl (Suggestion.value_of_answers (value_eq_name_of_mem_byPrefix ho) hans)
  | resources =>
    cases h
    unfold resourceSuggestions at ho
    dsimp only at ho
    split at ho <;> exact .inl (Suggestion.value_of_answers (value_eq_name_of_mem_byPrefix ho) hans)
  | ports =>
    change Service.suggest w = .ok os at h
    unfold Service.suggest at h
    split at h
    · -- a numeral offers its service, kept as the numeral
      split at h
      · exact nomatch h
      · split at h <;> cases h
        · rw [List.mem_singleton.mp ho]
          exact .inl rfl
        · exact absurd ho List.not_mem_nil
    · -- a service name offers itself, kept as its port
      split at h <;> cases h
      · next p hp =>
        rw [List.mem_singleton.mp ho]
        exact .inr ⟨.inl rfl, Text.Numeral.isReadable_toString (Service.port?_lt hp)⟩
      · exact absurd ho List.not_mem_nil
  | protocols =>
    cases h
    unfold Protocol.suggest at ho
    exact .inr ⟨.inr rfl, (Protocol.spec_of_mem (List.mem_of_mem_filter ho)).2.2.2⟩

/-- The text of a value made from a text: the text itself, or for a port or a protocol the
numeral of the suggestion it stands for. -/
theorem Definition.createValue_text {d : Definition} {s : Store} {w : String} {u : Value}
    (h : d.createValue s w = .ok u) :
    u.text = w ∨
      (d.lookup = .ports ∨ d.lookup = .protocols) ∧ Text.Numeral.IsReadable u.text := by
  obtain ⟨ans, hans, rfl⟩ := Except.map_eq_ok h
  obtain ⟨os, hos, rfl⟩ := Except.map_eq_ok hans
  obtain ⟨os', hrun, rfl⟩ := Except.map_eq_ok hos
  cases hfind : (keepFirst d.limit os').find? fun o => o.answers w with
  | none => exact .inl rfl
  | some o =>
    have hans := List.find?_some hfind
    exact d.lookup.value_of_offered hrun (keepFirst_subset (List.mem_of_find?_eq_some hfind)) hans

/-- A text makes a value that keeps it when every suggestion offered for it that it stands for
keeps it. -/
theorem Definition.createValue_of_offers {d : Definition} {s : Store} {x : String}
    {os : List Suggestion} (hrun : d.lookup.run s x = .ok os)
    (hos : ∀ o ∈ os, o.answers x = true → o.value = x) :
    ∃ u, d.createValue s x = .ok u ∧ u.text = x := by
  rw [Definition.createValue, Definition.answer?, Definition.suggest, hrun]
  refine ⟨_, rfl, ?_⟩
  dsimp only
  cases hfind : (keepFirst d.limit os).find? fun o => o.answers x with
  | none => rfl
  | some o =>
    have hans := List.find?_some hfind
    exact hos o (keepFirst_subset (List.mem_of_find?_eq_some hfind)) hans

/-! ### Settled texts -/

/-- In the flow catalog, suggestions from the port registry go with the port rule and
suggestions from the protocol registry with the protocol rule. -/
theorem Catalog.rule_of_lookup {g : Glossary} {limit : Int} {d : Definition}
    (hd : d ∈ (Catalog.standard g limit).definitions) :
    (d.lookup = .ports → d.rule = .port) ∧ (d.lookup = .protocols → d.rule = .protocol) := by
  have hall : ∀ p ∈ (Catalog.standard g limit).definitions.map fun d => (d.lookup, d.rule),
      (p.1 = .ports → p.2 = .port) ∧ (p.1 = .protocols → p.2 = .protocol) := by
    simp only [Catalog.standard, Catalog.standardDefinitions, peers, List.map_append,
      List.map_cons, List.map_nil, Catalog.base]
    decide
  exact hall _ (List.mem_map_of_mem hd)

/-- A text a definition keeps as it is: its rule accepts it unchanged, and the value made from
it keeps it. -/
def Definition.Settled (d : Definition) (s : Store) (x : String) : Prop :=
  d.validate x = .valid x ∧ ∃ u : Value, d.createValue s x = .ok u ∧ u.text = x

/-- A numeral of few digits is settled for a catalog definition whose suggestions come from the
port or the protocol registry. -/
theorem Definition.settled_numeral {g : Glossary} {limit : Int} {d : Definition}
    (hd : d ∈ (Catalog.standard g limit).definitions) (s : Store) {x : String}
    (hl : d.lookup = .ports ∨ d.lookup = .protocols) (hx : Text.Numeral.IsReadable x) :
    d.Settled s x := by
  obtain ⟨hdig, hlen⟩ := hx
  have hne : x.isEmpty = false := by
    simp only [Text.Numeral.isDigits, Bool.and_eq_true, Bool.not_eq_true'] at hdig
    exact hdig.1
  rcases hl with hl | hl
  · refine ⟨?_, ?_⟩
    · rw [Definition.validate, (Catalog.rule_of_lookup hd).1 hl, Rule.check, hne,
        if_neg Bool.false_ne_true, hdig, Bool.true_or, if_pos rfl]
    · -- a numeral offers at most its service, which keeps the numeral
      have hrun : ∃ os, Service.suggest x = .ok os ∧ ∀ o ∈ os, o.value = x := by
        rw [Service.suggest, if_pos hdig, if_neg (Nat.not_lt.mpr hlen)]
        split
        · exact ⟨_, rfl, fun o ho => by rw [List.mem_singleton.mp ho]⟩
        · exact ⟨_, rfl, fun o ho => absurd ho List.not_mem_nil⟩
      obtain ⟨os, hos, hval⟩ := hrun
      exact Definition.createValue_of_offers (by rw [hl]; exact hos) fun o ho _ => hval o ho
  · refine ⟨?_, ?_⟩
    · rw [Definition.validate, (Catalog.rule_of_lookup hd).2 hl, Rule.check, hne,
        if_neg Bool.false_ne_true, if_pos hdig]
    · -- no registered name is a numeral, so a protocol the numeral stands for has it as number
      refine Definition.createValue_of_offers (by rw [hl]; rfl) fun o ho hans => ?_
      unfold Protocol.suggest at ho
      have hname := (Protocol.spec_of_mem (List.mem_of_mem_filter ho)).2.1
      rw [Suggestion.answers, Bool.or_eq_true, beq_iff_eq, beq_iff_eq] at hans
      rcases hans with hans | hans
      · rw [hans, hdig] at hname
        exact absurd hname.symm Bool.false_ne_true
      · exact hans

/-- **What a load keeps is settled.** The value made from an accepted text keeps a text that a
second check accepts unchanged and a second creation keeps, provided a resource path's kind
capitalizes to itself. -/
theorem Definition.settled_createValue {g : Glossary} {limit : Int} {d : Definition}
    (hd : d ∈ (Catalog.standard g limit).definitions) (s : Store) {v w : String} {u : Value}
    (hv : d.validate v = .valid w) (hu : d.createValue s w = .ok u)
    (hk : d.rule = .resource →
      capitalize (ResourcePath.ofText u.text).kind = (ResourcePath.ofText u.text).kind) :
    d.Settled s u.text := by
  rcases Definition.createValue_text hu with htext | ⟨hl, hnum⟩
  · rw [htext] at hk ⊢
    exact ⟨Rule.check_idem hv hk, u, hu, htext⟩
  · exact Definition.settled_numeral hd s hl hnum

/-- The value made from an accepted text holds no link separator that was not typed. -/
theorem Definition.isUnseparated_createValue {d : Definition} {s : Store} {v w : String}
    {u : Value} (hv : d.validate v = .valid w) (hu : d.createValue s w = .ok u)
    (hsep : Text.isUnseparated v = true) : Text.isUnseparated u.text = true := by
  rcases Definition.createValue_text hu with htext | ⟨-, hnum⟩
  · rw [htext]
    exact Rule.isUnseparated_check hv hsep
  · exact Text.Numeral.isUnseparated_of_isDigits hnum.1

end FlowSelect
