import FlowSelect.Filter.Load
import FlowSelect.Proofs.LoadRoundTrip
/-! When a load warns of ignored entries.

Reading a link decodes its text, cuts it at `;` and skips every piece with other than one `=` or
whose id the catalog does not know (`skippedEntries`); the empty pieces are skipped too, and
the warning does not count them. Every non-empty piece is either skipped or read, and every
piece read gives one filter (`length_nonEmpty_pieces`). The warning, though, counts the
non-empty pieces of the text as given, before decoding, less the filters read.

A text without `%` decodes to itself (`Text.Percent.decode_of_not_mem`), so for it the warning is
exact: it names the number of entries skipped, and is given exactly when one is
(`loadFilters_warnings_of_unescaped`). An escaped separator breaks this: `%3B` is one piece as
given and two empty pieces once decoded, so its load warns of one ignored entry where none was
skipped (`loadFilters_warns_of_escaped_separator`). -/
namespace FlowSelect

/-- A text without `%` decodes to itself. -/
theorem Text.Percent.decode_of_not_mem {t : String} (h : '%' ∉ t.toList) :
    Text.Percent.decode t = t := by
  rw [Text.Percent.decode, if_neg]
  simpa [String.contains] using h

/-- The entries that reading a link skips: the non-empty pieces of the decoded text, cut at
`;`, that have other than one `=` or whose id the catalog does not know. -/
def skippedEntries (c : Catalog) (text : String) : List String :=
  (Text.pieces (Text.Percent.decode text) ';').filter fun e =>
    !e.isEmpty && (readLinkEntry c e).isNone

/-- The non-empty pieces of a text cut at `;`. -/
def nonEmptyPieces (text : String) : List String :=
  (Text.pieces text ';').filter (!·.isEmpty)

/-- An empty entry has no `=`, so reading skips it. -/
theorem readLinkEntry_empty (c : Catalog) : readLinkEntry c "" = none := rfl

/-- The entries of a link are what reading keeps of the pieces of its decoded text. -/
theorem readLinkEntries_eq_filterMap (c : Catalog) (text : String) :
    readLinkEntries c text =
      (Text.pieces (Text.Percent.decode text) ';').filterMap (readLinkEntry c) := by
  unfold readLinkEntries
  split
  · next h =>
    rw [String.isEmpty_iff.mp h, Text.Percent.decode_of_not_mem (by simp)]
    rfl
  · rfl

/-- Each non-empty piece is skipped or read: an empty piece is never read. -/
theorem length_nonEmpty_eq (c : Catalog) (es : List String) :
    (es.filter (!·.isEmpty)).length =
      (es.filter fun e => !e.isEmpty && (readLinkEntry c e).isNone).length +
        (es.filterMap (readLinkEntry c)).length := by
  induction es with
  | nil => rfl
  | cons e es ih =>
    cases he : e.isEmpty with
    | true =>
      -- an empty piece is neither counted nor read
      rw [String.isEmpty_iff.mp he]
      simp [List.filterMap_cons, readLinkEntry_empty, ih]
    | false =>
      cases hr : readLinkEntry c e with
      | none => simp [he, hr, ih]; omega
      | some x => simp [he, hr, ih]; omega

/-- The non-empty pieces of a decoded link are the entries skipped and the entries read. -/
theorem length_nonEmpty_pieces (c : Catalog) (text : String) :
    (nonEmptyPieces (Text.Percent.decode text)).length =
      (skippedEntries c text).length + (readLinkEntries c text).length := by
  rw [nonEmptyPieces, skippedEntries, readLinkEntries_eq_filterMap]
  exact length_nonEmpty_eq c _

/-- The filters of a link are as many as its entries read. -/
theorem length_filtersOfLink {c : Catalog} {s : Store} {text : String} {fs : List Filter}
    (h : filtersOfLink c s text = .ok fs) : fs.length = (readLinkEntries c text).length :=
  (mapM_eq_ok_iff.mp h).length_eq.symm

/-- A load counts as ignored the non-empty pieces of the text as given, less the filters read. -/
theorem loadFilters_ignored {c : Catalog} {s : Store} {t : String} {L : Loaded}
    (h : loadFilters c s t = .ok L) :
    L.ignored = (nonEmptyPieces t).length - (readLinkEntries c t).length := by
  unfold loadFilters at h
  obtain ⟨fs, hfs, h⟩ := Except.bind_eq_ok h
  obtain ⟨p, -, h⟩ := Except.bind_eq_ok h
  cases h
  rw [← length_filtersOfLink hfs]
  rfl

/-- **Without escapes, the warning counts the entries skipped.** A load of a text without `%`
warns of `k` ignored entries exactly when reading the text skipped `k > 0` non-empty entries,
for their form or their id. -/
theorem loadFilters_warnings_of_unescaped {c : Catalog} {s : Store} {t : String} {L : Loaded}
    (ht : '%' ∉ t.toList) (h : loadFilters c s t = .ok L) :
    L.warnings =
      if 0 < (skippedEntries c t).length then [ignoredText (skippedEntries c t).length] else [] := by
  have hcount := length_nonEmpty_pieces c t
  rw [Text.Percent.decode_of_not_mem ht] at hcount
  -- the pieces as given are the pieces decoded, so the count is the skipped entries
  have hign : L.ignored = (skippedEntries c t).length := by
    rw [loadFilters_ignored h, hcount, Nat.add_sub_cancel]
  rw [Loaded.warnings, hign]

/-- Unknown and malformed entries, and an empty one, in a text without escapes. -/
theorem loadFilters_warnings_of_unescaped_unknown :
    let c := Catalog.standard Glossary.plain defaultLimit
    let t := "foo=1;;bar"
    '%' ∉ t.toList ∧ ∃ L, loadFilters c Store.empty t = .ok L ∧
      L.warnings =
        if 0 < (skippedEntries c t).length then [ignoredText (skippedEntries c t).length] else [] := by
  intro c t
  have ht : '%' ∉ t.toList := by decide
  have hread : readLinkEntries c t = [] := by
    rw [readLinkEntries_eq_filterMap, Text.Percent.decode_of_not_mem ht]
    exact List.isEmpty_iff.mp (by decide +kernel)
  have hL : loadFilters c Store.empty t = .ok ⟨[], [], ignoredEntries t []⟩ := by
    rw [loadFilters, filtersOfLink, hread]
    rfl
  exact ⟨ht, _, hL, loadFilters_warnings_of_unescaped ht hL⟩

/-- An escaped separator: `%3B` is one entry as given and two empty ones decoded, so its load
warns of one ignored entry, though reading skipped none. -/
theorem loadFilters_warns_of_escaped_separator :
    let c := Catalog.standard Glossary.plain defaultLimit
    ∃ L, loadFilters c Store.empty "%3B" = .ok L ∧ L.warnings = [ignoredText 1] ∧
      skippedEntries c "%3B" = [] := by
  intro c
  have hdec : Text.Percent.decode "%3B" = ";" := by
    rw [show "%3B" = Text.Percent.encode ";" by decide +kernel, Text.Percent.decode_encode]
  have hread : readLinkEntries c "%3B" = [] := by
    rw [readLinkEntries_eq_filterMap, hdec]
    rfl
  refine ⟨⟨[], [], 1⟩, ?_, rfl, ?_⟩
  · rw [loadFilters, filtersOfLink, hread]
    rfl
  · rw [skippedEntries, hdec]
    rfl

end FlowSelect
