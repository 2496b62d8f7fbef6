import FlowSelect.Page
import FlowSelect.Proofs.GroupMerge
import FlowSelect.Proofs.LinkRoundTrip
import FlowSelect.Proofs.NumeralRoundTrip
/-! The state of a page written into its link parameters and read back.

A page's parameters hold the link of its filters, its range (`timeRange`, or `startTime` and
`endTime`), its limit, its match mode and its reporter, each under its own key. Every number is
written as its decimal numeral, which reads back as the number when it has at most `digitLimit`
digits. The readers take a zero for a missing number, so a state reads back exactly when none
of its numbers is zero (`pageParams_read`): a range and a limit of zero read as the defaults, and
so does a window with a zero end, which falls back to the default relative range however the
other end reads (`range_pageParams_of_zero`). -/
namespace FlowSelect

/-- A range whose parameters read back as it: its numbers can be written, and none of them is
zero, which reads as missing. -/
def Range.Readable : Range → Prop
  | .relative r => r ≠ 0 ∧ Text.Numeral.Writable r
  | .window a b => a ≠ 0 ∧ b ≠ 0 ∧ Text.Numeral.Writable a ∧ Text.Numeral.Writable b

/-! ### Parameters under distinct keys -/

namespace OrderedMap

variable {β : Type}

/-- Writing pairs whose keys are new appends them to the entries, in order. -/
theorem entries_foldl_insert (ps : List (String × β)) :
    ∀ m : OrderedMap β, ((m.entries ++ ps).map Prod.fst).Nodup →
      (ps.foldl (fun (m : OrderedMap β) p => m.insert p.1 p.2) m).entries = m.entries ++ ps := by
  induction ps with
  | nil => intro m _; simp
  | cons p ps ih =>
    intro m hn
    have hp : p.1 ∉ m.keys := by
      rw [List.map_append, List.map_cons, List.nodup_append] at hn
      exact fun hmem => hn.2.2 _ hmem _ List.mem_cons_self rfl
    -- the first pair is new, so it goes last, and the rest are new after it
    have hins : (m.insert p.1 p.2).entries = m.entries ++ [p] := insertEntry_of_not_mem _ hp
    rw [List.foldl_cons, ih _ (by rw [hins]; simpa using hn), hins]
    simp

/-- Pairs whose keys are distinct make a map of exactly those entries, in order. -/
theorem ofList_of_nodup {ps : List (String × β)} (h : (ps.map Prod.fst).Nodup) :
    ofList ps = ⟨ps, h⟩ :=
  OrderedMap.ext (entries_foldl_insert ps empty (by simpa [empty] using h))

theorem get?_mk (ps : List (String × β)) (h : (ps.map Prod.fst).Nodup) (k : String) :
    (⟨ps, h⟩ : OrderedMap β).get? k = (ps.find? fun e => e.1 == k).map Prod.snd := rfl

end OrderedMap

/-- A number written under a key reads back from it. -/
theorem Params.int?_of_get? {p : Params} {key : String} {n : Int}
    (h : p.get? key = some (toString n)) (hn : Text.Numeral.Writable n) : p.int? key = some n := by
  rw [Params.int?, h, Option.bind_some, Text.Numeral.read_toString hn]

/-- A key that holds nothing reads as no number. -/
theorem Params.int?_of_get?_none {p : Params} (key : String) (h : p.get? key = none) :
    p.int? key = none := by
  rw [Params.int?, h, Option.bind_none]

/-- A numeral written under a key reads back from it as the number written. -/
theorem Params.int?_of_write {p : Params} {key t : String} {n : Int} (h : p.get? key = some t)
    (hw : Text.Numeral.write n = .ok t) : p.int? key = some n := by
  rw [Params.int?, h, Option.bind_some, Text.Numeral.read_write hw]

theorem nonZero?_some {n : Int} (h : n ≠ 0) : nonZero? (some n) = some n := by
  rw [nonZero?, if_neg h]

theorem nonZero?_zero : nonZero? (some 0) = none := rfl

theorem Match.ofText?_text (m : Match) : Match.ofText? m.text = some m := by
  cases m <;> rfl

theorem Reporter.ofText?_text (r : Reporter) : Reporter.ofText? r.text = some r := by
  cases r <;> rfl

/-- The parameters of a page whose numbers can be written: under distinct keys, the filters'
link, the range's numerals, the limit's numeral, the match mode and the reporter. -/
theorem pageParams_eq (fs : List Filter) (range : Range) (mode : Match) (reporter : Reporter)
    {limit : Int} (hl : Text.Numeral.Writable limit) (rs : List (String × String))
    (hr : range.params = .ok rs) :
    pageParams fs range mode reporter limit =
      .ok (OrderedMap.ofList ([("filters", linkText fs)] ++ rs ++
        [("limit", toString limit), ("match", mode.text), ("reporter", reporter.text)])) := by
  rw [pageParams, hr, Text.Numeral.write_eq_ok hl]
  rfl

/-! ### Reading the state back -/

/-- **Page state round trip.** A page whose range and limit are not zero and whose numbers can
be written has parameters, and they read back as its range, limit, match mode and reporter. -/
theorem pageParams_read (fs : List Filter) {range : Range} (hr : range.Readable) (mode : Match)
    (reporter : Reporter) {limit : Int} (hl : limit ≠ 0) (hlw : Text.Numeral.Writable limit) :
    ∃ p, pageParams fs range mode reporter limit = .ok p ∧
      p.range = range ∧ p.limit = limit ∧ p.mode = mode ∧ p.reporter = reporter := by
  cases range with
  | relative r =>
    obtain ⟨hr0, hrw⟩ := hr
    refine ⟨_, pageParams_eq fs _ mode reporter hlw [("timeRange", toString r)]
      (by rw [Range.params, Text.Numeral.write_eq_ok hrw]; rfl), ?_⟩
    rw [OrderedMap.ofList_of_nodup (by simp)]
    refine ⟨?_, ?_, ?_, ?_⟩
    · rw [Params.range, Params.int?_of_get? (by simp [OrderedMap.get?_mk]) hrw, nonZero?_some hr0]
    · rw [Params.limit, Params.int?_of_get? (by simp [OrderedMap.get?_mk]) hlw, nonZero?_some hl]
      rfl
    · simp [Params.mode, OrderedMap.get?_mk, Match.ofText?_text]
    · simp [Params.reporter, OrderedMap.get?_mk, Reporter.ofText?_text]
  | window a b =>
    obtain ⟨ha0, hb0, haw, hbw⟩ := hr
    refine ⟨_, pageParams_eq fs _ mode reporter hlw
      [("startTime", toString a), ("endTime", toString b)]
      (by rw [Range.params, Text.Numeral.write_eq_ok haw, Text.Numeral.write_eq_ok hbw]; rfl), ?_⟩
    rw [OrderedMap.ofList_of_nodup (by simp)]
    refine ⟨?_, ?_, ?_, ?_⟩
    · -- no relative range is written, so the window is read
      rw [Params.range, Params.int?_of_get?_none "timeRange" (by simp [OrderedMap.get?_mk]),
        Params.int?_of_get? (by simp [OrderedMap.get?_mk]) haw,
        Params.int?_of_get? (by simp [OrderedMap.get?_mk]) hbw, nonZero?_some ha0,
        nonZero?_some hb0]
      rfl
    · rw [Params.limit, Params.int?_of_get? (by simp [OrderedMap.get?_mk]) hlw, nonZero?_some hl]
      rfl
    · simp [Params.mode, OrderedMap.get?_mk, Match.ofText?_text]
    · simp [Params.reporter, OrderedMap.get?_mk, Reporter.ofText?_text]

/-- The state the page link test writes: a window from 10 to 20, any filter, the source
reporter and a limit of 25. -/
theorem pageParams_read_window :
    ((Range.window 10 20).Readable ∧ (25 : Int) ≠ 0 ∧ Text.Numeral.Writable 25) ∧
      ∃ p, pageParams [] (.window 10 20) .any .source 25 = .ok p ∧
        p.range = .window 10 20 ∧ p.limit = 25 ∧ p.mode = .any ∧ p.reporter = .source := by
  have hl : Text.Numeral.Writable 25 := by decide +kernel
  have hr : (Range.window 10 20).Readable :=
    ⟨by decide, by decide, by decide +kernel, by decide +kernel⟩
  exact ⟨⟨hr, by decide, hl⟩, pageParams_read [] hr .any .source (by decide) hl⟩

/-- A window with a zero end reads as the default relative range: a zero reads as missing, and
a window needs both of its ends. -/
theorem range_pageParams_of_zero (fs : List Filter) {a b : Int} (h0 : a = 0 ∨ b = 0)
    (mode : Match) (reporter : Reporter) (limit : Int) {p : Params}
    (hp : pageParams fs (.window a b) mode reporter limit = .ok p) :
    p.range = .relative defaultRange := by
  obtain ⟨rs, hrs, hp⟩ := Except.bind_eq_ok hp
  obtain ⟨l, hl, hp⟩ := Except.bind_eq_ok hp
  obtain ⟨ta, hta, hrs⟩ := Except.bind_eq_ok hrs
  obtain ⟨tb, htb, hrs⟩ := Except.bind_eq_ok hrs
  cases hrs
  cases hp
  rw [OrderedMap.ofList_of_nodup (by simp)]
  -- both ends read back, and the zero one counts as missing
  rw [Params.range, Params.int?_of_get?_none "timeRange" (by simp [OrderedMap.get?_mk]),
    Params.int?_of_write (by simp [OrderedMap.get?_mk]) hta,
    Params.int?_of_write (by simp [OrderedMap.get?_mk]) htb]
  rcases h0 with rfl | rfl
  · rfl
  · rw [nonZero?_zero]
    cases nonZero? (some a) <;> rfl

end FlowSelect
