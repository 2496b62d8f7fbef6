import FlowSelect.Proofs.ResourceCompletion
/-! Reading a resource path from text and writing it back.

Reading cuts a text at its first two dots, and writing puts the dots back with a trailing dot
after a finished part. The three shapes a read can give (`ofText_cases`) settle both directions.
A text is read at the stage its number of dots gives, up to two (`stage_ofText`), and written
back as itself when it has two dots or more, with one dot more otherwise (`render_ofText`). A
path whose kind and namespace hold no dot is read back from what it writes when it is complete;
a partial path is read back one stage further on with the parts after its stage empty, since
the trailing dot finishes the part that was being typed (`text_round_trips`). -/
namespace FlowSelect

/-- A text cut at a separator is its first part, the separator and its second part. -/
theorem Text.toList_of_cut {s : String} {sep : Char} {a b : String}
    (h : Text.cut s sep = some (a, b)) : s.toList = a.toList ++ sep :: b.toList := by
  obtain ⟨⟨a', b'⟩, hp, he⟩ := Option.map_eq_some_iff.mp h
  cases he
  simpa using Text.eq_of_cutChars hp

namespace ResourcePath

/-- **The three shapes of a read.** A text without a dot is a kind being typed; a text with
one dot is a kind and a namespace being typed; a text with more is a complete path whose name
holds every dot after the second. -/
theorem ofText_cases (p : String) :
    (ofText p = ⟨p, "", "", .typingKind⟩ ∧ '.' ∉ p.toList) ∨
      (∃ kind ns, ofText p = ⟨kind, ns, "", .typingNamespace⟩ ∧
        p.toList = kind.toList ++ '.' :: ns.toList ∧ '.' ∉ kind.toList ∧ '.' ∉ ns.toList) ∨
      (∃ kind ns name, ofText p = ⟨kind, ns, name, .complete⟩ ∧
        p.toList = kind.toList ++ '.' :: (ns.toList ++ '.' :: name.toList) ∧
        '.' ∉ kind.toList ∧ '.' ∉ ns.toList) := by
  unfold ofText
  split
  · next hcut => exact .inl ⟨rfl, Text.not_mem_of_cut_none hcut⟩
  · next kind rest hcut =>
    have hp := Text.toList_of_cut hcut
    have hk := Text.not_mem_of_cut hcut
    split
    · next hcut' => exact .inr (.inl ⟨kind, rest, rfl, hp, hk, Text.not_mem_of_cut_none hcut'⟩)
    · next ns name hcut' =>
      rw [Text.toList_of_cut hcut'] at hp
      exact .inr (.inr ⟨kind, ns, name, rfl, hp, hk, Text.not_mem_of_cut hcut'⟩)

/-- A text is read at the stage its number of dots gives, counting up to two. -/
theorem stage_ofText (p : String) : (ofText p).stage.index = min (p.toList.count '.') 2 := by
  rcases ofText_cases p with ⟨hr, hp⟩ | ⟨kind, ns, hr, hp, hk, hn⟩ |
      ⟨kind, ns, name, hr, hp, hk, hn⟩
  · rw [hr, List.count_eq_zero.mpr hp]
    rfl
  · rw [hr, hp, List.count_append, List.count_cons_self, List.count_eq_zero.mpr hk,
      List.count_eq_zero.mpr hn]
    rfl
  · rw [hr, hp, List.count_append, List.count_cons_self, List.count_append, List.count_cons_self,
      List.count_eq_zero.mpr hk, List.count_eq_zero.mpr hn]
    show 2 = min _ 2
    omega

/-- A text is read as complete exactly when it holds two dots or more. -/
theorem stage_ofText_eq_complete_iff (p : String) :
    (ofText p).stage = .complete ↔ 2 ≤ p.toList.count '.' := by
  rw [← Stage.index_eq_two_iff, stage_ofText]
  omega

/-- A text read as a path and written back is itself when it holds two dots or more, and gains
a trailing dot otherwise. -/
theorem render_ofText (p : String) :
    (ofText p).render = if 2 ≤ p.toList.count '.' then p else p ++ "." := by
  simp only [← stage_ofText_eq_complete_iff]
  rcases ofText_cases p with ⟨hr, -⟩ | ⟨kind, ns, hr, hp, -⟩ | ⟨kind, ns, name, hr, hp, -⟩
  · rw [hr]
    rfl
  · rw [hr, if_neg (by simp), ← String.toList_inj]
    simp [render, hp]
  · rw [hr, if_pos rfl, ← String.toList_inj]
    simp [render, hp]

/-- **Reading and writing resource paths.** A text read as a path and written back is itself
when it holds two dots or more, and gains a trailing dot otherwise. A path whose kind and
namespace hold no dot, written and read back, is itself when complete; a partial path moves on
one stage, its part being typed finished by the trailing dot and the parts after it empty. -/
theorem text_round_trips :
    (∀ p : String, (ofText p).render = if 2 ≤ p.toList.count '.' then p else p ++ ".") ∧
      ∀ r : ResourcePath, '.' ∉ r.kind.toList → '.' ∉ r.ns.toList →
        (r.stage = .complete → ofText r.render = r) ∧
        (r.stage = .typingKind → ofText r.render = ⟨r.kind, "", "", .typingNamespace⟩) ∧
        (r.stage = .typingNamespace → ofText r.render = ⟨r.kind, r.ns, "", .complete⟩) := by
  refine ⟨render_ofText, fun r hk hn => ⟨fun hs => ofText_render hs hk hn, fun hs => ?_,
    fun hs => ?_⟩⟩
  · rw [render, hs]
    exact ofText_kind_dot hk
  · rw [render, hs]
    exact ofText_kind_ns_dot hk hn

/-- `Pod.ns.`, written for a namespace being typed, reads back as a complete path with an empty
name. -/
theorem text_round_trips_pod :
    '.' ∉ "Pod".toList ∧ '.' ∉ "ns".toList ∧
      ofText (render ⟨"Pod", "ns", "", .typingNamespace⟩) = ⟨"Pod", "ns", "", .complete⟩ :=
  ⟨by decide, by decide,
    (text_round_trips.2 ⟨"Pod", "ns", "", .typingNamespace⟩ (by decide) (by decide)).2.2 rfl⟩

end ResourcePath

end FlowSelect
