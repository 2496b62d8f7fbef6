import FlowSelect.Suggest.Lookup
import FlowSelect.Proofs.SettledValue
/-! Completing a resource path one pick at a time.

A resource path is typed in three stages, kind, namespace and name, and a pick fills the part
being typed: the path is written back with a dot after each finished part, and the next pick is
made for that text. A kind or a namespace picked without a dot finishes one more part
(`ofText_complete_of_typing`); a pick for a complete path replaces its name and leaves the path
complete (`ofText_complete_of_complete`). So along any run of picks the stage climbs by one per
pick until the path is complete and stays there, a pick reports the path completed exactly when
it was made for a complete path, and the first complete text is the parts of the typed text
before its stage followed by the picks, in order (`completions_climb`). -/
namespace FlowSelect

theorem Text.cut_empty (sep : Char) : Text.cut "" sep = none := rfl

namespace ResourcePath

/-- The parts of a path before the one being typed. -/
def finished (p : ResourcePath) : List String := [p.kind, p.ns].take p.stage.index

/-- The completions met as suggestions are picked one after another for a resource path, each
pick made for the text the one before it left. -/
def completions (value : String) : List String → List Completion
  | [] => []
  | picked :: rest =>
    let c := ResourcePath.complete value picked
    c :: completions c.option.value rest

/-- Picks that hold no dot where they fill a kind or a namespace, along the run they make. -/
def DotFreePicks : String → List String → Prop
  | _, [] => True
  | value, picked :: rest =>
    ((ofText value).stage ≠ .complete → '.' ∉ picked.toList) ∧
      DotFreePicks (ResourcePath.complete value picked).option.value rest

theorem Stage.index_le (st : Stage) : st.index ≤ 2 := by
  cases st <;> decide

theorem Stage.index_eq_two_iff {st : Stage} : st.index = 2 ↔ st = .complete := by
  cases st <;> decide

theorem pick_stage (p : ResourcePath) (picked : String) : (p.pick picked).stage = p.stage := by
  unfold pick
  split <;> rfl

theorem pick_of_complete {p : ResourcePath} (hp : p.stage = .complete) (picked : String) :
    p.pick picked = ⟨p.kind, p.ns, picked, .complete⟩ := by
  obtain ⟨kind, ns, name, stage⟩ := p
  cases hp
  rfl

/-! ### Reading back a partly typed path -/

/-- A kind written with its dot reads back with the namespace still to type. -/
theorem ofText_kind_dot {k : String} (hk : '.' ∉ k.toList) :
    ofText (k ++ ".") = ⟨k, "", "", .typingNamespace⟩ := by
  have hcut : Text.cut (k ++ "." ++ "") '.' = some (k, "") := Text.cut_append rfl hk ""
  rw [String.append_empty] at hcut
  rw [ofText, hcut]
  simp only [Text.cut_empty]

/-- A kind and a namespace, each written with its dot, read back as a complete path whose name
is still empty. -/
theorem ofText_kind_ns_dot {k n : String} (hk : '.' ∉ k.toList) (hn : '.' ∉ n.toList) :
    ofText (k ++ "." ++ n ++ ".") = ⟨k, n, "", .complete⟩ := by
  have hcut : Text.cut (k ++ "." ++ (n ++ ".")) '.' = some (k, n ++ ".") :=
    Text.cut_append rfl hk _
  have hcut' : Text.cut (n ++ "." ++ "") '.' = some (n, "") := Text.cut_append rfl hn ""
  rw [String.append_empty] at hcut'
  have hassoc : k ++ "." ++ n ++ "." = k ++ "." ++ (n ++ ".") := String.append_assoc
  rw [ofText, hassoc, hcut]
  simp only [hcut']

/-! ### One pick -/

theorem complete_completed (v picked : String) :
    (complete v picked).completed = ((ofText v).stage == .complete) := by
  simp only [complete, pick_stage]

theorem complete_name (v picked : String) :
    (complete v picked).option.name = (complete v picked).option.value := rfl

/-- A pick holding no dot, made while a kind or a namespace is typed, finishes that part: the
path moves on by one stage. -/
theorem ofText_complete_of_typing {v picked : String} (hv : (ofText v).stage ≠ .complete)
    (hp : '.' ∉ picked.toList) :
    (ofText (complete v picked).option.value).stage.index = (ofText v).stage.index + 1 ∧
      (ofText (complete v picked).option.value).finished = (ofText v).finished ++ [picked] := by
  have hk := (dot_not_mem v).1
  cases hst : (ofText v).stage with
  | typingKind =>
    have hval : (complete v picked).option.value = picked ++ "." := by
      simp only [complete, pick, render, hst]
    rw [hval, ofText_kind_dot hp]
    simp [finished, Stage.index, hst]
  | typingNamespace =>
    have hval : (complete v picked).option.value = (ofText v).kind ++ "." ++ picked ++ "." := by
      simp only [complete, pick, render, hst]
    rw [hval, ofText_kind_ns_dot hk hp]
    simp [finished, Stage.index, hst]
  | complete => exact absurd hst hv

/-- A pick for a complete path gives its kind and namespace with the picked name, and the path
stays complete. -/
theorem ofText_complete_of_complete {v picked : String} (hv : (ofText v).stage = .complete) :
    (ofText (complete v picked).option.value).stage = .complete ∧
      (complete v picked).option.value = Text.joinWith "." ((ofText v).finished ++ [picked]) := by
  have hdots := dot_not_mem v
  have hval : (complete v picked).option.value = ((ofText v).pick picked).render := rfl
  rw [hval, pick_of_complete hv]
  refine ⟨?_, ?_⟩
  · rw [ofText_render (p := ⟨(ofText v).kind, (ofText v).ns, picked, .complete⟩) rfl hdots.1
      hdots.2]
  · simp [render, finished, hv, Stage.index, Text.joinWith, String.append_assoc]

/-- One pick moves the stage on by one, up to complete. -/
theorem index_complete {v picked : String}
    (hp : (ofText v).stage ≠ .complete → '.' ∉ picked.toList) :
    (ofText (complete v picked).option.value).stage.index = min ((ofText v).stage.index + 1) 2 := by
  by_cases hv : (ofText v).stage = .complete
  · rw [(ofText_complete_of_complete hv).1, hv]
    rfl
  · have hlt : (ofText v).stage.index < 2 := by
      have := Stage.index_le (ofText v).stage
      have := mt Stage.index_eq_two_iff.mp hv
      omega
    rw [(ofText_complete_of_typing hv (hp hv)).1]
    omega

/-! ### A run of picks -/

/-- Along a run of dot-free picks, the `k`-th completion (from zero) has the stage after
`k + 1` picks, reports completion exactly from the pick made for a complete path on, shows what
it keeps, and the first completed text is the finished parts of the typed text followed by the
picks. -/
theorem completions_climb {v : String} {ss : List String} (h : DotFreePicks v ss) {k : Nat}
    {c : Completion} (hc : (completions v ss)[k]? = some c) :
    (ofText c.option.value).stage.index = min ((ofText v).stage.index + k + 1) 2 ∧
      (c.completed = true ↔ 3 - (ofText v).stage.index ≤ k + 1) ∧
      c.option.name = c.option.value ∧
      (k + 1 = 3 - (ofText v).stage.index →
        c.option.value =
          Text.joinWith "." ((ofText v).finished ++ ss.take (3 - (ofText v).stage.index))) := by
  induction ss generalizing v k with
  | nil => simp [completions] at hc
  | cons s ss ih =>
    obtain ⟨hs, hrest⟩ := h
    have hle := Stage.index_le (ofText v).stage
    have hnext := index_complete hs
    cases k with
    | zero =>
      -- the first completion is the pick made for `v` itself
      simp only [completions, List.getElem?_cons_zero, Option.some.injEq] at hc
      subst hc
      refine ⟨by simpa using hnext, ?_, complete_name v s, ?_⟩
      · rw [complete_completed, beq_iff_eq, ← Stage.index_eq_two_iff]
        omega
      · intro h1
        have hv : (ofText v).stage = .complete := Stage.index_eq_two_iff.mp (by omega)
        rw [(ofText_complete_of_complete hv).2, show 3 - (ofText v).stage.index = 1 by omega]
        rfl
    | succ k =>
      -- the rest of the run starts from the text the first pick left
      simp only [completions, List.getElem?_cons_succ] at hc
      obtain ⟨ha, hb, hname, hd⟩ := ih hrest hc
      refine ⟨by omega, by rw [hb]; omega, hname, ?_⟩
      intro h1
      have hv : (ofText v).stage ≠ .complete := fun hv => by
        rw [← Stage.index_eq_two_iff] at hv
        omega
      obtain ⟨hidx, hfin⟩ := ofText_complete_of_typing hv (hs hv)
      rw [hd (by omega), hfin, hidx, List.append_assoc,
        show 3 - (ofText v).stage.index = (3 - ((ofText v).stage.index + 1)) + 1 by omega,
        List.take_succ_cons, List.singleton_append]

/-- Typing `po` and picking `Pod`, `default` and `web-1` completes `Pod.default.web-1` on the
third pick. -/
theorem completions_climb_pod :
    DotFreePicks "po" ["Pod", "default", "web-1"] ∧
      (completions "po" ["Pod", "default", "web-1"])[2]? =
        some ⟨true, ⟨"Pod.default.web-1", "Pod.default.web-1"⟩⟩ ∧
      ((ofText "Pod.default.web-1").stage.index = min ((ofText "po").stage.index + 2 + 1) 2 ∧
        (true = true ↔ 3 - (ofText "po").stage.index ≤ 2 + 1) ∧
        "Pod.default.web-1" = "Pod.default.web-1" ∧
        (2 + 1 = 3 - (ofText "po").stage.index →
          "Pod.default.web-1" = Text.joinWith "." ((ofText "po").finished ++
            ["Pod", "default", "web-1"].take (3 - (ofText "po").stage.index)))) := by
  have hdot : DotFreePicks "po" ["Pod", "default", "web-1"] := by
    simp only [DotFreePicks]
    exact ⟨fun _ => by decide, fun _ => by decide, fun _ => by decide, trivial⟩
  have hc : (completions "po" ["Pod", "default", "web-1"])[2]? =
      some ⟨true, ⟨"Pod.default.web-1", "Pod.default.web-1"⟩⟩ := by
    decide
  exact ⟨hdot, hc, completions_climb hdot hc⟩

end ResourcePath

end FlowSelect
