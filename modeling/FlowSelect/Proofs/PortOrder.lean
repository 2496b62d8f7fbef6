import FlowSelect.Registry.Service
/-! The order of sorted ports.

Ports are sorted stably by a three-way comparison: a port moves before an earlier one only when
it compares below it. The comparison is the order of the ports' keys, ports with a service
first by their shown text in lower case, then the others by number (`not_comparePorts_lt`); so
the comparison is total and transitive, and sorting ports is a stable sort by their keys. Main
statement: `sortPorts_sorted_stable`, the sorted list holds the same ports, in key order, and
the ports of each key in the order given. These three facts fix the sorted list. -/
namespace FlowSelect.Service

/-- Whether one port may stand before another in a sorted list. -/
def portLe (a b : Int) : Bool := (sortKey a).le (sortKey b)

theorem portLe_trans (a b c : Int) (hab : portLe a b = true) (hbc : portLe b c = true) :
    portLe a c = true :=
  SortKey.le_trans _ _ _ hab hbc

theorem portLe_total (a b : Int) : (portLe a b || portLe b a) = true :=
  SortKey.le_total _ _

/-- Two texts compared both ways put the first after the second only when it is greater. -/
theorem not_compareTexts_lt (x y : String) :
    (!decide ((if x < y then 1 else 0) - (if y < x then 1 else 0) < (0 : Int))) =
      decide (x ≤ y) := by
  by_cases hlt : y < x
  · simp [hlt, String.lt_asymm hlt, String.not_le.mpr hlt]
  · simp only [hlt, if_false, Int.sub_zero, String.not_lt.mp hlt, decide_true]
    split <;> decide

/-- A port stays before another exactly when its key may stand first: the three-way comparison
is the key order. -/
theorem not_comparePorts_lt (a b : Int) : (!decide (comparePorts b a < 0)) = portLe a b := by
  unfold comparePorts portLe sortKey
  cases ha : name? a <;> cases hb : name? b
  · -- two ports without services compare by number
    by_cases h : a ≤ b
    · simp [SortKey.le, h, show ¬ b - a < 0 by omega]
    · simp [SortKey.le, h, show b - a < 0 by omega]
  · simp [SortKey.le]
  · simp [SortKey.le]
  · next s t =>
    exact not_compareTexts_lt (Text.lower (s ++ " (" ++ toString a ++ ")"))
      (Text.lower (t ++ " (" ++ toString b ++ ")"))

theorem sortPorts_eq_mergeSort (ps : List Int) : sortPorts ps = ps.mergeSort portLe := by
  unfold sortPorts
  congr
  funext a b
  exact not_comparePorts_lt a b

/-- The ports of one key, taken in order, are pairwise in key order. -/
theorem pairwise_filter_key (ps : List Int) (k : SortKey) :
    (ps.filter fun p => sortKey p == k).Pairwise (fun a b => portLe a b = true) := by
  rw [List.pairwise_filter]
  apply List.pairwise_of_forall
  intro a b ha hb
  simp only [beq_iff_eq] at ha hb
  simp [portLe, ha, hb, SortKey.le_refl]

/-- Sorting keeps the ports of each key in the order given. -/
theorem filter_key_sortPorts (ps : List Int) (k : SortKey) :
    (sortPorts ps).filter (fun p => sortKey p == k) = ps.filter fun p => sortKey p == k := by
  rw [sortPorts_eq_mergeSort]
  have hsub : List.Sublist (ps.filter fun p => sortKey p == k) (ps.mergeSort portLe) :=
    List.sublist_mergeSort portLe_trans portLe_total (pairwise_filter_key ps k) (List.filter_sublist)
  have hsub' : List.Sublist (ps.filter fun p => sortKey p == k)
      ((ps.mergeSort portLe).filter (fun p => sortKey p == k)) := by
    have h := hsub.filter (fun p => sortKey p == k)
    simpa [List.filter_filter] using h
  have hlen : ((ps.mergeSort portLe).filter (fun p => sortKey p == k)).length =
      (ps.filter fun p => sortKey p == k).length :=
    ((List.mergeSort_perm ps portLe).filter _).length_eq
  exact (hsub'.eq_of_length hlen.symm).symm

theorem sortPorts_sorted_stable (ps : List Int) :
    (sortPorts ps).Perm ps ∧
    (sortPorts ps).Pairwise (fun a b => (sortKey a).le (sortKey b) = true) ∧
    ∀ k : SortKey,
      (sortPorts ps).filter (fun p => sortKey p == k) = ps.filter fun p => sortKey p == k := by
  have hstable := filter_key_sortPorts ps
  rw [sortPorts_eq_mergeSort] at hstable ⊢
  exact ⟨List.mergeSort_perm ps portLe, List.pairwise_mergeSort portLe_trans portLe_total ps,
    hstable⟩

end FlowSelect.Service
