import DeviceSplit.Proofs.SortedSet
import DeviceSplit.Proofs.Targeting.Basic

set_option autoImplicit false

/-! # Several targetings of one dimension

Targetings of one dimension are joined by taking all their values, and as alternatives those that are
none of these values. A join forgets alternatives, and a later join may bring new values; that
nothing is lost by this is `join_flatten`: alternatives that an inner join forgets are values of the
outer one. -/

namespace DeviceSplit

namespace DimensionTargeting

variable {d : Dimension} {xs ys zs : List (DimensionTargeting d)} {x : DimensionTargeting d}
  {v : d.Value}

/-- What targetings say together, if they say anything. -/
def join (xs : List (DimensionTargeting d)) : Option (DimensionTargeting d) :=
  (favouring (.unions (xs.map (·.values))) (.unions (xs.map (·.alternatives)))).nonDefault

/-! ## The members of a join -/

theorem valuesOf_join (xs : List (DimensionTargeting d)) :
    valuesOf (join xs) = .unions (xs.map (·.values)) :=
  valuesOf_nonDefault _

theorem alternativesOf_join (xs : List (DimensionTargeting d)) :
    alternativesOf (join xs) =
      SortedSet.unions (xs.map (·.alternatives)) \ SortedSet.unions (xs.map (·.values)) :=
  alternativesOf_nonDefault _

theorem mem_valuesOf_join : v ∈ valuesOf (join xs) ↔ ∃ x ∈ xs, v ∈ x.values := by
  rw [valuesOf_join]
  exact SortedSet.mem_unions_map

theorem mem_alternativesOf_join :
    v ∈ alternativesOf (join xs) ↔
      (∃ x ∈ xs, v ∈ x.alternatives) ∧ ¬∃ x ∈ xs, v ∈ x.values := by
  rw [alternativesOf_join, SortedSet.mem_diff, SortedSet.mem_unions_map, SortedSet.mem_unions_map]

theorem mem_valuesOf {o : Option (DimensionTargeting d)} :
    v ∈ valuesOf o ↔ ∃ x ∈ o.toList, v ∈ x.values := by
  cases o with
  | none => simp [valuesOf]
  | some x => simp [valuesOf]

theorem mem_alternativesOf {o : Option (DimensionTargeting d)} :
    v ∈ alternativesOf o ↔ ∃ x ∈ o.toList, v ∈ x.alternatives := by
  cases o with
  | none => simp [alternativesOf]
  | some x => simp [alternativesOf]

/-- A join says nothing exactly when there are neither values nor alternatives. -/
theorem join_eq_none_iff :
    join xs = none ↔ valuesOf (join xs) = ∅ ∧ alternativesOf (join xs) = ∅ := by
  rw [valuesOf_join, alternativesOf_join, join, nonDefault]
  split
  · next h => exact iff_of_true rfl (isDefault_iff.1 h)
  · next h => exact iff_of_false (Option.some_ne_none _) fun hempty => h (isDefault_iff.2 hempty)

/-- What a join says, it says as part of a well-formed record. -/
theorem of_join_eq_some (h : join xs = some x) :
    x.isDefault = false ∧ x.Disjoint ∧ ((∀ y ∈ xs, y.Admissible) → x.Admissible) := by
  rw [join, nonDefault_eq_some_iff] at h
  obtain ⟨hdefault, rfl⟩ := h
  refine ⟨hdefault, disjoint_favouring _ _, fun hxs => ⟨?_, ?_⟩⟩
  · intro v hv
    obtain ⟨y, hy, hvy⟩ := SortedSet.mem_unions_map.1 hv
    exact (hxs y hy).1 v hvy
  · intro v hv
    obtain ⟨y, hy, hvy⟩ := SortedSet.mem_unions_map.1 (SortedSet.mem_diff.1 hv).1
    exact (hxs y hy).2 v hvy

/-! ## Laws of joins -/

/-- A join is determined by the values and by the alternatives that are none of them. -/
theorem join_congr (hvalues : ∀ v, (∃ x ∈ xs, v ∈ x.values) ↔ ∃ y ∈ ys, v ∈ y.values)
    (halternatives : ∀ v, (¬∃ y ∈ ys, v ∈ y.values) →
      ((∃ x ∈ xs, v ∈ x.alternatives) ↔ ∃ y ∈ ys, v ∈ y.alternatives)) :
    join xs = join ys := by
  refine congrArg nonDefault (ext ?_ ?_)
  · refine SortedSet.ext fun v => ?_
    exact SortedSet.mem_unions_map.trans ((hvalues v).trans SortedSet.mem_unions_map.symm)
  · refine SortedSet.ext fun v => ?_
    simp only [favouring, SortedSet.mem_diff, SortedSet.mem_unions_map]
    rw [hvalues v]
    exact and_congr_left (halternatives v)

/-- It does not matter in which order, or how often, targetings are joined. -/
theorem join_congr_of_mem_iff (h : ∀ x, x ∈ xs ↔ x ∈ ys) : join xs = join ys := by
  refine join_congr (fun v => ?_) (fun v _ => ?_)
  · simp only [h]
  · simp only [h]

/-- A targeting that keeps values and alternatives apart is its own join. -/
theorem join_singleton (hx : x.Disjoint) : join [x] = x.nonDefault := by
  have hvalues : SortedSet.unions ([x].map (·.values)) = x.values :=
    SortedSet.unions_map_eq (List.cons_ne_nil _ _) fun y hy => by rw [List.mem_singleton.1 hy]
  have halternatives : SortedSet.unions ([x].map (·.alternatives)) = x.alternatives :=
    SortedSet.unions_map_eq (List.cons_ne_nil _ _) fun y hy => by rw [List.mem_singleton.1 hy]
  rw [join, hvalues, halternatives, favouring_of_disjoint hx]

/-- Targetings can be joined in groups, and the groups afterwards. -/
theorem join_flatten (xs ys zs : List (DimensionTargeting d)) :
    join (xs ++ (join ys).toList ++ zs) = join (xs ++ ys ++ zs) := by
  have hvalues (v : d.Value) : (∃ x ∈ xs ++ (join ys).toList ++ zs, v ∈ x.values) ↔
      ∃ x ∈ xs ++ ys ++ zs, v ∈ x.values := by
    have hinner : (∃ x ∈ (join ys).toList, v ∈ x.values) ↔ ∃ y ∈ ys, v ∈ y.values :=
      mem_valuesOf.symm.trans mem_valuesOf_join
    simp only [List.mem_append, or_and_right, exists_or, hinner]
  refine join_congr hvalues fun v hnot => ?_
  have hinner : (∃ x ∈ (join ys).toList, v ∈ x.alternatives) ↔
      (∃ y ∈ ys, v ∈ y.alternatives) ∧ ¬∃ y ∈ ys, v ∈ y.values :=
    mem_alternativesOf.symm.trans mem_alternativesOf_join
  -- What the inner join forgets are its values, and `v` is no value at all.
  have hys : ¬∃ y ∈ ys, v ∈ y.values := by
    rintro ⟨y, hy, hv⟩
    exact hnot ⟨y, by simp [hy], hv⟩
  simp only [List.mem_append, or_and_right, exists_or, hinner, hys, not_false_eq_true, and_true]

end DimensionTargeting

end DeviceSplit
