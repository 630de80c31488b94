import DeviceSplit.Targeting.Basic

set_option autoImplicit false

/-! # Replacing a dimension

Replacing what a record holds along a dimension forgets what it held there before, and keeps it well
formed (`Targeting.WellFormed.withDimension`). -/

namespace DeviceSplit

namespace DimensionTargeting

variable {d : Dimension}

theorem favouring_of_disjoint {t : DimensionTargeting d} (h : t.Disjoint) :
    favouring t.values t.alternatives = t := by
  refine ext rfl (SortedSet.ext fun v => ?_)
  rw [favouring, SortedSet.mem_diff]
  exact and_iff_left_of_imp fun hv hmem => h v hmem hv

theorem nonDefault_of_not_isDefault {t : DimensionTargeting d} (h : t.isDefault = false) :
    t.nonDefault = some t := by
  simp [nonDefault, h]

theorem nonDefault_eq_some_iff {t u : DimensionTargeting d} :
    t.nonDefault = some u ↔ t.isDefault = false ∧ t = u := by
  rw [nonDefault]
  by_cases h : t.isDefault
  · simp [h]
  · simp [h]

/-- A targeting with a value says something. -/
theorem nonDefault_favouring_single (v : d.Value) (among : SortedSet d.Value) :
    (favouring (.single v) among).nonDefault = some (favouring (.single v) among) := by
  refine nonDefault_of_not_isDefault (Bool.eq_false_iff.2 fun hdefault => ?_)
  have hvalues := (isDefault_iff.1 hdefault).1
  exact SortedSet.not_mem_empty v (hvalues ▸ SortedSet.mem_single.2 rfl)

end DimensionTargeting

namespace Targeting

variable {d : Dimension} {t : Targeting}

/-- Of two replacements of one dimension only the second counts. -/
theorem withDimension_withDimension (t : Targeting) (x y : DimensionTargeting d) :
    (t.withDimension x).withDimension y = t.withDimension y := by
  refine ext_get fun e => ?_
  by_cases he : d = e
  · subst he
    rw [get_withDimension_self, get_withDimension_self]
  · rw [get_withDimension_of_ne _ _ he, get_withDimension_of_ne _ _ he,
      get_withDimension_of_ne _ _ he]

theorem WellFormed.withDimension (ht : t.WellFormed) {x : DimensionTargeting d}
    (hdisjoint : x.Disjoint) (hadmissible : x.Admissible) : (t.withDimension x).WellFormed := by
  intro e y hy
  by_cases he : d = e
  · subst he
    rw [get_withDimension_self, DimensionTargeting.nonDefault_eq_some_iff] at hy
    obtain ⟨hdefault, rfl⟩ := hy
    exact ⟨hdefault, hdisjoint, hadmissible⟩
  · rw [get_withDimension_of_ne _ _ he] at hy
    exact ht e y hy

end Targeting

end DeviceSplit
