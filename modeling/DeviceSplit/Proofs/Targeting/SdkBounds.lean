import Mathlib.Order.Bounds.Basic
import DeviceSplit.Proofs.Targeting.SdkRange

set_option autoImplicit false

/-! # The bounds of a range

A targeting of platform levels may have any number of values and alternatives, on either side of each
other and above the highest level. Its range starts at the least value and ends at the least
alternative above the start (`minSdk_spec`, `maxSdk_spec`), so no alternative lies inside it. At the
start itself there can be an alternative only if there are no values: the start is then not one of
them. The main statement is `sdkRange_bounds`. -/

namespace DeviceSplit

open DimensionTargeting

variable {t : Option (DimensionTargeting .sdkVersion)}

/-- A range starts at the least value, and if there is none, at the lowest level. -/
theorem minSdk_spec (t : Option (DimensionTargeting .sdkVersion)) :
    (minSdk t = lowestSdk ∧ ∀ v, v ∉ valuesOf t) ∨
      ∃ v ∈ valuesOf t, minSdk t = v.min ∧ ∀ x ∈ valuesOf t, v.min ≤ x.min := by
  have hmin : minSdk t = ((valuesOf t).toList.map SdkVersion.min).min?.getD lowestSdk := rfl
  rw [hmin]
  cases hleast : ((valuesOf t).toList.map SdkVersion.min).min? with
  | none =>
    rw [List.min?_eq_none_iff, List.map_eq_nil_iff] at hleast
    exact Or.inl ⟨rfl, fun v hv => List.not_mem_nil (hleast ▸ SortedSet.mem_def.1 hv)⟩
  | some m =>
    obtain ⟨hm, hle⟩ := List.min?_eq_some_iff.1 hleast
    obtain ⟨v, hv, rfl⟩ := List.mem_map.1 hm
    exact Or.inr ⟨v, hv, rfl, fun x hx => hle x.min (List.mem_map_of_mem hx)⟩

theorem isLeast_minSdk (hsome : ∃ v, v ∈ valuesOf t) :
    IsLeast {n | ∃ v ∈ valuesOf t, v.min = n} (minSdk t) := by
  rcases minSdk_spec t with ⟨-, hnone⟩ | ⟨v, hv, hmin, hleast⟩
  · obtain ⟨v, hv⟩ := hsome
    exact absurd hv (hnone v)
  · refine ⟨⟨v, hv, hmin.symm⟩, ?_⟩
    rintro _ ⟨x, hx, rfl⟩
    exact hmin ▸ hleast x hx

theorem isLeast_maxSdk (hsome : ∃ a ∈ alternativesOf t, minSdk t < a.min) :
    IsLeast {n | ∃ a ∈ alternativesOf t, a.min = n ∧ minSdk t < n} (maxSdk t) := by
  rcases maxSdk_spec t with ⟨-, hnone⟩ | ⟨w, hw, hmax, hlt, hleast⟩
  · obtain ⟨a, ha, halt⟩ := hsome
    exact absurd halt (Nat.not_lt.2 (hnone a ha))
  · refine ⟨⟨w, hw, hmax.symm, hmax ▸ hlt⟩, ?_⟩
    rintro _ ⟨a, ha, rfl, halt⟩
    exact hmax ▸ hleast a ha halt

theorem maxSdk_of_none_above (hnone : ∀ a ∈ alternativesOf t, a.min ≤ minSdk t) :
    maxSdk t = highestSdk := by
  rcases maxSdk_spec t with ⟨hmax, -⟩ | ⟨w, hw, -, hlt, -⟩
  · exact hmax
  · exact absurd hlt (Nat.not_lt.2 (hnone w hw))

/-- No alternative lies strictly between the bounds. -/
theorem maxSdk_le_of_above {a : SdkVersion} (ha : a ∈ alternativesOf t) (hlt : minSdk t < a.min) :
    maxSdk t ≤ a.min :=
  (isLeast_maxSdk ⟨a, ha, hlt⟩).2 ⟨a, ha, rfl, hlt⟩

/-- Where a range starts at a value, there is no alternative. -/
theorem min_ne_minSdk (ht : ∀ x, t = some x → x.Disjoint) (hsome : ∃ v, v ∈ valuesOf t)
    {a : SdkVersion} (ha : a ∈ alternativesOf t) : a.min ≠ minSdk t := by
  obtain ⟨⟨v, hv, hmin⟩, -⟩ := isLeast_minSdk hsome
  intro hamin
  have hav : a = v := congrArg SdkVersion.mk (hamin.trans hmin.symm)
  cases t with
  | none => exact SortedSet.not_mem_empty v hv
  | some x => exact ht x rfl v hv (hav ▸ ha)

theorem minSdk_lt_maxSdk_iff :
    minSdk t < maxSdk t ↔
      (∃ a ∈ alternativesOf t, minSdk t < a.min) ∨ minSdk t < highestSdk := by
  by_cases hsome : ∃ a ∈ alternativesOf t, minSdk t < a.min
  · obtain ⟨⟨a, -, -, hlt⟩, -⟩ := isLeast_maxSdk hsome
    exact iff_of_true hlt (Or.inl hsome)
  · have hnone : ∀ a ∈ alternativesOf t, a.min ≤ minSdk t :=
      fun a ha => Nat.le_of_not_lt fun hlt => hsome ⟨a, ha, hlt⟩
    rw [maxSdk_of_none_above hnone, or_iff_right hsome]

/-- The merge of two records starts where the first of them starts. -/
theorem minSdk_merge {s u : Targeting} (hs : ∃ v, v ∈ valuesOf s.sdkVersion)
    (hu : ∃ v, v ∈ valuesOf u.sdkVersion) :
    minSdk (Targeting.merge [s, u]).sdkVersion = min (minSdk s.sdkVersion) (minSdk u.sdkVersion) := by
  have hmem (v : SdkVersion) : v ∈ valuesOf (Targeting.merge [s, u]).sdkVersion ↔
      v ∈ valuesOf s.sdkVersion ∨ v ∈ valuesOf u.sdkVersion := by
    have hvalues := Targeting.valuesOf_get_merge [s, u] .sdkVersion
    change valuesOf (Targeting.merge [s, u]).sdkVersion = _ at hvalues
    rw [hvalues, Targeting.mem_valuesAlong]
    simp [Targeting.get]
  have hunion : {n | ∃ v ∈ valuesOf (Targeting.merge [s, u]).sdkVersion, v.min = n} =
      {n | ∃ v ∈ valuesOf s.sdkVersion, v.min = n} ∪
        {n | ∃ v ∈ valuesOf u.sdkVersion, v.min = n} := by
    ext n
    simp [hmem, or_and_right, exists_or]
  have hmerged : ∃ v, v ∈ valuesOf (Targeting.merge [s, u]).sdkVersion :=
    hs.imp fun v hv => (hmem v).2 (Or.inl hv)
  have hleast := isLeast_minSdk hmerged
  rw [hunion] at hleast
  exact hleast.unique ((isLeast_minSdk hs).union (isLeast_minSdk hu))

/-- A range starts at the least value, or at the lowest level if there is no value, and ends at the
least alternative above its start, or at the highest level if there is none. No alternative lies
between the bounds, and if there is a value, none lies at the start either. The range has a level
exactly if there is an alternative above the start or the start is below the highest level. If two
records have values, their merge starts where the first of them starts. -/
theorem sdkRange_bounds (t : Option (DimensionTargeting .sdkVersion))
    (ht : ∀ x, t = some x → x.Disjoint) :
    ((∀ v, v ∉ valuesOf t) → minSdk t = lowestSdk) ∧
    ((∃ v, v ∈ valuesOf t) → IsLeast {n | ∃ v ∈ valuesOf t, v.min = n} (minSdk t)) ∧
    ((∀ a ∈ alternativesOf t, a.min ≤ minSdk t) → maxSdk t = highestSdk) ∧
    ((∃ a ∈ alternativesOf t, minSdk t < a.min) →
      IsLeast {n | ∃ a ∈ alternativesOf t, a.min = n ∧ minSdk t < n} (maxSdk t)) ∧
    (∀ a ∈ alternativesOf t, ¬(minSdk t < a.min ∧ a.min < maxSdk t)) ∧
    ((∃ v, v ∈ valuesOf t) →
      ∀ a ∈ alternativesOf t, ¬(minSdk t ≤ a.min ∧ a.min < maxSdk t)) ∧
    (minSdk t < maxSdk t ↔
      (∃ a ∈ alternativesOf t, minSdk t < a.min) ∨ minSdk t < highestSdk) ∧
    ∀ s u : Targeting, (∃ v, v ∈ valuesOf s.sdkVersion) → (∃ v, v ∈ valuesOf u.sdkVersion) →
      ∃ merged, Targeting.makeMerged [s, u] = .ok merged ∧
        minSdk merged.sdkVersion = min (minSdk s.sdkVersion) (minSdk u.sdkVersion) := by
  have hbetween (a : SdkVersion) (ha : a ∈ alternativesOf t) :
      ¬(minSdk t < a.min ∧ a.min < maxSdk t) :=
    fun h => Nat.not_lt.2 (maxSdk_le_of_above ha h.1) h.2
  refine ⟨?_, isLeast_minSdk, maxSdk_of_none_above, isLeast_maxSdk, hbetween, ?_,
    minSdk_lt_maxSdk_iff, fun s u hs hu => ⟨_, Targeting.makeMerged_eq [s, u], minSdk_merge hs hu⟩⟩
  · intro hnone
    rcases minSdk_spec t with ⟨hmin, -⟩ | ⟨v, hv, -⟩
    · exact hmin
    · exact absurd hv (hnone v)
  · rintro hsome a ha ⟨hle, hlt⟩
    have hne := min_ne_minSdk ht hsome ha
    exact hbetween a ha ⟨by omega, hlt⟩

/-- Alternatives stand on both sides of the values, and one is above the highest level. -/
theorem sdkRange_bounds_straddled :
    let t : Option (DimensionTargeting .sdkVersion) :=
      some ⟨.ofList [⟨100⟩, ⟨21⟩], .ofList [⟨highestSdk + 4⟩, ⟨15⟩, ⟨30⟩]⟩
    let s : Targeting := { sdkVersion := t }
    let u : Targeting := { sdkVersion := some ⟨.single ⟨19⟩, ∅⟩ }
    (∀ x, t = some x → x.Disjoint) ∧ minSdk t = 21 ∧ maxSdk t = 30 ∧
      IsLeast {n | ∃ v ∈ valuesOf t, v.min = n} (minSdk t) ∧
      IsLeast {n | ∃ a ∈ alternativesOf t, a.min = n ∧ minSdk t < n} (maxSdk t) ∧
      ¬(minSdk t ≤ 15 ∧ 15 < maxSdk t) ∧ minSdk t < maxSdk t ∧
      ∃ merged, Targeting.makeMerged [s, u] = .ok merged ∧ minSdk merged.sdkVersion = min 21 19 := by
  intro t s u
  have ht : ∀ x, t = some x → x.Disjoint := by
    intro x hx
    obtain rfl := Option.some.inj hx
    decide
  have hvalue : ∃ v, v ∈ valuesOf t := ⟨⟨21⟩, by decide⟩
  have hother : ∃ a ∈ alternativesOf t, minSdk t < a.min := ⟨⟨30⟩, by decide, by decide⟩
  obtain ⟨-, hmin, -, hmax, -, hinside, hlevel, hmerge⟩ := sdkRange_bounds t ht
  exact ⟨ht, rfl, rfl, hmin hvalue, hmax hother, hinside hvalue ⟨15⟩ (by decide),
    hlevel.2 (Or.inl hother), hmerge s u hvalue ⟨⟨19⟩, by decide⟩⟩

-- Without values, the range can start at an alternative.
example :
    let t : Option (DimensionTargeting .sdkVersion) := some ⟨∅, .ofList [⟨1⟩, ⟨30⟩]⟩
    (minSdk t, maxSdk t) = (1, 30) := by
  decide

end DeviceSplit
