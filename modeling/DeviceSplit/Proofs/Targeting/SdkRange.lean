import Mathlib.Data.Finset.Max
import DeviceSplit.Proofs.Targeting.Variants
import DeviceSplit.Targeting.SdkRange

set_option autoImplicit false

/-! # Variants share out the platform levels

The variants of some records along platform levels are each for the levels from their own value up to
the next one, so below the highest level there is one variant for each level from the least value on
(`variants_share_levels`). A variant applies to a level exactly if its value is the greatest one that
does not exceed the level (`appliesTo_variant_iff`), and there is only one such value. -/

namespace DeviceSplit

open DimensionTargeting

/-! ## The upper bound -/

/-- A range ends at the least alternative above its start, and if there is none, at the highest
level. -/
theorem maxSdk_spec (t : Option (DimensionTargeting .sdkVersion)) :
    (maxSdk t = highestSdk ∧ ∀ x ∈ alternativesOf t, x.min ≤ minSdk t) ∨
      ∃ w ∈ alternativesOf t, maxSdk t = w.min ∧ minSdk t < w.min ∧
        ∀ x ∈ alternativesOf t, minSdk t < x.min → w.min ≤ x.min := by
  have hmem (n : Nat) : n ∈ ((alternativesOf t).toList.map SdkVersion.min).filter (minSdk t < ·) ↔
      (∃ x ∈ alternativesOf t, x.min = n) ∧ minSdk t < n := by
    rw [List.mem_filter, List.mem_map, decide_eq_true_eq]
    rfl
  have hmax : maxSdk t =
      (((alternativesOf t).toList.map SdkVersion.min).filter (minSdk t < ·)).min?.getD highestSdk :=
    rfl
  rw [hmax]
  cases hleast : (((alternativesOf t).toList.map SdkVersion.min).filter (minSdk t < ·)).min? with
  | none =>
    rw [List.min?_eq_none_iff] at hleast
    refine Or.inl ⟨rfl, fun x hx => ?_⟩
    by_contra hlt
    have hx' := (hmem x.min).2 ⟨⟨x, hx, rfl⟩, Nat.lt_of_not_le hlt⟩
    rw [hleast] at hx'
    exact List.not_mem_nil hx'
  | some m =>
    rw [List.min?_eq_some_iff] at hleast
    obtain ⟨⟨⟨w, hw, rfl⟩, hlt⟩, hle⟩ := And.imp_left (hmem m).1 hleast
    refine Or.inr ⟨w, hw, rfl, hlt, fun x hx hxlt => ?_⟩
    exact hle x.min ((hmem x.min).2 ⟨⟨x, hx, rfl⟩, hxlt⟩)

namespace Targeting

/-- The levels that a record is for: from its lower bound up to, and without, its upper bound. -/
def AppliesTo (t : Targeting) (level : Nat) : Prop :=
  minSdk t.sdkVersion ≤ level ∧ level < maxSdk t.sdkVersion

instance (t : Targeting) (level : Nat) : Decidable (t.AppliesTo level) :=
  inferInstanceAs (Decidable (_ ∧ _))

/-! ## The range of a variant -/

section Variant

variable {among : SortedSet SdkVersion} {v w : SdkVersion} {level : Nat}

theorem sdkVersion_variant (among : SortedSet SdkVersion) (v : SdkVersion) :
    (variant (d := .sdkVersion) among v).sdkVersion =
      some (favouring (d := .sdkVersion) (.single v) among) :=
  get_variant (d := .sdkVersion) among v

theorem minSdk_variant (among : SortedSet SdkVersion) (v : SdkVersion) :
    minSdk (variant (d := .sdkVersion) among v).sdkVersion = v.min := by
  rw [sdkVersion_variant]
  rfl

theorem mem_alternativesOf_variant {x : SdkVersion} :
    x ∈ alternativesOf (variant (d := .sdkVersion) among v).sdkVersion ↔ x ∈ among ∧ x ≠ v := by
  rw [sdkVersion_variant]
  exact SortedSet.mem_diff.trans (and_congr_right' (not_congr SortedSet.mem_single))

/-- The range of a variant ends at the next value, and if its own is the greatest, at the highest
level. -/
theorem maxSdk_variant (among : SortedSet SdkVersion) (v : SdkVersion) :
    (maxSdk (variant (d := .sdkVersion) among v).sdkVersion = highestSdk ∧
        ∀ x ∈ among, x.min ≤ v.min) ∨
      ∃ w ∈ among, maxSdk (variant (d := .sdkVersion) among v).sdkVersion = w.min ∧
        v.min < w.min ∧ ∀ x ∈ among, v.min < x.min → w.min ≤ x.min := by
  have hne {x : SdkVersion} (hx : v.min < x.min) : x ≠ v := by
    rintro rfl
    exact Nat.lt_irrefl _ hx
  rcases maxSdk_spec (variant (d := .sdkVersion) among v).sdkVersion with
    ⟨hmax, hnone⟩ | ⟨w, hw, hmax, hlt, hleast⟩
  · rw [minSdk_variant] at hnone
    refine Or.inl ⟨hmax, fun x hx => ?_⟩
    by_contra hlt
    exact hlt (hnone x (mem_alternativesOf_variant.2 ⟨hx, hne (Nat.lt_of_not_le hlt)⟩))
  · rw [minSdk_variant] at hlt hleast
    refine Or.inr ⟨w, (mem_alternativesOf_variant.1 hw).1, hmax, hlt, fun x hx hxlt => ?_⟩
    exact hleast x (mem_alternativesOf_variant.2 ⟨hx, hne hxlt⟩) hxlt

theorem maxSdk_variant_of_next (hw : w ∈ among) (hlt : v.min < w.min)
    (hnext : ∀ x ∈ among, v.min < x.min → w.min ≤ x.min) :
    maxSdk (variant (d := .sdkVersion) among v).sdkVersion = w.min := by
  rcases maxSdk_variant among v with ⟨-, hnone⟩ | ⟨x, hx, hmax, hxlt, hleast⟩
  · exact absurd hlt (Nat.not_lt.2 (hnone w hw))
  · rw [hmax]
    exact Nat.le_antisymm (hleast w hw hlt) (hnext x hx hxlt)

theorem maxSdk_variant_of_greatest (hgreatest : ∀ x ∈ among, x.min ≤ v.min) :
    maxSdk (variant (d := .sdkVersion) among v).sdkVersion = highestSdk := by
  rcases maxSdk_variant among v with ⟨hmax, -⟩ | ⟨x, hx, -, hlt, -⟩
  · exact hmax
  · exact absurd hlt (Nat.not_lt.2 (hgreatest x hx))

/-- Below the highest level, a variant is for the levels of which its value is the last one that does
not exceed them. -/
theorem appliesTo_variant_iff (hlevel : level < highestSdk) :
    (variant (d := .sdkVersion) among v).AppliesTo level ↔
      v.min ≤ level ∧ ∀ x ∈ among, x.min ≤ level → x.min ≤ v.min := by
  rw [AppliesTo, minSdk_variant]
  refine and_congr_right fun hv => ?_
  rcases maxSdk_variant among v with ⟨hmax, hnone⟩ | ⟨w, hw, hmax, hlt, hleast⟩
  · rw [hmax]
    exact iff_of_true hlevel fun x hx _ => hnone x hx
  · rw [hmax]
    constructor
    · intro hbelow x hx hxlevel
      by_contra hxv
      have hwx := hleast x hx (Nat.lt_of_not_le hxv)
      omega
    · intro hlast
      by_contra hnot
      have hwv := hlast w hw (Nat.le_of_not_lt hnot)
      omega

/-- If some value does not exceed a level, there is a last one. -/
theorem exists_last_value (among : SortedSet SdkVersion) (hsome : ∃ v ∈ among, v.min ≤ level) :
    ∃ v ∈ among, v.min ≤ level ∧ ∀ x ∈ among, x.min ≤ level → x.min ≤ v.min := by
  obtain ⟨u, hu, hulevel⟩ := hsome
  have hmem (x : SdkVersion) :
      x ∈ among.toList.toFinset.filter (·.min ≤ level) ↔ x ∈ among ∧ x.min ≤ level := by
    rw [Finset.mem_filter, List.mem_toFinset]
    rfl
  obtain ⟨v, hv, hlast⟩ := Finset.exists_max_image _ SdkVersion.min ⟨u, (hmem u).2 ⟨hu, hulevel⟩⟩
  obtain ⟨hvmem, hvlevel⟩ := (hmem v).1 hv
  exact ⟨v, hvmem, hvlevel, fun x hx hxlevel => hlast x ((hmem x).2 ⟨hx, hxlevel⟩)⟩

end Variant

/-! ## All variants together -/

/-- Exactly one variant is for a level that some value does not exceed. -/
theorem countP_appliesTo_eq_one {ts : List Targeting} {level : Nat} (hlevel : level < highestSdk)
    (hsome : ∃ v ∈ valuesAlong .sdkVersion ts, v.min ≤ level) :
    (variants .sdkVersion ts).countP (·.AppliesTo level) = 1 := by
  obtain ⟨v, hv, hvlevel, hlast⟩ := exists_last_value _ hsome
  have honly : ∀ r ∈ variants .sdkVersion ts, r.AppliesTo level ↔
      r = variant (d := .sdkVersion) (valuesAlong .sdkVersion ts) v := by
    intro r hr
    obtain ⟨w, hw, rfl⟩ := mem_variants.1 hr
    rw [appliesTo_variant_iff hlevel, (variant_injective _).eq_iff]
    constructor
    · rintro ⟨hwlevel, hwlast⟩
      have hmin : w.min = v.min :=
        Nat.le_antisymm (hlast w hw hwlevel) (hwlast v hv hvlevel)
      exact congrArg SdkVersion.mk hmin
    · rintro rfl
      exact ⟨hvlevel, hlast⟩
  have hcount : (variants .sdkVersion ts).countP (·.AppliesTo level) =
      (variants .sdkVersion ts).count
        (variant (d := .sdkVersion) (valuesAlong .sdkVersion ts) v) := by
    refine List.countP_congr fun r hr => ?_
    rw [decide_eq_true_eq, beq_iff_eq]
    exact honly r hr
  rw [hcount]
  exact List.count_eq_one_of_mem (nodup_variants _ ts) (mem_variants.2 ⟨v, hv, rfl⟩)

/-- No variant is for a level below all values. -/
theorem countP_appliesTo_eq_zero {ts : List Targeting} {level : Nat} (hlevel : level < highestSdk)
    (hnone : ∀ v ∈ valuesAlong .sdkVersion ts, level < v.min) :
    (variants .sdkVersion ts).countP (·.AppliesTo level) = 0 := by
  rw [List.countP_eq_zero]
  intro r hr happlies
  obtain ⟨v, hv, rfl⟩ := mem_variants.1 hr
  rw [decide_eq_true_eq, appliesTo_variant_iff hlevel] at happlies
  exact absurd happlies.1 (Nat.not_le.2 (hnone v hv))

/-- The variants of some records along platform levels, one for each value of some record, share out
the levels below the highest one: exactly one variant is for a level if some value does not exceed
it, and otherwise none is. A variant starts at its value and ends where the variant of the next value
starts; the one of the greatest value ends at the highest level. -/
theorem variants_share_levels (ts : List Targeting) :
    ∃ records, makeVariants .sdkVersion ts = .ok records ∧
      (∀ v, v ∈ valuesAlong .sdkVersion ts ↔ ∃ t ∈ ts, v ∈ valuesOf t.sdkVersion) ∧
      (∀ v ∈ valuesAlong .sdkVersion ts, ∃ r ∈ records, valuesOf r.sdkVersion = .single v) ∧
      (∀ r ∈ records, ∃ v ∈ valuesAlong .sdkVersion ts,
        valuesOf r.sdkVersion = .single v ∧ minSdk r.sdkVersion = v.min) ∧
      (∀ level, level < highestSdk →
        ((∃ v ∈ valuesAlong .sdkVersion ts, v.min ≤ level) →
          records.countP (·.AppliesTo level) = 1) ∧
        ((∀ v ∈ valuesAlong .sdkVersion ts, level < v.min) →
          records.countP (·.AppliesTo level) = 0)) ∧
      (∀ r ∈ records, ∀ r' ∈ records, ∀ v w, valuesOf r.sdkVersion = .single v →
        valuesOf r'.sdkVersion = .single w → v.min < w.min →
        (∀ x ∈ valuesAlong .sdkVersion ts, v.min < x.min → w.min ≤ x.min) →
        maxSdk r.sdkVersion = minSdk r'.sdkVersion) ∧
      (∀ r ∈ records, ∀ v, valuesOf r.sdkVersion = .single v →
        (∀ x ∈ valuesAlong .sdkVersion ts, x.min ≤ v.min) → maxSdk r.sdkVersion = highestSdk) := by
  -- A record is the variant of its only value.
  have hvariant {r : Targeting} (hr : r ∈ variants .sdkVersion ts) {v : SdkVersion}
      (hv : valuesOf r.sdkVersion = .single v) :
      v ∈ valuesAlong .sdkVersion ts ∧
        r = variant (d := .sdkVersion) (valuesAlong .sdkVersion ts) v := by
    obtain ⟨w, hw, rfl⟩ := mem_variants.1 hr
    obtain rfl := SortedSet.single_inj ((valuesOf_get_variant _ w).symm.trans hv)
    exact ⟨hw, rfl⟩
  refine ⟨variants .sdkVersion ts, makeVariants_eq _ ts, fun v => mem_valuesAlong, ?_, ?_, ?_, ?_, ?_⟩
  · intro v hv
    exact ⟨_, mem_variants.2 ⟨v, hv, rfl⟩, valuesOf_get_variant _ v⟩
  · intro r hr
    obtain ⟨v, hv, rfl⟩ := mem_variants.1 hr
    exact ⟨v, hv, valuesOf_get_variant _ v, minSdk_variant _ v⟩
  · intro level hlevel
    exact ⟨countP_appliesTo_eq_one hlevel, countP_appliesTo_eq_zero hlevel⟩
  · intro r hr r' hr' v w hv hw hlt hnext
    obtain ⟨-, rfl⟩ := hvariant hr hv
    obtain ⟨hwmem, rfl⟩ := hvariant hr' hw
    rw [minSdk_variant, maxSdk_variant_of_next hwmem hlt hnext]
  · intro r hr v hv hgreatest
    obtain ⟨-, rfl⟩ := hvariant hr hv
    exact maxSdk_variant_of_greatest hgreatest

-- A value above the highest level bounds the one before it, and its own variant is for no level.
example :
    let levels : SortedSet SdkVersion := .ofList [⟨highestSdk + 4⟩, ⟨21⟩, ⟨30⟩]
    let ts : List Targeting := [{ sdkVersion := some ⟨levels, .single ⟨25⟩⟩ }]
    (variants .sdkVersion ts).map (fun r => (minSdk r.sdkVersion, maxSdk r.sdkVersion)) =
      [(21, 30), (30, highestSdk + 4), (highestSdk + 4, highestSdk)] := by
  decide

end Targeting

end DeviceSplit
