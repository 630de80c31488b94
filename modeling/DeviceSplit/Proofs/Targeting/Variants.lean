import Mathlib.Data.List.Nodup
import DeviceSplit.Proofs.FirstAppearance
import DeviceSplit.Proofs.Targeting.Merge
import DeviceSplit.Targeting.Variants

set_option autoImplicit false

/-! # Variants depend on values only

There is one variant for each value found in the given records, and it is told apart from the others
by what it says (`variant_injective`), so making variants never fails and loses none of them
(`makeVariants_eq`). Nothing but the set of the values counts, which the variants have as well:
variants of variants are the same variants. The main statement is `variants_close`. -/

namespace DeviceSplit

namespace Targeting

open DimensionTargeting

variable {d : Dimension} {ts us : List Targeting} {among : SortedSet d.Value} {v : d.Value}

/-! ## One variant -/

theorem get_variant (among : SortedSet d.Value) (v : d.Value) :
    (variant among v).get d = some (favouring (.single v) among) := by
  rw [variant, get_withDimension_self, nonDefault_favouring_single]

theorem get_variant_of_ne (among : SortedSet d.Value) (v : d.Value) {e : Dimension} (he : e ≠ d) :
    (variant among v).get e = none := by
  rw [variant, get_withDimension_of_ne _ _ (Ne.symm he), get_default]

/-- A variant is what it says about its dimension. -/
theorem eq_variant_iff {r : Targeting} :
    r = variant among v ↔
      r.get d = some ⟨.single v, among \ .single v⟩ ∧ ∀ e, e ≠ d → r.get e = none := by
  constructor
  · rintro rfl
    exact ⟨get_variant among v, fun e he => get_variant_of_ne among v he⟩
  · rintro ⟨hself, hother⟩
    refine ext_get fun e => ?_
    by_cases he : e = d
    · subst he
      rw [hself, get_variant]
      rfl
    · rw [hother e he, get_variant_of_ne _ _ he]

theorem valuesOf_get_variant (among : SortedSet d.Value) (v : d.Value) :
    valuesOf ((variant among v).get d) = .single v := by
  rw [get_variant]
  rfl

theorem variant_injective (among : SortedSet d.Value) :
    Function.Injective (variant among : d.Value → Targeting) := by
  intro v w h
  have hvalues := congrArg (fun t => valuesOf (t.get d)) h
  simp only [valuesOf_get_variant] at hvalues
  exact SortedSet.single_inj hvalues

/-- The targeting of a variant always passes its check. -/
theorem makeVariant_eq (among : SortedSet d.Value) (v : d.Value) :
    makeVariant among v = .ok (variant among v) := by
  rw [makeVariant, check_diff]
  rfl

/-! ## All variants -/

theorem nodup_variants (d : Dimension) (ts : List Targeting) : (variants d ts).Nodup :=
  (valuesAlong d ts).nodup.map (variant_injective _)

/-- Making variants never fails, and no two of them are the same. -/
theorem makeVariants_eq (d : Dimension) (ts : List Targeting) :
    makeVariants d ts = .ok (variants d ts) := by
  have hmade : makeVariant (valuesAlong d ts) = fun v => pure (variant (valuesAlong d ts) v) :=
    funext fun v => makeVariant_eq _ v
  rw [makeVariants, hmade, List.mapM_pure]
  exact congrArg Except.ok (eraseDups_eq_self (nodup_variants d ts))

theorem mem_variants_iff {r : Targeting} :
    r ∈ variants d ts ↔ ∃ v ∈ valuesAlong d ts,
      r.get d = some ⟨.single v, valuesAlong d ts \ .single v⟩ ∧ ∀ e, e ≠ d → r.get e = none := by
  rw [mem_variants]
  refine exists_congr fun v => and_congr_right fun _ => ?_
  exact eq_comm.trans eq_variant_iff

/-- Only the values that are found along the dimension count. -/
theorem variants_congr (h : valuesAlong d us = valuesAlong d ts) : variants d us = variants d ts := by
  rw [variants, variants, h]

theorem valuesAlong_singleton_merge (d : Dimension) (ts : List Targeting) :
    valuesAlong d [merge ts] = valuesAlong d ts := by
  refine SortedSet.ext fun v => ?_
  rw [mem_valuesAlong, ← valuesOf_get_merge]
  simp

/-- The values of the variants are the values that they were made for. -/
theorem valuesAlong_variants (d : Dimension) (ts : List Targeting) :
    valuesAlong d (variants d ts) = valuesAlong d ts := by
  refine SortedSet.ext fun v => ?_
  rw [mem_valuesAlong]
  constructor
  · rintro ⟨r, hr, hv⟩
    obtain ⟨w, hw, rfl⟩ := mem_variants.1 hr
    rw [valuesOf_get_variant, SortedSet.mem_single] at hv
    exact hv ▸ hw
  · intro hv
    refine ⟨_, mem_variants.2 ⟨v, hv, rfl⟩, ?_⟩
    rw [valuesOf_get_variant]
    exact SortedSet.mem_single.2 rfl

/-! ## Merging all variants -/

/-- Each alternative of a variant is the value of another one. -/
theorem alternativesOf_get_merge_variants (d : Dimension) (ts : List Targeting) :
    alternativesOf ((merge (variants d ts)).get d) = ∅ := by
  rw [← SortedSet.isEmpty_iff, SortedSet.isEmpty_iff_forall]
  intro v hv
  rw [mem_alternativesOf_get_merge] at hv
  obtain ⟨⟨r, hr, hvr⟩, hnot⟩ := hv
  obtain ⟨w, -, rfl⟩ := mem_variants.1 hr
  rw [get_variant] at hvr
  have hamong : v ∈ valuesAlong d ts := (SortedSet.mem_diff.1 hvr).1
  refine hnot _ (mem_variants.2 ⟨v, hamong, rfl⟩) ?_
  rw [valuesOf_get_variant]
  exact SortedSet.mem_single.2 rfl

theorem get_merge_variants_of_ne (ts : List Targeting) {e : Dimension} (he : e ≠ d) :
    (merge (variants d ts)).get e = none := by
  have hnone : partsAlong e (variants d ts) = [] := by
    rw [List.eq_nil_iff_forall_not_mem]
    intro x hx
    obtain ⟨r, hr, hrx⟩ := mem_partsAlong.1 hx
    obtain ⟨v, -, rfl⟩ := mem_variants.1 hr
    rw [get_variant_of_ne _ _ he] at hrx
    exact nomatch hrx
  rw [get_merge_eq_join, hnone]
  rfl

theorem merge_variants_of_empty (h : valuesAlong d ts = ∅) : merge (variants d ts) = {} := by
  rw [variants, h]
  rfl

/-- Making variants along a dimension never fails. There is one for each value found in the given
records, that is, for each value of some record, with the other values as its alternatives and with
nothing along other dimensions. Only which values are found counts: neither the order and number of
the records nor what they say about alternatives and other dimensions. Instead of the records, the
record that they merge to will do, and so will their variants. Merged, the variants have all the
values and no alternatives. -/
theorem variants_close (d : Dimension) (ts : List Targeting) :
    ∃ records merged whole,
      (∀ v, v ∈ valuesAlong d ts ↔ ∃ t ∈ ts, v ∈ valuesOf (t.get d)) ∧
      makeVariants d ts = .ok records ∧
      records.Nodup ∧ records.length = (valuesAlong d ts).toList.length ∧
      (∀ r, r ∈ records ↔ ∃ v ∈ valuesAlong d ts,
        r.get d = some ⟨.single v, valuesAlong d ts \ .single v⟩ ∧ ∀ e, e ≠ d → r.get e = none) ∧
      (∀ us, (∀ v, (∃ u ∈ us, v ∈ valuesOf (u.get d)) ↔ ∃ t ∈ ts, v ∈ valuesOf (t.get d)) →
        makeVariants d us = .ok records) ∧
      makeMerged ts = .ok merged ∧ makeVariants d [merged] = .ok records ∧
      makeVariants d records = .ok records ∧
      makeMerged records = .ok whole ∧ valuesOf (whole.get d) = valuesAlong d ts ∧
      alternativesOf (whole.get d) = ∅ ∧ (∀ e, e ≠ d → whole.get e = none) ∧
      (valuesAlong d ts = ∅ → whole = {}) := by
  refine ⟨variants d ts, merge ts, merge (variants d ts), fun v => mem_valuesAlong,
    makeVariants_eq d ts, nodup_variants d ts, List.length_map _, fun r => mem_variants_iff, ?_,
    makeMerged_eq ts, ?_, ?_, makeMerged_eq _, ?_, alternativesOf_get_merge_variants d ts,
    fun e he => get_merge_variants_of_ne ts he, merge_variants_of_empty⟩
  · intro us hus
    have hvalues : valuesAlong d us = valuesAlong d ts := SortedSet.ext fun v => by
      rw [mem_valuesAlong, mem_valuesAlong, hus v]
    rw [makeVariants_eq, variants_congr hvalues]
  · rw [makeVariants_eq, variants_congr (valuesAlong_singleton_merge d ts)]
  · rw [makeVariants_eq, variants_congr (valuesAlong_variants d ts)]
  · rw [valuesOf_get_merge, valuesAlong_variants]

end Targeting

end DeviceSplit
