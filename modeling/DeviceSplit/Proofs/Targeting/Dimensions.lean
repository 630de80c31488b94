import Mathlib.Data.List.Nodup
import DeviceSplit.Proofs.AbiSplit.Division
import DeviceSplit.Proofs.Targeting.Variants

set_option autoImplicit false

/-! # Which dimensions a record sets

A record sets the dimensions along which it has values or alternatives. Replacing a dimension sets or
unsets that dimension and no other, and variants and the splits of a module are made by replacing
one. Merging takes values out of the alternatives, but it cannot unset a dimension in this way, since
what is taken out is there as a value (`mem_dimensions_merge`). The main statement is
`dimensions_followed`. -/

namespace DeviceSplit

theorem DimensionTargeting.isDefault_eq_false_iff {d : Dimension} {x : DimensionTargeting d} :
    x.isDefault = false ↔ ∃ v, v ∈ x.values ∨ v ∈ x.alternatives := by
  rw [← not_iff_not, Bool.not_eq_false, isDefault, Bool.and_eq_true, SortedSet.isEmpty_iff_forall,
    SortedSet.isEmpty_iff_forall, ← forall_and]
  simp only [not_exists, not_or]

namespace Targeting

open DimensionTargeting ModuleSplit

variable {t u : Targeting} {ts : List Targeting} {c d : Dimension}

/-! ## Dimensions in terms of members -/

theorem mem_dimensions :
    d ∈ t.dimensions ↔ ∃ x, t.get d = some x ∧ x.isDefault = false := by
  rw [dimensions, List.mem_filter, and_iff_right (Vocabulary.mem_all d)]
  cases t.get d with
  | none => simp
  | some x => simp

/-- A dimension is set if it has a value or an alternative. -/
theorem mem_dimensions_iff_exists :
    d ∈ t.dimensions ↔ ∃ v, v ∈ valuesOf (t.get d) ∨ v ∈ alternativesOf (t.get d) := by
  rw [mem_dimensions]
  cases t.get d with
  | none => simp [valuesOf, alternativesOf]
  | some x => simp [isDefault_eq_false_iff, valuesOf, alternativesOf]

/-- Whether a dimension is set depends on what the record holds there. -/
theorem mem_dimensions_congr (h : t.get d = u.get d) : d ∈ t.dimensions ↔ d ∈ u.dimensions := by
  rw [mem_dimensions, mem_dimensions, h]

theorem nodup_dimensions (t : Targeting) : t.dimensions.Nodup :=
  List.Nodup.filter _ (show Dimension.all.Nodup by decide)

theorem dimensions_eq_singleton (h : ∀ e, e ∈ t.dimensions ↔ e = d) : t.dimensions = [d] := by
  rw [← List.perm_singleton, List.perm_ext_iff_of_nodup t.nodup_dimensions (List.nodup_singleton d)]
  intro e
  rw [h, List.mem_singleton]

/-- A well-formed record holds nothing along the dimensions that it does not set. -/
theorem WellFormed.mem_dimensions_iff (ht : t.WellFormed) :
    d ∈ t.dimensions ↔ t.get d ≠ none := by
  rw [mem_dimensions, Option.ne_none_iff_exists']
  exact exists_congr fun x => and_iff_left_of_imp fun hx => (ht d x hx).1

theorem WellFormed.isDefault_iff (ht : t.WellFormed) : t.isDefault = true ↔ t.dimensions = [] := by
  rw [isDefault, List.all_eq_true, List.eq_nil_iff_forall_not_mem]
  refine forall_congr' fun d => ?_
  rw [ht.mem_dimensions_iff, not_not, Option.isNone_iff_eq_none]
  exact forall_prop_of_true (Vocabulary.mem_all d)

/-! ## Replacing a dimension -/

theorem mem_dimensions_withDimension_self (t : Targeting) (x : DimensionTargeting c) :
    c ∈ (t.withDimension x).dimensions ↔ x.isDefault = false := by
  rw [mem_dimensions_iff_exists, get_withDimension_self, valuesOf_nonDefault,
    alternativesOf_nonDefault, isDefault_eq_false_iff]

theorem mem_dimensions_withDimension_of_ne (t : Targeting) (x : DimensionTargeting c)
    (h : d ≠ c) : d ∈ (t.withDimension x).dimensions ↔ d ∈ t.dimensions :=
  mem_dimensions_congr (get_withDimension_of_ne t x (Ne.symm h))

/-- A dimension is set by putting something there. -/
theorem mem_dimensions_withDimension_iff {x : DimensionTargeting c} (hx : x.isDefault = false) :
    d ∈ (t.withDimension x).dimensions ↔ d ∈ t.dimensions ∨ d = c := by
  by_cases hd : d = c
  · subst hd
    exact iff_of_true ((mem_dimensions_withDimension_self t x).2 hx) (Or.inr rfl)
  · rw [mem_dimensions_withDimension_of_ne t x hd]
    exact (or_iff_left hd).symm

/-- A dimension is unset by putting nothing there. -/
theorem mem_dimensions_withDimension_default_iff {x : DimensionTargeting c}
    (hx : x.isDefault = true) :
    d ∈ (t.withDimension x).dimensions ↔ d ∈ t.dimensions ∧ d ≠ c := by
  by_cases hd : d = c
  · subst hd
    rw [mem_dimensions_withDimension_self, hx]
    simp
  · rw [mem_dimensions_withDimension_of_ne t x hd]
    exact (and_iff_left hd).symm

theorem mem_dimensions_withDimension_favouring_single {v : c.Value} {among : SortedSet c.Value} :
    d ∈ (t.withDimension (favouring (.single v) among)).dimensions ↔ d ∈ t.dimensions ∨ d = c :=
  mem_dimensions_withDimension_iff (nonDefault_eq_some_iff.1 (nonDefault_favouring_single v among)).1

theorem dimensions_default : ({} : Targeting).dimensions = [] :=
  wellFormed_default.isDefault_iff.1 rfl

/-- A variant sets the dimension that it is made for. -/
theorem dimensions_variant (among : SortedSet d.Value) (v : d.Value) :
    (variant among v).dimensions = [d] := by
  refine dimensions_eq_singleton fun e => ?_
  rw [variant, mem_dimensions_withDimension_favouring_single, dimensions_default]
  simp

theorem mem_dimensions_of_mem_abiSplits {m s : ModuleSplit} {n : NativeLibraries}
    {policy : SplitPolicy} (hs : s ∈ m.abiSplits n policy) :
    d ∈ s.apkTargeting.dimensions ↔ d ∈ m.apkTargeting.dimensions ∨ d = .abi := by
  obtain ⟨a, -, rfl⟩ := mem_abiSplits.1 hs
  exact mem_dimensions_withDimension_favouring_single

/-! ## Merging -/

/-- Merged records set the dimensions that any of them sets, also where they have alternatives
only. -/
theorem mem_dimensions_merge : d ∈ (merge ts).dimensions ↔ ∃ t ∈ ts, d ∈ t.dimensions := by
  simp only [mem_dimensions_iff_exists, mem_valuesOf_get_merge, mem_alternativesOf_get_merge]
  constructor
  · rintro ⟨v, ⟨t, ht, hv⟩ | ⟨⟨t, ht, hv⟩, -⟩⟩
    · exact ⟨t, ht, v, Or.inl hv⟩
    · exact ⟨t, ht, v, Or.inr hv⟩
  · rintro ⟨t, ht, v, hv | hv⟩
    · exact ⟨v, Or.inl ⟨t, ht, hv⟩⟩
    · -- An alternative stays one, or it is a value of another record.
      by_cases hvalue : ∃ u ∈ ts, v ∈ valuesOf (u.get d)
      · exact ⟨v, Or.inl hvalue⟩
      · refine ⟨v, Or.inr ⟨⟨t, ht, hv⟩, fun u hu huv => hvalue ⟨u, hu, huv⟩⟩⟩

/-- How the dimensions that a record sets follow from how it is made. A well-formed record says nothing
exactly if it sets none. Replacing a dimension adds it, or removes it if there is nothing to put there;
merging never fails and loses no dimension; variants set only the dimension that they are made for; and
the splits for architectures set those of the module and that of architectures. -/
theorem dimensions_followed (ht : t.WellFormed) :
    (t.isDefault = true ↔ t.dimensions = []) ∧
    (∀ c, ∀ x : DimensionTargeting c,
      (x.isDefault = false →
        ∀ d, d ∈ (t.withDimension x).dimensions ↔ d ∈ t.dimensions ∨ d = c) ∧
      (x.isDefault = true →
        ∀ d, d ∈ (t.withDimension x).dimensions ↔ d ∈ t.dimensions ∧ d ≠ c)) ∧
    (∀ ts, ∃ merged, makeMerged ts = .ok merged ∧
      ∀ d, d ∈ merged.dimensions ↔ ∃ u ∈ ts, d ∈ u.dimensions) ∧
    (∀ ts d, ∃ records, makeVariants d ts = .ok records ∧ ∀ r ∈ records, r.dimensions = [d]) ∧
    ∀ m : ModuleSplit, m.Valid → ∀ n policy splits, m.nativeConfig = some n →
      (m.splitByAbi policy).outcome = .ok splits →
      ∃ abiSplits leftOver, IsDivision n policy abiSplits leftOver splits ∧
        ∀ s ∈ abiSplits, ∀ d,
          d ∈ s.apkTargeting.dimensions ↔ d ∈ m.apkTargeting.dimensions ∨ d = .abi := by
  refine ⟨ht.isDefault_iff, fun c x => ⟨fun hx d => mem_dimensions_withDimension_iff hx,
    fun hx d => mem_dimensions_withDimension_default_iff hx⟩,
    fun ts => ⟨merge ts, makeMerged_eq ts, fun d => mem_dimensions_merge⟩, ?_, ?_⟩
  · intro ts d
    refine ⟨variants d ts, makeVariants_eq d ts, fun r hr => ?_⟩
    obtain ⟨v, -, rfl⟩ := mem_variants.1 hr
    exact dimensions_variant _ v
  · intro m hm n policy splits hn hs
    obtain ⟨-, rfl⟩ := (outcome_eq_ok_iff hm hn).1 hs
    exact ⟨m.abiSplits n policy, m.leftOverSplit n, m.isDivision n policy,
      fun s hs d => mem_dimensions_of_mem_abiSplits hs⟩

/-- One record has nothing but an alternative along languages, and that is a value of the other one.
Both set languages, and so does the merged record, without alternatives there. -/
theorem dimensions_followed_alternatives :
    let t : Targeting := { abi := some ⟨.single .x86, ∅⟩, language := some ⟨∅, .single "de"⟩ }
    let u : Targeting := { language := some ⟨.single "de", ∅⟩ }
    let whole : Targeting := { t with language := u.language }
    let nothing : DimensionTargeting .abi := ⟨∅, ∅⟩
    t.WellFormed ∧ (t.isDefault = true ↔ t.dimensions = []) ∧
      (∀ d, d ∈ (t.withDimension nothing).dimensions ↔ d ∈ t.dimensions ∧ d ≠ .abi) ∧
      makeMerged [t, u] = .ok whole ∧
      (∀ d, d ∈ whole.dimensions ↔ ∃ r ∈ [t, u], d ∈ r.dimensions) ∧
      (∃ records, makeVariants .abi [t, u] = .ok records ∧ ∀ r ∈ records, r.dimensions = [.abi]) ∧
      ∃ splits abiSplits leftOver, (nestedModule.splitByAbi {}).outcome = .ok splits ∧
        IsDivision nestedLibraries {} abiSplits leftOver splits ∧
        ∀ s ∈ abiSplits, ∀ d,
          d ∈ s.apkTargeting.dimensions ↔ d ∈ nestedModule.apkTargeting.dimensions ∨ d = .abi := by
  intro t u whole nothing
  have ht : t.WellFormed := by decide
  have hwhole : makeMerged [t, u] = .ok whole := rfl
  obtain ⟨hdefault, hreplace, hmerge, hvariants, hsplit⟩ := dimensions_followed ht
  obtain ⟨merged, hmerged, hdimensions⟩ := hmerge [t, u]
  obtain rfl : whole = merged := Except.ok.inj (hwhole.symm.trans hmerged)
  have hsplits : (nestedModule.splitByAbi {}).outcome = .ok _ := rfl
  obtain ⟨abiSplits, leftOver, hdivision, hset⟩ :=
    hsplit nestedModule valid_nestedModule _ _ _ rfl hsplits
  exact ⟨ht, hdefault, (hreplace .abi nothing).2 rfl, hwhole, hdimensions, hvariants [t, u] .abi, _,
    abiSplits, leftOver, hsplits, hdivision, hset⟩

end Targeting

end DeviceSplit
