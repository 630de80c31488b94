import DeviceSplit.Proofs.SortedSet
import DeviceSplit.Proofs.Targeting.Basic
import DeviceSplit.Proofs.Targeting.Join
import DeviceSplit.Targeting.Merge

set_option autoImplicit false

/-! # What merging keeps

Merging joins what the records say along each dimension (`get_merge_eq_join`), and going through the
dimensions one by one never fails (`makeMerged_eq`). Along a dimension, merging records that agree
gives what they agree on (`get_merge_of_forall_get`). This is where records have to be well formed:
merging takes values out of the alternatives and drops a dimension that says nothing, so it repairs
records that are not. The laws of merging are put together in `merging_flattens`. -/

namespace DeviceSplit

namespace Targeting

open DimensionTargeting

variable {d : Dimension} {ts : List Targeting}

@[simp] theorem get_merge (ts : List Targeting) (d : Dimension) :
    (merge ts).get d = (favouring (valuesAlong d ts) (alternativesAlong d ts)).nonDefault :=
  get_ofFn _ d

/-- Along a dimension on which records agree with a well-formed one, so does the merged record. -/
theorem get_merge_of_forall_get {u : Targeting} (hts : ts ≠ [])
    (hget : ∀ t ∈ ts, t.get d = u.get d) (hu : u.WellFormedAt d) :
    (merge ts).get d = u.get d := by
  have hvalues : valuesAlong d ts = valuesOf (u.get d) :=
    SortedSet.unions_map_eq hts fun t ht => congrArg valuesOf (hget t ht)
  have halternatives : alternativesAlong d ts = alternativesOf (u.get d) :=
    SortedSet.unions_map_eq hts fun t ht => congrArg alternativesOf (hget t ht)
  rw [get_merge, hvalues, halternatives]
  cases hx : u.get d with
  | none => rfl
  | some x =>
    obtain ⟨hdefault, hdisjoint, -⟩ := hu x hx
    change (favouring x.values x.alternatives).nonDefault = some x
    rw [favouring_of_disjoint hdisjoint, nonDefault_of_not_isDefault hdefault]

/-! ## Merging as joining -/

theorem mem_partsAlong {x : DimensionTargeting d} :
    x ∈ partsAlong d ts ↔ ∃ t ∈ ts, t.get d = some x :=
  List.mem_filterMap

@[simp] theorem partsAlong_append (d : Dimension) (ts us : List Targeting) :
    partsAlong d (ts ++ us) = partsAlong d ts ++ partsAlong d us :=
  List.filterMap_append

@[simp] theorem partsAlong_singleton (d : Dimension) (t : Targeting) :
    partsAlong d [t] = (t.get d).toList := by
  cases ht : t.get d with
  | none => simp [partsAlong, ht]
  | some x => simp [partsAlong, ht]

/-- A record that does not set a dimension adds nothing there. -/
theorem unions_partsAlong (f : DimensionTargeting d → SortedSet d.Value)
    {g : Option (DimensionTargeting d) → SortedSet d.Value} (hnone : g none = ∅)
    (hsome : ∀ x, g (some x) = f x) (ts : List Targeting) :
    SortedSet.unions ((partsAlong d ts).map f) = .unions (ts.map fun t => g (t.get d)) := by
  refine SortedSet.ext fun v => ?_
  rw [SortedSet.mem_unions_map, SortedSet.mem_unions_map]
  constructor
  · rintro ⟨x, hx, hv⟩
    obtain ⟨t, ht, htx⟩ := mem_partsAlong.1 hx
    refine ⟨t, ht, ?_⟩
    rwa [htx, hsome]
  · rintro ⟨t, ht, hv⟩
    cases htx : t.get d with
    | none =>
      rw [htx, hnone] at hv
      exact absurd hv (SortedSet.not_mem_empty v)
    | some x =>
      rw [htx, hsome] at hv
      exact ⟨x, mem_partsAlong.2 ⟨t, ht, htx⟩, hv⟩

theorem unions_values_partsAlong (d : Dimension) (ts : List Targeting) :
    SortedSet.unions ((partsAlong d ts).map (·.values)) = valuesAlong d ts :=
  unions_partsAlong (·.values) rfl (fun _ => rfl) ts

theorem unions_alternatives_partsAlong (d : Dimension) (ts : List Targeting) :
    SortedSet.unions ((partsAlong d ts).map (·.alternatives)) = alternativesAlong d ts :=
  unions_partsAlong (·.alternatives) rfl (fun _ => rfl) ts

/-- Along each dimension, merging joins what the records say. -/
theorem get_merge_eq_join (ts : List Targeting) (d : Dimension) :
    (merge ts).get d = join (partsAlong d ts) := by
  rw [get_merge, join, unions_values_partsAlong, unions_alternatives_partsAlong]

/-! ## One dimension after another -/

/-- The merged record as far as some dimensions go. -/
def mergedUpTo (ts : List Targeting) (done : List Dimension) : Targeting :=
  ofFn fun d => if d ∈ done then (merge ts).get d else none

/-- Each dimension passes its check and adds what merging says about it. -/
theorem mergeAlong_mergedUpTo (ts : List Targeting) (done : List Dimension) (d : Dimension) :
    mergeAlong ts (mergedUpTo ts done) d = .ok (mergedUpTo ts (done ++ [d])) := by
  have hother (e : Dimension) (he : d ≠ e) :
      (mergedUpTo ts (done ++ [d])).get e = (mergedUpTo ts done).get e := by
    simp [mergedUpTo, Ne.symm he]
  have hself : (mergedUpTo ts (done ++ [d])).get d = (merge ts).get d := by
    simp [mergedUpTo]
  rw [mergeAlong]
  by_cases hparts : partsAlong d ts = []
  · -- No record says anything, and neither does the merged one.
    rw [if_pos (List.isEmpty_iff.2 hparts)]
    have hnone : (merge ts).get d = none := by
      rw [get_merge_eq_join, hparts]
      rfl
    refine congrArg Except.ok (ext_get fun e => ?_)
    by_cases he : d = e
    · subst he
      rw [hself, mergedUpTo, get_ofFn, hnone, ite_self]
    · exact (hother e he).symm
  · rw [if_neg (mt List.isEmpty_iff.1 hparts)]
    dsimp only
    rw [check_diff]
    refine congrArg Except.ok (ext_get fun e => ?_)
    by_cases he : d = e
    · subst he
      rw [get_withDimension_self, hself, get_merge_eq_join]
      rfl
    · rw [get_withDimension_of_ne _ _ he, hother e he]

/-- Going through dimensions merges the records along all of them. -/
theorem foldlM_mergeAlong (ts : List Targeting) (ds done : List Dimension) :
    ds.foldlM (mergeAlong ts) (mergedUpTo ts done) = .ok (mergedUpTo ts (done ++ ds)) := by
  induction ds generalizing done with
  | nil =>
    rw [List.append_nil]
    rfl
  | cons d r ih =>
    rw [List.foldlM_cons, mergeAlong_mergedUpTo]
    change r.foldlM (mergeAlong ts) (mergedUpTo ts (done ++ [d])) = _
    rw [ih, List.append_assoc]
    rfl

/-- Merging never fails. -/
theorem makeMerged_eq (ts : List Targeting) : makeMerged ts = .ok (merge ts) := by
  have hnothing : mergedUpTo ts [] = {} := rfl
  have hall : mergedUpTo ts Dimension.all = merge ts := by
    refine ext_get fun d => ?_
    rw [mergedUpTo, get_ofFn, if_pos (Vocabulary.mem_all d)]
  rw [makeMerged, ← hnothing, foldlM_mergeAlong, List.nil_append, hall]

/-! ## Laws of merging -/

theorem join_toList_get {t : Targeting} (ht : t.WellFormedAt d) :
    join (t.get d).toList = t.get d := by
  cases hx : t.get d with
  | none => rfl
  | some x =>
    obtain ⟨hdefault, hdisjoint, -⟩ := ht x hx
    rw [Option.toList_some, join_singleton hdisjoint, nonDefault_of_not_isDefault hdefault]

theorem merge_singleton {t : Targeting} (ht : t.WellFormed) : merge [t] = t := by
  refine ext_get fun d => ?_
  rw [get_merge_eq_join, partsAlong_singleton, join_toList_get (ht d)]

theorem WellFormed.merge (hts : ∀ t ∈ ts, t.WellFormed) : (merge ts).WellFormed := by
  intro d x hx
  rw [get_merge_eq_join] at hx
  obtain ⟨hdefault, hdisjoint, hadmissible⟩ := of_join_eq_some hx
  refine ⟨hdefault, hdisjoint, hadmissible fun y hy => ?_⟩
  obtain ⟨t, ht, hty⟩ := mem_partsAlong.1 hy
  exact (hts t ht d y hty).2.2

/-- Records that set no dimension do not count, and neither does it count how often or in which
order the others are given. -/
theorem merge_congr_of_mem_iff {us : List Targeting} (h : ∀ t, t ≠ {} → (t ∈ us ↔ t ∈ ts)) :
    merge us = merge ts := by
  refine ext_get fun d => ?_
  rw [get_merge_eq_join, get_merge_eq_join]
  refine join_congr_of_mem_iff fun x => ?_
  rw [mem_partsAlong, mem_partsAlong]
  refine exists_congr fun t => and_congr_left fun htx => h t ?_
  rintro rfl
  rw [get_default] at htx
  exact nomatch htx

/-- Merged records can be merged again with others. -/
theorem merge_flatten (ts us vs : List Targeting) :
    merge (ts ++ [merge us] ++ vs) = merge (ts ++ us ++ vs) := by
  refine ext_get fun d => ?_
  simp only [get_merge_eq_join, partsAlong_append, partsAlong_singleton, join_flatten]

theorem mem_valuesOf_get_merge {v : d.Value} :
    v ∈ valuesOf ((merge ts).get d) ↔ ∃ t ∈ ts, v ∈ valuesOf (t.get d) := by
  rw [valuesOf_get_merge, mem_valuesAlong]

theorem mem_alternativesOf_get_merge {v : d.Value} :
    v ∈ alternativesOf ((merge ts).get d) ↔
      (∃ t ∈ ts, v ∈ alternativesOf (t.get d)) ∧ ∀ t ∈ ts, v ∉ valuesOf (t.get d) := by
  rw [alternativesOf_get_merge, SortedSet.mem_diff, mem_alternativesAlong, mem_valuesAlong]
  simp only [not_exists, not_and]

/-- Merging well-formed records never fails and gives a well-formed record. It has all their values
along each dimension, and as alternatives those that are none of these values. What comes out
depends only on which records there are, apart from those that set no dimension. Merging one record
gives it back, merging none sets no dimension, and merging records first that are merged with others
later makes no difference. -/
theorem merging_flattens (ts us vs : List Targeting) (hts : ∀ t ∈ ts, t.WellFormed) :
    ∃ merged inner whole, makeMerged ts = .ok merged ∧ merged.WellFormed ∧
      (∀ d, ∀ v, v ∈ valuesOf (merged.get d) ↔ ∃ t ∈ ts, v ∈ valuesOf (t.get d)) ∧
      (∀ d, ∀ v, v ∈ alternativesOf (merged.get d) ↔
        (∃ t ∈ ts, v ∈ alternativesOf (t.get d)) ∧ ∀ t ∈ ts, v ∉ valuesOf (t.get d)) ∧
      (∀ others, (∀ t, t ≠ {} → (t ∈ others ↔ t ∈ ts)) → makeMerged others = .ok merged) ∧
      (∀ t ∈ ts, makeMerged [t] = .ok t) ∧
      makeMerged [] = .ok {} ∧
      makeMerged us = .ok inner ∧ makeMerged (ts ++ us ++ vs) = .ok whole ∧
      makeMerged (ts ++ [inner] ++ vs) = .ok whole := by
  refine ⟨merge ts, merge us, merge (ts ++ us ++ vs), makeMerged_eq ts, WellFormed.merge hts,
    fun d v => mem_valuesOf_get_merge, fun d v => mem_alternativesOf_get_merge, ?_, ?_,
    makeMerged_eq [], makeMerged_eq us, makeMerged_eq _, ?_⟩
  · intro others hothers
    rw [makeMerged_eq, merge_congr_of_mem_iff hothers]
  · intro t ht
    rw [makeMerged_eq, merge_singleton (hts t ht)]
  · rw [makeMerged_eq, merge_flatten]

/-- The inner merge forgets that `x86` is an alternative, since it is a value there. -/
theorem merging_flattens_forgotten :
    let t : Targeting := { abi := some ⟨.single .mips, .single .x86⟩ }
    let u : Targeting := { abi := some ⟨.single .x86, .single .mips64⟩ }
    let v : Targeting := { sdkVersion := some ⟨∅, .single ⟨21⟩⟩ }
    (∀ r ∈ [t, u], r.WellFormed) ∧
      (∃ merged, makeMerged [t, u] = .ok merged ∧ merged.WellFormed ∧
        merged = { abi := some ⟨.ofList [.mips, .x86], .single .mips64⟩ } ∧
        makeMerged [u, {}, t, u] = .ok merged) ∧
      ∃ inner, makeMerged [u, t] = .ok inner ∧
        makeMerged ([t, u] ++ [inner] ++ [v]) = makeMerged ([t, u] ++ [u, t] ++ [v]) := by
  intro t u v
  have hts : ∀ r ∈ [t, u], r.WellFormed := by decide
  obtain ⟨merged, inner, whole, hmerged, hwell, -, -, hset, -, -, hinner, hwhole, hflat⟩ :=
    merging_flattens [t, u] [u, t] [v] hts
  refine ⟨hts, ⟨merged, hmerged, hwell, ?_, hset _ fun r hr => ?_⟩, inner, hinner,
    hflat.trans hwhole.symm⟩
  · exact Except.ok.inj (hmerged.symm.trans rfl)
  · simp only [List.mem_cons, List.not_mem_nil, hr, false_or, or_false]
    exact ⟨fun h => h.elim Or.inr id, Or.inr⟩

end Targeting

end DeviceSplit
