import Mathlib.Data.List.Induction
import Mathlib.Data.List.Nodup
import DeviceSplit.Proofs.Targeting.Merge

set_option autoImplicit false

/-! # Records put together from parts

A record that is put together from targetings of single dimensions holds, along each dimension, the
last one of that dimension, and nothing if that one is empty (`get_ofParts`). Parts of different
dimensions do not touch each other, so only the order among parts of one dimension counts
(`ofParts_congr`). Merging has no order at all; the two ways to put a record together agree where no
dimension has two parts (`makeMerged_singles`). The main statement is `last_part_counts`. -/

namespace DeviceSplit

namespace Targeting

open DimensionTargeting

variable {d : Dimension} {parts others : List Part} {x : DimensionTargeting d}

/-! ## The parts of one dimension -/

/-- The targeting of a part, if the part is of a given dimension. -/
def Part.along? (d : Dimension) (p : Part) : Option (DimensionTargeting d) :=
  if h : p.1 = d then some (h ▸ p.2) else none

/-- The targetings of the parts of one dimension, in their order. -/
def Part.along (d : Dimension) (parts : List Part) : List (DimensionTargeting d) :=
  parts.filterMap (along? d)

namespace Part

theorem along?_self (x : DimensionTargeting d) : along? d ⟨d, x⟩ = some x := by
  simp [along?]

theorem along?_of_ne {p : Part} (h : p.1 ≠ d) : along? d p = none := by
  simp [along?, h]

theorem along?_eq_some_iff {p : Part} : along? d p = some x ↔ p = ⟨d, x⟩ := by
  obtain ⟨c, y⟩ := p
  by_cases h : c = d
  · subst h
    simp [along?_self]
  · rw [along?_of_ne h]
    simp [h]

theorem mem_along : x ∈ along d parts ↔ ⟨d, x⟩ ∈ parts := by
  simp [along, List.mem_filterMap, along?_eq_some_iff]

theorem length_along (d : Dimension) (parts : List Part) :
    (along d parts).length = (parts.map (·.1)).count d := by
  induction parts with
  | nil => rfl
  | cons p r ih =>
    obtain ⟨c, y⟩ := p
    by_cases h : c = d
    · subst h
      rw [along, List.filterMap_cons_some (along?_self y), List.map_cons, List.count_cons_self,
        List.length_cons]
      exact congrArg (· + 1) ih
    · rw [along, List.filterMap_cons_none (along?_of_ne h), List.map_cons, List.count_cons_of_ne h]
      exact ih

/-- If no dimension has two parts, a dimension has one part or none. -/
theorem along_of_nodup (h : (parts.map (·.1)).Nodup) (d : Dimension) :
    along d parts = [] ∨ ∃ x, along d parts = [x] := by
  have hlength : (along d parts).length ≤ 1 := by
    rw [length_along]
    exact List.nodup_iff_count_le_one.1 h d
  rwa [← List.length_eq_zero_iff, ← List.length_eq_one_iff, ← Nat.le_one_iff_eq_zero_or_eq_one]

end Part

/-! ## The last part counts -/

theorem ofParts_concat (parts : List Part) (p : Part) :
    ofParts (parts ++ [p]) = (ofParts parts).withDimension p.2 := by
  simp [ofParts]

/-- Along each dimension a record holds what the last part says, if it says anything. -/
theorem get_ofParts (parts : List Part) (d : Dimension) :
    (ofParts parts).get d = (Part.along d parts).getLast?.bind nonDefault := by
  induction parts using List.reverseRecOn with
  | nil => exact get_default d
  | append_singleton r p ih =>
    obtain ⟨c, x⟩ := p
    rw [ofParts_concat, Part.along, List.filterMap_append]
    by_cases h : c = d
    · subst h
      rw [get_withDimension_self, List.filterMap_cons_some (Part.along?_self x)]
      simp
    · rw [get_withDimension_of_ne _ _ h, ih, List.filterMap_cons_none (Part.along?_of_ne h)]
      simp [Part.along]

/-- Only the order among parts of one dimension makes a difference. -/
theorem ofParts_congr (h : ∀ d, Part.along d others = Part.along d parts) :
    ofParts others = ofParts parts := by
  refine ext_get fun d => ?_
  rw [get_ofParts, get_ofParts, h]

/-- The parts of a record, in any order, make the record. -/
theorem ofParts_eq_self {t : Targeting} (ht : t.WellFormed)
    (hparts : ∀ d, ∀ x : DimensionTargeting d, ⟨d, x⟩ ∈ parts ↔ t.get d = some x) :
    ofParts parts = t := by
  refine ext_get fun d => ?_
  rw [get_ofParts]
  cases hlast : (Part.along d parts).getLast? with
  | none =>
    cases hx : t.get d with
    | none => rfl
    | some x =>
      have hmem := Part.mem_along.2 ((hparts d x).2 hx)
      rw [List.getLast?_eq_none_iff.1 hlast] at hmem
      exact absurd hmem List.not_mem_nil
  | some x =>
    have hx := (hparts d x).1 (Part.mem_along.1 (List.mem_of_getLast? hlast))
    rw [Option.bind_some, nonDefault_of_not_isDefault (ht d x hx).1, hx]

/-! ## Replacing and merging -/

theorem get_ofParts_singleton (p : Part) (d : Dimension) :
    (ofParts [p]).get d = (Part.along? d p).bind nonDefault := by
  rw [get_ofParts, Part.along, List.filterMap_cons]
  cases Part.along? d p with
  | none => rfl
  | some x => rfl

theorem partsAlong_singles (d : Dimension) (parts : List Part) :
    partsAlong d (parts.map fun p => ofParts [p]) = (Part.along d parts).filterMap nonDefault := by
  rw [partsAlong, List.filterMap_map, Part.along, List.filterMap_filterMap]
  exact List.filterMap_congr fun p _ => get_ofParts_singleton p d

theorem join_toList_nonDefault (hx : x.Disjoint) : join x.nonDefault.toList = x.nonDefault := by
  cases hdefault : x.isDefault with
  | true =>
    rw [nonDefault, if_pos hdefault]
    rfl
  | false =>
    rw [nonDefault_of_not_isDefault hdefault, Option.toList_some, join_singleton hx,
      nonDefault_of_not_isDefault hdefault]

/-- If no dimension has two parts, records with one part each merge to the record with all parts. -/
theorem makeMerged_singles (hdistinct : (parts.map (·.1)).Nodup)
    (hdisjoint : ∀ p ∈ parts, p.2.Disjoint) :
    makeMerged (parts.map fun p => ofParts [p]) = .ok (ofParts parts) := by
  rw [makeMerged_eq]
  refine congrArg Except.ok (ext_get fun d => ?_)
  rw [get_merge_eq_join, partsAlong_singles, get_ofParts]
  rcases Part.along_of_nodup hdistinct d with hnone | ⟨x, hx⟩
  · rw [hnone]
    rfl
  · have hmem : (⟨d, x⟩ : Part) ∈ parts := Part.mem_along.1 (hx ▸ List.mem_singleton_self x)
    rw [hx]
    exact join_toList_nonDefault (hdisjoint ⟨d, x⟩ hmem)

/-- A record that is put together from parts holds along each dimension the last part of that
dimension, and nothing if there is none or if it is empty, so an empty part clears what parts before it
put there. Parts can be rearranged as long as those of one dimension keep their order. If no dimension
has two parts, merging records with one part each gives the same record. The parts of a well-formed
record make that record, in any order. -/
theorem last_part_counts (parts : List Part) :
    (∀ d, (ofParts parts).get d = (Part.along d parts).getLast?.bind nonDefault) ∧
    (∀ others, (∀ d, Part.along d others = Part.along d parts) → ofParts others = ofParts parts) ∧
    ((parts.map (·.1)).Nodup → (∀ p ∈ parts, p.2.Disjoint) →
      makeMerged (parts.map fun p => ofParts [p]) = .ok (ofParts parts)) ∧
    ∀ t : Targeting, t.WellFormed →
      (∀ d, ∀ x : DimensionTargeting d, ⟨d, x⟩ ∈ parts ↔ t.get d = some x) → ofParts parts = t :=
  ⟨get_ofParts parts, fun _ => ofParts_congr, makeMerged_singles, fun _ => ofParts_eq_self⟩

/-- Architectures are set and cleared again, before or after levels are set. The parts of the record
that is left make it, and merging them does so too. -/
theorem last_part_counts_cleared :
    let levels : Part := ⟨.sdkVersion, ⟨.single ⟨21⟩, .single ⟨30⟩⟩⟩
    let languages : Part := ⟨.language, ⟨.single "de", ∅⟩⟩
    let abis : Part := ⟨.abi, ⟨.single .x86, ∅⟩⟩
    let nothing : Part := ⟨.abi, ⟨∅, ∅⟩⟩
    let t : Targeting :=
      { language := some ⟨.single "de", ∅⟩, sdkVersion := some ⟨.single ⟨21⟩, .single ⟨30⟩⟩ }
    ofParts [abis, levels, nothing, languages] = t ∧
      ofParts [languages, abis, nothing, levels] = ofParts [abis, levels, nothing, languages] ∧
      (([levels, languages] : List Part).map (·.1)).Nodup ∧
      (∀ p ∈ ([levels, languages] : List Part), p.2.Disjoint) ∧
      makeMerged [ofParts [levels], ofParts [languages]] = .ok (ofParts [levels, languages]) ∧
      t.WellFormed ∧ ofParts [levels, languages] = t := by
  intro levels languages abis nothing t
  have hdistinct : (([levels, languages] : List Part).map (·.1)).Nodup := by decide
  have hdisjoint : ∀ p ∈ ([levels, languages] : List Part), p.2.Disjoint := by decide
  have ht : t.WellFormed := by decide
  obtain ⟨-, hmoved, -, -⟩ := last_part_counts [abis, levels, nothing, languages]
  obtain ⟨-, -, hmerged, hparts⟩ := last_part_counts [levels, languages]
  refine ⟨rfl, hmoved _ fun d => by cases d <;> rfl, hdistinct, hdisjoint,
    hmerged hdistinct hdisjoint, ht, hparts t ht fun d x => ?_⟩
  rw [← Part.mem_along]
  cases d <;> simp [Part.along, Part.along?, levels, languages, t, get, eq_comm]

end Targeting

end DeviceSplit
