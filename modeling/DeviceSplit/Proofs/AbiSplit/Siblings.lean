import Mathlib.Data.List.Nodup
import DeviceSplit.Proofs.AbiSplit.Division
import DeviceSplit.Proofs.SortedSet
import DeviceSplit.Proofs.Targeting.Variants

set_option autoImplicit false

/-! # Splits as variants of each other

The splits of the architectures exclude each other: each lists all others as its alternatives.
Variants of a set of records do so too, and are computed on their own. The two agree
(`siblings_are_variants`), and merging the targetings of all splits leads back to the targeting of
the module, with all generated architectures as its values. -/

namespace DeviceSplit

namespace ModuleSplit

open DimensionTargeting

variable {m : ModuleSplit} {n : NativeLibraries} {policy : SplitPolicy}
  {splits : List ModuleSplit} {a : Abi}

/-- What the targeting of a split says about architectures, as a record of its own. -/
def abiTargeting (s : ModuleSplit) : Targeting := { abi := s.apkTargeting.abi }

theorem abiTargeting_abiSplit (m : ModuleSplit) (generated : SortedSet Abi) (a : Abi)
    (es : List ModuleEntry) :
    (m.abiSplit generated a es).abiTargeting = Targeting.variant (d := .abi) generated a := by
  refine Targeting.ext_get fun d => ?_
  by_cases hd : d = .abi
  · subst hd
    change (m.abiSplit generated a es).apkTargeting.get .abi = _
    rw [abiSplit, forAbi, Targeting.variant]
    exact (Targeting.get_withDimension_self _ _).trans (Targeting.get_withDimension_self _ _).symm
  · rw [Targeting.variant, Targeting.get_withDimension_of_ne _ _ (Ne.symm hd), Targeting.get_default]
    cases d with
    | abi => exact absurd rfl hd
    | _ => rfl

theorem map_abiTargeting_abiSplits (m : ModuleSplit) (n : NativeLibraries) (policy : SplitPolicy) :
    (m.abiSplits n policy).map abiTargeting =
      (n.generated policy).map
        (Targeting.variant (d := .abi) (SortedSet.ofList (n.generated policy))) := by
  rw [abiSplits, List.map_map]
  exact List.map_congr_left fun a _ => abiTargeting_abiSplit m _ a _

/-- The values of records for the generated architectures, one for each directory. -/
theorem valuesAlong_records {records : List Targeting}
    (hrecords : (records.map fun r => valuesOf (r.get .abi)).Perm
      ((n.directories.filter fun d => policy.generates d.abi).map fun d => .single d.abi)) :
    Targeting.valuesAlong .abi records = SortedSet.ofList (n.generated policy) := by
  -- One architecture can have several directories; both sides forget how many.
  refine SortedSet.ext fun a => ?_
  rw [Targeting.valuesAlong, SortedSet.mem_unions, SortedSet.mem_ofList,
    NativeLibraries.mem_generated, NativeLibraries.mem_abis]
  constructor
  · rintro ⟨values, hvalues, ha⟩
    obtain ⟨d, hd, rfl⟩ := List.mem_map.1 (hrecords.mem_iff.1 hvalues)
    obtain ⟨hdir, hgenerates⟩ := List.mem_filter.1 hd
    obtain rfl := SortedSet.mem_single.1 ha
    exact ⟨⟨d, hdir, rfl⟩, hgenerates⟩
  · rintro ⟨⟨d, hdir, rfl⟩, hgenerates⟩
    have hd : d ∈ n.directories.filter fun d => policy.generates d.abi :=
      List.mem_filter.2 ⟨hdir, hgenerates⟩
    exact ⟨.single d.abi, hrecords.mem_iff.2 (List.mem_map_of_mem hd), SortedSet.mem_single.2 rfl⟩

theorem nodup_abis_abiSplits (m : ModuleSplit) (n : NativeLibraries) (policy : SplitPolicy) :
    ((m.abiSplits n policy).map abis).Nodup := by
  rw [(m.isDivision n policy).abis_eq, List.Nodup, List.pairwise_map]
  exact (n.nodup_generated policy).imp fun hne h => hne (SortedSet.single_inj h)

theorem mem_abis_of_mem_abiSplits {s : ModuleSplit} (hs : s ∈ m.abiSplits n policy)
    (ha : a ∈ s.abis) : a ∈ n.generated policy := by
  obtain ⟨b, hb, rfl⟩ := mem_abiSplits.1 hs
  rw [abis_abiSplit, SortedSet.mem_single] at ha
  exact ha ▸ hb

theorem mem_siblingAbis_of_mem_abiSplits {s : ModuleSplit} (hs : s ∈ m.abiSplits n policy) :
    a ∈ s.siblingAbis ↔ a ∈ n.generated policy ∧ a ∉ s.abis := by
  obtain ⟨b, -, rfl⟩ := mem_abiSplits.1 hs
  rw [mem_siblingAbis_abiSplit, abis_abiSplit, SortedSet.mem_single, SortedSet.mem_ofList]

/-- Exactly one split is for a generated architecture. -/
theorem existsUnique_abiSplit (ha : a ∈ n.generated policy) :
    ∃! s, s ∈ m.abiSplits n policy ∧ a ∈ s.abis := by
  refine ⟨_, ⟨mem_abiSplits.2 ⟨a, ha, rfl⟩, ?_⟩, ?_⟩
  · rw [abis_abiSplit]
    exact SortedSet.mem_single.2 rfl
  · rintro t ⟨ht, hat⟩
    obtain ⟨b, -, rfl⟩ := mem_abiSplits.1 ht
    rw [abis_abiSplit, SortedSet.mem_single] at hat
    rw [hat]

/-! ## Merging all splits -/

theorem mem_valuesOf_merge_abiSplits :
    a ∈ valuesOf ((Targeting.merge ((m.abiSplits n policy).map (·.apkTargeting))).get .abi) ↔
      a ∈ n.generated policy := by
  rw [Targeting.valuesOf_get_merge, Targeting.mem_valuesAlong]
  constructor
  · rintro ⟨t, ht, ha⟩
    obtain ⟨s, hs, rfl⟩ := List.mem_map.1 ht
    exact mem_abis_of_mem_abiSplits hs ha
  · intro ha
    obtain ⟨s, ⟨hs, has⟩, -⟩ := existsUnique_abiSplit (m := m) ha
    exact ⟨_, List.mem_map_of_mem hs, has⟩

theorem alternativesOf_merge_abiSplits (m : ModuleSplit) (n : NativeLibraries)
    (policy : SplitPolicy) :
    alternativesOf ((Targeting.merge ((m.abiSplits n policy).map (·.apkTargeting))).get .abi) =
      ∅ := by
  rw [← SortedSet.isEmpty_iff, SortedSet.isEmpty_iff_forall]
  intro a ha
  rw [Targeting.alternativesOf_get_merge, SortedSet.mem_diff, Targeting.mem_alternativesAlong,
    ← Targeting.valuesOf_get_merge] at ha
  obtain ⟨⟨t, ht, hat⟩, hvalue⟩ := ha
  obtain ⟨s, hs, rfl⟩ := List.mem_map.1 ht
  exact hvalue (mem_valuesOf_merge_abiSplits.2 ((mem_siblingAbis_of_mem_abiSplits hs).1 hat).1)

theorem get_merge_abiSplits_of_ne (hm : m.Valid) (hne : m.abiSplits n policy ≠ [])
    {d : Dimension} (hd : d ≠ .abi) :
    (Targeting.merge ((m.abiSplits n policy).map (·.apkTargeting))).get d =
      m.apkTargeting.get d := by
  refine Targeting.get_merge_of_forall_get (by simpa using hne) (fun t ht => ?_) (hm.targeting d)
  obtain ⟨s, hs, rfl⟩ := List.mem_map.1 ht
  obtain ⟨a, -, rfl⟩ := mem_abiSplits.1 hs
  exact get_abiSplit_of_ne m _ a _ hd

/-! ## The two agree -/

/-- The targetings of the splits for architectures are the variants that are made of any records that
have one value each, the architecture of one directory: all generated architectures exclude each
other, and no others occur. The record that the splits are merged to is for all generated
architectures, without alternatives, and keeps what the module says along other dimensions. -/
theorem siblings_are_variants (hm : m.Valid) (hn : m.nativeConfig = some n)
    (hs : (m.splitByAbi policy).outcome = .ok splits) {records : List Targeting}
    (hrecords : (records.map fun r => valuesOf (r.get .abi)).Perm
      ((n.directories.filter fun d => policy.generates d.abi).map fun d => .single d.abi)) :
    ∃ abiSplits leftOver variants, IsDivision n policy abiSplits leftOver splits ∧
      Targeting.makeVariants .abi records = .ok variants ∧
      (abiSplits.map abiTargeting).Perm variants ∧ (abiSplits.map abiTargeting).Nodup ∧
      (∀ a ∈ n.generated policy, (∃! s, s ∈ abiSplits ∧ a ∈ s.abis) ∧
        ∀ s ∈ abiSplits, a ∉ s.abis → a ∈ s.siblingAbis) ∧
      (∀ s ∈ abiSplits, ∀ a, a ∈ s.abis ∨ a ∈ s.siblingAbis → a ∈ n.generated policy) ∧
      (abiSplits ≠ [] → ∃ whole,
        Targeting.makeMerged (abiSplits.map (·.apkTargeting)) = .ok whole ∧
        (∀ a, a ∈ valuesOf (whole.get .abi) ↔ a ∈ n.generated policy) ∧
        alternativesOf (whole.get .abi) = ∅ ∧
        ∀ d, d ≠ .abi → whole.get d = m.apkTargeting.get d) := by
  obtain ⟨-, rfl⟩ := (outcome_eq_ok_iff hm hn).1 hs
  refine ⟨m.abiSplits n policy, m.leftOverSplit n, Targeting.variants .abi records,
    m.isDivision n policy, Targeting.makeVariants_eq .abi records, ?_, ?_, ?_, ?_, ?_⟩
  · rw [map_abiTargeting_abiSplits, Targeting.variants, valuesAlong_records hrecords]
    exact ((SortedSet.toList_ofList_perm (n.nodup_generated policy)).map _).symm
  · refine List.Nodup.of_map (fun t => valuesOf (t.get .abi)) ?_
    rw [List.map_map]
    exact m.nodup_abis_abiSplits n policy
  · intro a ha
    refine ⟨existsUnique_abiSplit ha, fun s hs hnot => ?_⟩
    exact (mem_siblingAbis_of_mem_abiSplits hs).2 ⟨ha, hnot⟩
  · rintro s hs a (ha | ha)
    · exact mem_abis_of_mem_abiSplits hs ha
    · exact ((mem_siblingAbis_of_mem_abiSplits hs).1 ha).1
  · intro hne
    exact ⟨_, Targeting.makeMerged_eq _, fun a => mem_valuesOf_merge_abiSplits,
      m.alternativesOf_merge_abiSplits n policy, fun d hd => get_merge_abiSplits_of_ne hm hne hd⟩

/-- One architecture has two directories here, and what the records say about alternatives and
languages does not count. -/
theorem siblings_are_variants_nestedModule :
    let records : List Targeting :=
      [{ abi := some ⟨.single .x86, .single .mips⟩ },
        { abi := some ⟨.single .arm64V8a, ∅⟩, language := some ⟨.single "de", ∅⟩ },
        { abi := some ⟨.single .x86, .single .arm64V8a⟩ }]
    nestedModule.Valid ∧ nestedModule.nativeConfig = some nestedLibraries ∧
      (records.map fun r => valuesOf (r.get .abi)).Perm
        ((nestedLibraries.directories.filter fun d => SplitPolicy.generates {} d.abi).map
          fun d => .single d.abi) ∧
      ∃ splits abiSplits leftOver variants, (nestedModule.splitByAbi {}).outcome = .ok splits ∧
        IsDivision nestedLibraries {} abiSplits leftOver splits ∧
        Targeting.makeVariants .abi records = .ok variants ∧
        (abiSplits.map abiTargeting).Perm variants ∧
        (∃! s, s ∈ abiSplits ∧ .arm64V8a ∈ s.abis) ∧
        ∃ whole, Targeting.makeMerged (abiSplits.map (·.apkTargeting)) = .ok whole ∧
          .arm64V8a ∈ valuesOf (whole.get .abi) := by
  intro records
  have hrecords : (records.map fun r => valuesOf (r.get .abi)).Perm
      ((nestedLibraries.directories.filter fun d => SplitPolicy.generates {} d.abi).map
        fun d => .single d.abi) := .refl _
  have hsplits : (nestedModule.splitByAbi {}).outcome = .ok _ := rfl
  obtain ⟨abiSplits, leftOver, variants, hdivision, hvariants, hperm, -, hunique, -, hwhole⟩ :=
    siblings_are_variants valid_nestedModule rfl hsplits hrecords
  have hgenerated : Abi.arm64V8a ∈ nestedLibraries.generated {} := by decide
  obtain ⟨⟨s, hs, hother⟩, -⟩ := hunique .arm64V8a hgenerated
  obtain ⟨whole, hmerged, hvalues, -⟩ := hwhole (List.ne_nil_of_mem hs.1)
  exact ⟨valid_nestedModule, rfl, hrecords, _, abiSplits, leftOver, variants, hsplits, hdivision,
    hvariants, hperm, ⟨s, hs, hother⟩, whole, hmerged, (hvalues .arm64V8a).2 hgenerated⟩

end ModuleSplit

end DeviceSplit
