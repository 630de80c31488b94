import DeviceSplit.Proofs.AbiSplit.Division

set_option autoImplicit false

/-! # Dividing a split again

A split carries the native libraries of its module along, so it can be divided like a module. Its
entries have the owners that they had before, and they stand in the order in which their owner takes
them. Dividing it again therefore puts each entry where it is already (`resplit_stable`). -/

namespace DeviceSplit

namespace NativeLibraries

/-! ## Owners of owned entries -/

/-- What an architecture owns, it owns again, in the same order. -/
theorem ownEntries_self (n : NativeLibraries) (a : Abi) (es : List ModuleEntry) :
    n.ownEntries a (n.ownEntries a es) = n.ownEntries a es := by
  have howned : (n.ownEntries a es).filter (fun e => n.owner e = some a) = n.ownEntries a es := by
    rw [List.filter_eq_self]
    intro e he
    simpa using (mem_ownEntries.1 he).2
  rw [ownEntries, howned, ownEntries, entriesUnderAny_self]

/-- No other architecture owns any of it. -/
theorem ownEntries_ownEntries_of_ne (n : NativeLibraries) {a b : Abi} (hab : b ≠ a)
    (es : List ModuleEntry) : n.ownEntries b (n.ownEntries a es) = [] := by
  rw [List.eq_nil_iff_forall_not_mem]
  intro e he
  obtain ⟨hea, hb⟩ := mem_ownEntries.1 he
  have ha := (mem_ownEntries.1 hea).2
  exact hab (Option.some.inj (hb.symm.trans ha))

theorem ownEntries_unowned (n : NativeLibraries) (a : Abi) (es : List ModuleEntry) :
    n.ownEntries a (n.unowned es) = [] := by
  rw [List.eq_nil_iff_forall_not_mem]
  intro e he
  obtain ⟨hunowned, ha⟩ := mem_ownEntries.1 he
  exact nomatch (mem_unowned.1 hunowned).2.symm.trans ha

theorem unowned_ownEntries (n : NativeLibraries) (a : Abi) (es : List ModuleEntry) :
    n.unowned (n.ownEntries a es) = [] := by
  rw [List.eq_nil_iff_forall_not_mem]
  intro e he
  obtain ⟨howned, hnone⟩ := mem_unowned.1 he
  exact nomatch hnone.symm.trans (mem_ownEntries.1 howned).2

theorem unowned_self (n : NativeLibraries) (es : List ModuleEntry) :
    n.unowned (n.unowned es) = n.unowned es := by
  rw [unowned, unowned, List.filter_filter]
  exact List.filter_congr fun e _ => Bool.and_self _

end NativeLibraries

namespace ModuleSplit

variable {m : ModuleSplit} {n : NativeLibraries} {policy : SplitPolicy}
  {splits : List ModuleSplit}

/-! ## Splits of splits -/

/-- A split for an architecture made from another one differs from one made from the module only in
its mutators. -/
theorem abiSplit_abiSplit (m : ModuleSplit) (generated : SortedSet Abi) (a b : Abi)
    (es fs : List ModuleEntry) :
    (m.abiSplit generated a es).abiSplit generated b fs =
      { m.abiSplit generated b fs with
        masterManifestMutators :=
          (m.abiSplit generated a es).masterManifestMutators ++ [.splitsRequired] } := by
  simp only [abiSplit, forAbi, Targeting.withDimension_withDimension]

/-- Dividing the split of one architecture: its own split gets everything, the others nothing. -/
theorem abiSplits_abiSplit {i : Nat} {a : Abi} (ha : (n.generated policy)[i]? = some a)
    {s : ModuleSplit}
    (hs : s = m.abiSplit (.ofList (n.generated policy)) a (n.ownEntries a m.entries)) :
    s.abiSplits n policy = (m.abiSplits n policy).mapIdx fun j t =>
      { t with
        entries := if j = i then s.entries else []
        masterManifestMutators := s.masterManifestMutators ++ [.splitsRequired] } := by
  subst hs
  refine List.ext_getElem? fun j => ?_
  rw [abiSplits, abiSplits, List.getElem?_mapIdx, List.getElem?_map, List.getElem?_map]
  cases hb : (n.generated policy)[j]? with
  | none => rfl
  | some b =>
    -- Architectures get one split each, so the same architecture stands at the same position.
    have hentries : n.ownEntries b (n.ownEntries a m.entries) =
        if j = i then n.ownEntries a m.entries else [] := by
      by_cases hij : j = i
      · subst hij
        obtain rfl := Option.some.inj (ha.symm.trans hb)
        rw [if_pos rfl, n.ownEntries_self]
      · have hlt : j < (n.generated policy).length := (List.getElem?_eq_some_iff.1 hb).1
        have hba : b ≠ a := fun hba => hij <|
          (List.getElem?_inj hlt (n.nodup_generated policy)).1 (hb.trans (hba ▸ ha.symm))
        rw [if_neg hij, n.ownEntries_ownEntries_of_ne hba]
    simp only [Option.map_some, abiSplit_abiSplit, entries_abiSplit, hentries]
    rfl

theorem leftOverSplit_abiSplit (m : ModuleSplit) (n : NativeLibraries) (generated : SortedSet Abi)
    (a : Abi) (es : List ModuleEntry) :
    (m.abiSplit generated a (n.ownEntries a es)).leftOverSplit n = none :=
  if_pos (n.unowned_ownEntries a es)

/-- Dividing what was left over gives it back, after splits without entries. -/
theorem abiSplits_leftOver (m : ModuleSplit) (n : NativeLibraries) (policy : SplitPolicy) :
    abiSplits { m with entries := n.unowned m.entries } n policy =
      (m.abiSplits n policy).map fun s => { s with entries := [] } := by
  rw [abiSplits, abiSplits, List.map_map]
  refine List.map_congr_left fun a _ => ?_
  dsimp only
  rw [n.ownEntries_unowned]
  rfl

/-- Dividing the splits of a pass once more, under the same policy. The split of an architecture
keeps its entries in their order; the other architectures get splits without entries, and nothing is
left over. What was left over is left over again. Only the demand for splits is written into the
manifest once more. -/
theorem resplit_stable (hm : m.Valid) (hn : m.nativeConfig = some n)
    (hs : (m.splitByAbi policy).outcome = .ok splits) :
    ∃ abiSplits leftOver, IsDivision n policy abiSplits leftOver splits ∧
      (∀ (i : Nat) (s : ModuleSplit), abiSplits[i]? = some s →
        (s.splitByAbi policy).outcome = .ok (abiSplits.mapIdx fun j t =>
          { t with
            entries := if j = i then s.entries else []
            masterManifestMutators := s.masterManifestMutators ++ [.splitsRequired] })) ∧
      ∀ l, leftOver = some l →
        (l.splitByAbi policy).outcome =
          .ok ((abiSplits.map fun s => { s with entries := [] }) ++ [l]) := by
  obtain ⟨hdivisible, rfl⟩ := (outcome_eq_ok_iff hm hn).1 hs
  refine ⟨m.abiSplits n policy, m.leftOverSplit n, m.isDivision n policy, ?_, ?_⟩
  · intro i s hi
    unfold abiSplits at hi
    rw [List.getElem?_map] at hi
    obtain ⟨a, ha, hsa⟩ := Option.map_eq_some_iff.1 hi
    have hsm : s.Valid := hsa ▸ hm.abiSplit n _ a
    have hsn : s.nativeConfig = some n := hsa ▸ hn
    have hleft : s.leftOverSplit n = none := hsa ▸ leftOverSplit_abiSplit m n _ a m.entries
    rw [outcome_eq_ok_iff hsm hsn, hleft, abiSplits_abiSplit ha hsa.symm]
    exact ⟨hdivisible, (List.append_nil _).symm⟩
  · intro l hl
    obtain ⟨hne, rfl⟩ := leftOverSplit_eq_some_iff.1 hl
    rw [outcome_eq_ok_iff (hm.leftOver n) hn,
      abiSplits_leftOver, leftOverSplit, n.unowned_self, if_neg hne]
    exact ⟨hdivisible, rfl⟩

/-- The split with the one entry of `arm64-v8a` is divided into itself, after the split of `x86`
without its entries. -/
theorem resplit_stable_nestedModule :
    nestedModule.Valid ∧ nestedModule.nativeConfig = some nestedLibraries ∧
      ∃ splits, (nestedModule.splitByAbi {}).outcome = .ok splits ∧
        ∃ abiSplits leftOver, IsDivision nestedLibraries {} abiSplits leftOver splits ∧
          ∃ s, abiSplits[1]? = some s ∧ s.abis = .single .arm64V8a ∧
            (s.splitByAbi {}).outcome = .ok (abiSplits.mapIdx fun j t =>
              { t with
                entries := if j = 1 then s.entries else []
                masterManifestMutators := s.masterManifestMutators ++ [.splitsRequired] }) := by
  have hsplits : (nestedModule.splitByAbi {}).outcome = .ok _ := rfl
  obtain ⟨abiSplits, leftOver, hdivision, hresplit, -⟩ :=
    resplit_stable valid_nestedModule rfl hsplits
  have habis : (abiSplits[1]?).map abis = some (.single .arm64V8a) := by
    rw [← List.getElem?_map, hdivision.abis_eq]
    rfl
  obtain ⟨s, hs, hsa⟩ := Option.map_eq_some_iff.1 habis
  exact ⟨valid_nestedModule, rfl, _, hsplits, abiSplits, leftOver, hdivision, s, hs, hsa, hresplit 1 s hs⟩

end ModuleSplit

end DeviceSplit
