import DeviceSplit.Proofs.AbiSplit.Division

set_option autoImplicit false

/-! # Entries do not depend on each other

Where an entry goes, and in which order it stands there, has nothing to do with the other entries of
the module. Leaving out entries before a module is divided is therefore the same as leaving them out
of its splits (`entries_independent`). Only the left-over needs care: it is not made if nothing is
left for it. -/

namespace DeviceSplit

namespace NativeLibraries

/-- Ownership is a property of a single entry, so leaving out others does not change it. -/
theorem ownEntries_filter (n : NativeLibraries) (a : Abi) (q : ModuleEntry → Bool)
    (es : List ModuleEntry) : n.ownEntries a (es.filter q) = (n.ownEntries a es).filter q := by
  rw [ownEntries, List.filter_comm, entriesUnderAny_filter, ownEntries]

theorem unowned_filter (n : NativeLibraries) (q : ModuleEntry → Bool) (es : List ModuleEntry) :
    n.unowned (es.filter q) = (n.unowned es).filter q :=
  List.filter_comm _ _ _

end NativeLibraries

namespace ModuleSplit

variable {m : ModuleSplit} {n : NativeLibraries} {policy : SplitPolicy}

/-- The module split with only the entries that pass a test. -/
def keeping (s : ModuleSplit) (q : ModuleEntry → Bool) : ModuleSplit :=
  { s with entries := s.entries.filter q }

theorem Valid.keeping (hm : m.Valid) (q : ModuleEntry → Bool) : (m.keeping q).Valid where
  targeting := hm.targeting
  entries := fun e he => hm.entries e (List.mem_filter.1 he).1
  distinctPaths := (List.filter_sublist.map _).nodup hm.distinctPaths

/-- The splits for architectures of a module with fewer entries have fewer entries themselves. -/
theorem abiSplits_keeping (m : ModuleSplit) (n : NativeLibraries) (policy : SplitPolicy)
    (q : ModuleEntry → Bool) :
    (m.keeping q).abiSplits n policy = (m.abiSplits n policy).map (·.keeping q) := by
  rw [abiSplits, abiSplits, List.map_map]
  apply List.map_congr_left
  intro a _
  have howned : n.ownEntries a (m.keeping q).entries = (n.ownEntries a m.entries).filter q :=
    n.ownEntries_filter a q m.entries
  rw [howned]
  rfl

/-- What is left over of fewer entries is made into a split only if it is not empty. -/
theorem leftOverSplit_keeping (m : ModuleSplit) (n : NativeLibraries) (q : ModuleEntry → Bool) :
    (m.keeping q).leftOverSplit n =
      ((m.leftOverSplit n).map (·.keeping q)).filter fun l => !l.entries.isEmpty := by
  have hunowned : n.unowned (m.keeping q).entries = (n.unowned m.entries).filter q :=
    n.unowned_filter q m.entries
  rw [leftOverSplit, leftOverSplit, hunowned]
  by_cases hall : n.unowned m.entries = []
  · rw [if_pos hall, hall]
    rfl
  · rw [if_neg hall, Option.map_some, Option.filter_some]
    by_cases hkept : (n.unowned m.entries).filter q = []
    · -- There is a left-over of `m`, but all of its entries are gone.
      rw [if_pos hkept, if_neg (by simp [keeping, hkept])]
    · rw [if_neg hkept, if_pos (by simpa [keeping] using hkept)]
      rfl

/-- Leaving out entries of a module, by any test, leaves them out of its splits and changes nothing
else. The pass succeeds as before; the splits for architectures are the same and come in the same
order, each with those of its entries that pass the test, in the same order; the left-over has those
of its entries that pass the test, and is there exactly if some do. -/
theorem entries_independent (hm : m.Valid) (hn : m.nativeConfig = some n) (policy : SplitPolicy)
    (q : ModuleEntry → Bool) :
    ((∃ splits', ((m.keeping q).splitByAbi policy).outcome = .ok splits') ↔
      ∃ splits, (m.splitByAbi policy).outcome = .ok splits) ∧
    ∀ splits, (m.splitByAbi policy).outcome = .ok splits →
      ∃ abiSplits leftOver splits', IsDivision n policy abiSplits leftOver splits ∧
        ((m.keeping q).splitByAbi policy).outcome = .ok splits' ∧
        IsDivision n policy (abiSplits.map (·.keeping q))
          ((leftOver.map (·.keeping q)).filter fun l => !l.entries.isEmpty) splits' := by
  have hmq : (m.keeping q).Valid := hm.keeping q
  have hnq : (m.keeping q).nativeConfig = some n := hn
  constructor
  · rw [exists_outcome_eq_ok_iff hmq hnq, exists_outcome_eq_ok_iff hm hn]
  · intro splits hs
    obtain ⟨hdivisible, rfl⟩ := (outcome_eq_ok_iff hm hn).1 hs
    refine ⟨m.abiSplits n policy, m.leftOverSplit n, _, m.isDivision n policy,
      (outcome_eq_ok_iff hmq hnq).2 ⟨hdivisible, rfl⟩, ?_⟩
    rw [← abiSplits_keeping, ← leftOverSplit_keeping]
    exact (m.keeping q).isDivision n policy

/-- Without the entries that have content, nothing is left over and `x86` keeps one of its two
entries. -/
theorem entries_independent_nestedModule :
    nestedModule.Valid ∧ nestedModule.nativeConfig = some nestedLibraries ∧
      ∃ splits splits', (nestedModule.splitByAbi {}).outcome = .ok splits ∧
        ((nestedModule.keeping (·.content.isEmpty)).splitByAbi {}).outcome = .ok splits' ∧
        splits.map (·.entries.length) = [2, 1, 1] ∧
        splits'.map (·.entries.map (·.path)) = [["lib/arm64/compat/b.so"], ["lib/arm64/c.so"]] ∧
        ∃ abiSplits leftOver, IsDivision nestedLibraries {} abiSplits leftOver splits ∧
          IsDivision nestedLibraries {} (abiSplits.map (·.keeping (·.content.isEmpty)))
            ((leftOver.map (·.keeping (·.content.isEmpty))).filter fun l => !l.entries.isEmpty)
            splits' := by
  have hs : (nestedModule.splitByAbi {}).outcome = .ok _ := rfl
  obtain ⟨abiSplits, leftOver, splits', hdivision, hs', hdivision'⟩ :=
    (entries_independent valid_nestedModule rfl {} (·.content.isEmpty)).2 _ hs
  obtain rfl := Except.ok.inj hs'
  exact ⟨valid_nestedModule, rfl, _, _, hs, rfl, by decide, by decide, abiSplits, leftOver,
    hdivision, hdivision'⟩

end ModuleSplit

end DeviceSplit
