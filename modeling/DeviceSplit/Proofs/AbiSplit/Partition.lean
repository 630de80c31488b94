import DeviceSplit.Proofs.AbiSplit.Division
import DeviceSplit.Proofs.Entries

set_option autoImplicit false

/-! # Where the entries go

A pass distributes the entries of a module. An entry goes to the split of its owner if the policy
generates it, to the left-over if it has no owner, and nowhere else; what a split holds comes from
the module (`entries_partitioned`). -/

namespace DeviceSplit

namespace ModuleSplit

variable {m : ModuleSplit} {n : NativeLibraries} {policy : SplitPolicy}
  {splits : List ModuleSplit} {e : ModuleEntry} {a : Abi}

/-- The entries of several splits, one after another. -/
def contents (splits : List ModuleSplit) : List ModuleEntry := splits.flatMap (·.entries)

theorem contents_append (splits splits' : List ModuleSplit) :
    contents (splits ++ splits') = contents splits ++ contents splits' :=
  List.flatMap_append

theorem contents_abiSplits (m : ModuleSplit) (n : NativeLibraries) (policy : SplitPolicy) :
    contents (m.abiSplits n policy) =
      (n.generated policy).flatMap fun a => n.ownEntries a m.entries := by
  rw [contents, abiSplits, List.flatMap_map]
  rfl

theorem contents_leftOverSplit (m : ModuleSplit) (n : NativeLibraries) :
    contents (m.leftOverSplit n).toList = n.unowned m.entries := by
  rw [leftOverSplit]
  by_cases h : n.unowned m.entries = []
  · rw [if_pos h, h]
    rfl
  · rw [if_neg h]
    exact List.flatMap_singleton _ _

/-! ## Every entry once -/

theorem mem_contents_abiSplits :
    e ∈ contents (m.abiSplits n policy) ↔
      e ∈ m.entries ∧ ∃ a, n.owner e = some a ∧ policy.generates a = true := by
  simp only [contents_abiSplits, List.mem_flatMap, NativeLibraries.mem_ownEntries]
  constructor
  · rintro ⟨a, ha, he, howner⟩
    exact ⟨he, a, howner, (NativeLibraries.mem_generated.1 ha).2⟩
  · rintro ⟨he, a, howner, ha⟩
    exact ⟨a, NativeLibraries.mem_generated_of_owner howner ha, he, howner⟩

theorem mem_contents_leftOverSplit :
    e ∈ contents (m.leftOverSplit n).toList ↔ e ∈ m.entries ∧ n.owner e = none := by
  rw [contents_leftOverSplit, NativeLibraries.mem_unowned]

/-- No two architectures own the same entry. -/
theorem nodup_contents_abiSplits (m : ModuleSplit) (n : NativeLibraries) (policy : SplitPolicy) :
    (contents (m.abiSplits n policy)).Nodup := by
  rw [contents_abiSplits, List.nodup_flatMap]
  refine ⟨fun a _ => n.nodup_ownEntries a _, (n.nodup_generated policy).imp fun hne => ?_⟩
  intro e he he'
  have howner := (NativeLibraries.mem_ownEntries.1 he).2
  have howner' := (NativeLibraries.mem_ownEntries.1 he').2
  exact hne (Option.some.inj (howner.symm.trans howner'))

theorem nodup_contents (hm : m.entries.Nodup) (n : NativeLibraries) (policy : SplitPolicy) :
    (contents (m.abiSplits n policy ++ (m.leftOverSplit n).toList)).Nodup := by
  rw [contents_append, List.nodup_append]
  refine ⟨m.nodup_contents_abiSplits n policy, ?_, ?_⟩
  · rw [contents_leftOverSplit]
    exact hm.filter _
  · rintro e he f hf rfl
    obtain ⟨-, a, howner, -⟩ := mem_contents_abiSplits.1 he
    exact nomatch howner.symm.trans (mem_contents_leftOverSplit.1 hf).2

/-- What a pass hands out: everything but the entries of architectures that are left out. -/
theorem mem_contents :
    e ∈ contents (m.abiSplits n policy ++ (m.leftOverSplit n).toList) ↔
      e ∈ m.entries ∧ ∀ a, n.owner e = some a → policy.generates a = true := by
  rw [contents_append, List.mem_append, mem_contents_abiSplits, mem_contents_leftOverSplit,
    ← and_or_left]
  cases n.owner e <;> simp

/-- A successful pass divides the entries of a module by owner. An entry whose owner is generated
occurs once over all splits, in the split of its owner; one without an owner occurs once, in the
left-over; one whose owner is left out occurs in no split. Splits hold nothing else, so no entry
occurs twice, and a policy that leaves out nothing only rearranges the entries. -/
theorem entries_partitioned (hm : m.Valid) (hn : m.nativeConfig = some n)
    (hs : (m.splitByAbi policy).outcome = .ok splits) :
    ∃ abiSplits leftOver, IsDivision n policy abiSplits leftOver splits ∧
      (∀ e ∈ m.entries, ∀ a, n.owner e = some a → policy.generates a = true →
        (contents splits).count e = 1 ∧ ∃ s ∈ abiSplits, s.abis = .single a ∧ e ∈ s.entries) ∧
      (∀ e ∈ m.entries, n.owner e = none →
        (contents splits).count e = 1 ∧ ∃ l, leftOver = some l ∧ e ∈ l.entries) ∧
      (∀ e ∈ m.entries, ∀ a, n.owner e = some a → a.is64Bit = true →
        policy.include64Bit = false → ∀ s ∈ splits, e ∉ s.entries) ∧
      (∀ s ∈ splits, ∀ e ∈ s.entries, e ∈ m.entries) ∧
      (contents splits).Nodup ∧
      (policy.include64Bit = true → (contents splits).Perm m.entries) := by
  obtain ⟨-, rfl⟩ := (outcome_eq_ok_iff hm hn).1 hs
  have hnodup := nodup_contents hm.nodup_entries n policy
  have hheld : ∀ s ∈ m.abiSplits n policy ++ (m.leftOverSplit n).toList, ∀ e ∈ s.entries,
      e ∈ m.entries ∧ ∀ a, n.owner e = some a → policy.generates a = true := fun s hs e he =>
    mem_contents.1 (List.mem_flatMap.2 ⟨s, hs, he⟩)
  refine ⟨m.abiSplits n policy, m.leftOverSplit n, m.isDivision n policy, ?_, ?_, ?_,
    fun s hs e he => (hheld s hs e he).1, hnodup, ?_⟩
  · intro e he a howner ha
    have hmem : e ∈ contents (m.abiSplits n policy ++ (m.leftOverSplit n).toList) :=
      mem_contents.2 ⟨he, fun b hb => Option.some.inj (howner.symm.trans hb) ▸ ha⟩
    refine ⟨List.count_eq_one_of_mem hnodup hmem, _,
      mem_abiSplits.2 ⟨a, NativeLibraries.mem_generated_of_owner howner ha, rfl⟩,
      abis_abiSplit _ _ _ _, ?_⟩
    exact NativeLibraries.mem_ownEntries.2 ⟨he, howner⟩
  · intro e he howner
    have hmem : e ∈ contents (m.abiSplits n policy ++ (m.leftOverSplit n).toList) :=
      mem_contents.2 ⟨he, fun b hb => nomatch howner.symm.trans hb⟩
    have hunowned := NativeLibraries.mem_unowned.2 ⟨he, howner⟩
    exact ⟨List.count_eq_one_of_mem hnodup hmem, _,
      leftOverSplit_eq_some_iff.2 ⟨List.ne_nil_of_mem hunowned, rfl⟩, hunowned⟩
  · intro e he a howner h64 hoff s hs hes
    have hgenerated := (hheld s hs e hes).2 a howner
    simp [SplitPolicy.generates, h64, hoff] at hgenerated
  · intro hon
    rw [List.perm_ext_iff_of_nodup hnodup hm.nodup_entries]
    intro e
    rw [mem_contents]
    exact and_iff_left fun a _ => by simp [SplitPolicy.generates, hon]

/-- The entry `lib/arm64/compat/b.so` first meets a directory of one architecture and still goes to
the other one, which has its turn before; `lib/arm64/c.so` is left out with its owner. -/
theorem entries_partitioned_nestedModule :
    nestedModule.Valid ∧ nestedModule.nativeConfig = some nestedLibraries ∧
      (nestedLibraries.directories.find? fun d =>
        ModuleEntry.isUnder ⟨"lib/arm64/compat/b.so", []⟩ d.path).map (·.abi) = some .arm64V8a ∧
      nestedLibraries.owner ⟨"lib/arm64/compat/b.so", []⟩ = some .x86 ∧
      nestedLibraries.owner ⟨"lib/arm64/c.so", []⟩ = some .arm64V8a ∧
      nestedLibraries.owner ⟨"assets/icon", [7]⟩ = none ∧
      ∃ splits, (nestedModule.splitByAbi ⟨false⟩).outcome = .ok splits ∧
        (contents splits).count ⟨"lib/arm64/compat/b.so", []⟩ = 1 ∧
        (contents splits).count ⟨"assets/icon", [7]⟩ = 1 ∧
        ∀ s ∈ splits, ⟨"lib/arm64/c.so", []⟩ ∉ s.entries := by
  have hs : (nestedModule.splitByAbi ⟨false⟩).outcome = .ok _ := rfl
  refine ⟨valid_nestedModule, rfl, by decide, by decide, by decide, by decide, _, hs, ?_⟩
  obtain ⟨_, _, -, hgenerated, hunowned, hdropped, -⟩ :=
    entries_partitioned valid_nestedModule rfl hs
  exact ⟨(hgenerated ⟨"lib/arm64/compat/b.so", []⟩ (by decide) .x86 (by decide) rfl).1,
    (hunowned ⟨"assets/icon", [7]⟩ (by decide) (by decide)).1,
    hdropped ⟨"lib/arm64/c.so", []⟩ (by decide) .arm64V8a (by decide) rfl rfl⟩

end ModuleSplit

end DeviceSplit
