import DeviceSplit.Proofs.AbiSplit.Division

set_option autoImplicit false

/-! # When a pass is refused

Every targeting and every split that a pass makes goes through a check, and each check could
refuse the pass. None ever does: the pieces of a valid module are valid (`Valid.of_mem_splits`). What
remains is the one refusal on purpose, when the policy leaves nothing to generate
(`refused_iff_only64Bit`). -/

namespace DeviceSplit

namespace ModuleSplit

variable {m : ModuleSplit} {n : NativeLibraries} {policy : SplitPolicy}
  {splits : List ModuleSplit} {refusal : Refusal}

/-- What a pass makes of a valid module is valid. -/
theorem Valid.of_mem_splits (hm : m.Valid) (hs : (m.splitByAbi policy).outcome = .ok splits)
    {s : ModuleSplit} (hmem : s ∈ splits) : s.Valid := by
  cases hn : m.nativeConfig with
  | none =>
    rw [splitByAbi_of_none hn] at hs
    obtain rfl := Except.ok.inj hs
    rw [List.mem_singleton.1 hmem]
    exact hm
  | some n =>
    obtain ⟨-, rfl⟩ := (outcome_eq_ok_iff hm hn).1 hs
    rcases List.mem_append.1 hmem with habi | hleft
    · obtain ⟨a, -, rfl⟩ := mem_abiSplits.1 habi
      exact hm.abiSplit n _ a
    · obtain ⟨-, rfl⟩ := leftOverSplit_eq_some_iff.1 (Option.mem_toList.1 hleft)
      exact hm.leftOver n

/-- A pass that is refused has native libraries, and the policy rules out all of them. -/
theorem not_divisible_of_refused (hm : m.Valid)
    (hrefused : (m.splitByAbi policy).outcome = .error refusal) :
    ∃ n, m.nativeConfig = some n ∧ ¬n.Divisible policy := by
  cases hn : m.nativeConfig with
  | none =>
    rw [splitByAbi_of_none hn] at hrefused
    exact nomatch hrefused
  | some n =>
    refine ⟨n, rfl, fun hdivisible => ?_⟩
    have hs := (outcome_eq_ok_iff hm hn).2 ⟨hdivisible, rfl⟩
    exact nomatch hs.symm.trans hrefused

/-- The architectures of a module in the order of their words, each once. -/
theorem pairwise_word_abis (n : NativeLibraries) :
    ((SortedSet.ofList n.abis).toList.map Vocabulary.word).Pairwise (· < ·) := by
  rw [List.pairwise_map]
  refine (SortedSet.ofList n.abis).ascending.imp ?_
  intro a b hab
  exact rank_lt_rank_iff.1 hab

/-- A pass over a valid module is refused exactly when 64-bit architectures are left out and all
native directories, if there are any, are for 64-bit architectures. It is then refused with a report
that names the module and blames the setting, and the one event of the pass is an error that lists
the architectures of the module, each once and in the order of their words. All other passes give
splits, and these are valid. -/
theorem refused_iff_only64Bit (hm : m.Valid) (policy : SplitPolicy) :
    ((∃ refusal, (m.splitByAbi policy).outcome = .error refusal) ↔
      ∃ n, m.nativeConfig = some n ∧ policy.include64Bit = false ∧
        ∀ d ∈ n.directories, d.abi.is64Bit = true) ∧
    (∀ refusal n, (m.splitByAbi policy).outcome = .error refusal → m.nativeConfig = some n →
      refusal = .failed (.report
        { message := .text <| "Generation of 64-bit native libraries is disabled, but App " ++
            "Bundle contains only 64-bit native libraries."
          context := [(.text "module", .text m.moduleName)]
          setting := some ⟨.text "ABI", .text "include_64_bit_libs"⟩ }) ∧
      ∃ event, ∃ abis : List Abi, (m.splitByAbi policy).events = [event] ∧ event.severity = .error ∧
        event.facts = [("abis", .list (abis.map writeWord))] ∧
        (abis.map Vocabulary.word).Pairwise (· < ·) ∧
        ∀ a, a ∈ abis ↔ ∃ d ∈ n.directories, d.abi = a) ∧
    ∀ splits, (m.splitByAbi policy).outcome = .ok splits → ∀ s ∈ splits, s.Valid := by
  refine ⟨⟨?_, ?_⟩, ?_, fun splits hs s hmem => hm.of_mem_splits hs hmem⟩
  · rintro ⟨refusal, hrefused⟩
    obtain ⟨n, hn, hnot⟩ := not_divisible_of_refused hm hrefused
    exact ⟨n, hn, NativeLibraries.not_divisible_iff.1 hnot⟩
  · rintro ⟨n, hn, honly⟩
    have hpass := splitByAbi_of_not_divisible hn (NativeLibraries.not_divisible_iff.2 honly)
    exact ⟨_, congrArg Pass.outcome hpass⟩
  · intro refusal n hrefused hn
    obtain ⟨n', hn', hnot⟩ := not_divisible_of_refused hm hrefused
    obtain rfl := Option.some.inj (hn.symm.trans hn')
    have hpass := splitByAbi_of_not_divisible hn hnot
    rw [hpass] at hrefused ⊢
    refine ⟨(Except.error.inj hrefused).symm, _, (SortedSet.ofList n.abis).toList, rfl, rfl, rfl,
      pairwise_word_abis n, fun a => ?_⟩
    exact SortedSet.mem_def.symm.trans (SortedSet.mem_ofList.trans NativeLibraries.mem_abis)

/-- Two 64-bit architectures, one of them with two directories. -/
def wideModule : ModuleSplit :=
  { nestedModule with
    nativeConfig := some
      ⟨[⟨"lib/x86_64", ⟨.x86_64⟩⟩, ⟨"lib", ⟨.arm64V8a⟩⟩, ⟨"lib/arm64", ⟨.x86_64⟩⟩]⟩ }

/-- The architectures are reported in the order of their words, not in that of the directories. -/
theorem refused_iff_only64Bit_wideModule :
    wideModule.Valid ∧
      (∃ refusal, (wideModule.splitByAbi ⟨false⟩).outcome = .error refusal ∧
        refusal.message = "[ABI] policy 'include_64_bit_libs': Generation of 64-bit native " ++
          "libraries is disabled, but App Bundle contains only 64-bit native libraries. | " ++
          "context: \x7b'module': 'base'\x7d") ∧
      (wideModule.splitByAbi ⟨false⟩).events = [.onlyDropped [.arm64V8a, .x86_64]] ∧
      ∃ splits, (wideModule.splitByAbi ⟨true⟩).outcome = .ok splits ∧
        ∀ s ∈ splits, s.Valid := by
  have hm : wideModule.Valid :=
    ⟨valid_nestedModule.targeting, valid_nestedModule.entries, valid_nestedModule.distinctPaths⟩
  obtain ⟨refusal, hrefused⟩ :=
    (refused_iff_only64Bit hm ⟨false⟩).1.2 ⟨_, rfl, rfl, by decide⟩
  obtain ⟨hreport, -⟩ := (refused_iff_only64Bit hm ⟨false⟩).2.1 refusal _ hrefused rfl
  have hs : (wideModule.splitByAbi ⟨true⟩).outcome = .ok _ := rfl
  exact ⟨hm, ⟨refusal, hrefused, by rw [hreport]; rfl⟩, rfl, _, hs,
    (refused_iff_only64Bit hm ⟨true⟩).2.2 _ hs⟩

end ModuleSplit

end DeviceSplit
