import DeviceSplit.Proofs.AbiSplit.Levels
import DeviceSplit.Proofs.AbiSplit.Ownership
import DeviceSplit.Proofs.Entries
import DeviceSplit.Proofs.SortedSet
import DeviceSplit.Proofs.Targeting.Basic

set_option autoImplicit false

/-! # The parts of a divided module

A pass that succeeds gives one split for each architecture that the policy generates, and after
them possibly one split with what is left over. `IsDivision` takes a result apart in this way, and
`outcome_eq_ok_iff` says for which policies there is a result and what its parts are, in terms of
the entries that each architecture owns. -/

namespace DeviceSplit

namespace NativeLibraries

variable {n : NativeLibraries} {policy : SplitPolicy} {a : Abi}

theorem mem_generated :
    a ∈ n.generated policy ↔ a ∈ n.abis ∧ policy.generates a = true :=
  List.mem_filter

theorem nodup_generated (n : NativeLibraries) (policy : SplitPolicy) :
    (n.generated policy).Nodup :=
  n.nodup_abis.filter _

theorem mem_generated_of_owner {e : ModuleEntry} (h : n.owner e = some a)
    (ha : policy.generates a = true) : a ∈ n.generated policy :=
  mem_generated.2 ⟨mem_of_ownerAmong h, ha⟩

/-- The policy does not rule out every architecture; one that rules out none never does. -/
def Divisible (n : NativeLibraries) (policy : SplitPolicy) : Prop :=
  policy.include64Bit = true ∨ n.generated policy ≠ []

/-- Every architecture is ruled out if 64-bit ones are and there are no others. -/
theorem not_divisible_iff :
    ¬n.Divisible policy ↔
      policy.include64Bit = false ∧ ∀ d ∈ n.directories, d.abi.is64Bit = true := by
  rw [Divisible, not_or, not_not, Bool.not_eq_true, List.eq_nil_iff_forall_not_mem]
  refine and_congr_right fun hoff => ?_
  constructor
  · intro hnone d hd
    have hnot : policy.generates d.abi ≠ true := fun ha =>
      hnone d.abi (mem_generated.2 ⟨mem_abis.2 ⟨d, hd, rfl⟩, ha⟩)
    simpa [SplitPolicy.generates, hoff] using hnot
  · intro hall a ha
    obtain ⟨habi, hgenerates⟩ := mem_generated.1 ha
    obtain ⟨d, hd, rfl⟩ := mem_abis.1 habi
    simp [SplitPolicy.generates, hoff, hall d hd] at hgenerates

end NativeLibraries

namespace ModuleSplit

/-- The architectures that a split is for. -/
def abis (s : ModuleSplit) : SortedSet Abi :=
  DimensionTargeting.valuesOf (s.apkTargeting.get .abi)

/-- The architectures that its sibling splits are for. -/
def siblingAbis (s : ModuleSplit) : SortedSet Abi :=
  DimensionTargeting.alternativesOf (s.apkTargeting.get .abi)

/-- Splits are a division: one for each generated architecture, in order, and then possibly one for
what is left over. -/
structure IsDivision (n : NativeLibraries) (policy : SplitPolicy) (abiSplits : List ModuleSplit)
    (leftOver : Option ModuleSplit) (splits : List ModuleSplit) : Prop where
  splits_eq : splits = abiSplits ++ leftOver.toList
  abis_eq : abiSplits.map abis = (n.generated policy).map SortedSet.single

variable {m : ModuleSplit} {n : NativeLibraries} {policy : SplitPolicy}
  {splits : List ModuleSplit}

/-! ## The split of one architecture -/

/-- The split of one architecture among those that are generated. -/
def abiSplit (m : ModuleSplit) (generated : SortedSet Abi) (a : Abi) (es : List ModuleEntry) :
    ModuleSplit :=
  m.forAbi (.favouring (.single a) generated) es

section AbiSplit

variable (m : ModuleSplit) (generated : SortedSet Abi) (a : Abi) (es : List ModuleEntry)

theorem get_abi_abiSplit :
    (m.abiSplit generated a es).apkTargeting.get .abi =
      some (DimensionTargeting.favouring (.single a) generated : DimensionTargeting .abi) :=
  (Targeting.get_withDimension_self _ _).trans
    (DimensionTargeting.nonDefault_favouring_single (d := .abi) a generated)

theorem get_abiSplit_of_ne {d : Dimension} (hd : d ≠ .abi) :
    (m.abiSplit generated a es).apkTargeting.get d = m.apkTargeting.get d :=
  Targeting.get_withDimension_of_ne _ _ (Ne.symm hd)

@[simp] theorem abis_abiSplit : (m.abiSplit generated a es).abis = .single a := by
  rw [abis, get_abi_abiSplit]
  rfl

theorem mem_siblingAbis_abiSplit {b : Abi} :
    b ∈ (m.abiSplit generated a es).siblingAbis ↔ b ∈ generated ∧ b ≠ a := by
  rw [siblingAbis, get_abi_abiSplit]
  exact SortedSet.mem_diff.trans (and_congr_right' (not_congr SortedSet.mem_single))

@[simp] theorem entries_abiSplit : (m.abiSplit generated a es).entries = es := rfl

end AbiSplit

/-! ## All splits -/

/-- The splits for the generated architectures, each with the entries that it owns. -/
def abiSplits (m : ModuleSplit) (n : NativeLibraries) (policy : SplitPolicy) : List ModuleSplit :=
  (n.generated policy).map fun a =>
    m.abiSplit (.ofList (n.generated policy)) a (n.ownEntries a m.entries)

/-- The split with the entries that nobody owns, if there are any. -/
def leftOverSplit (m : ModuleSplit) (n : NativeLibraries) : Option ModuleSplit :=
  if n.unowned m.entries = [] then none else some { m with entries := n.unowned m.entries }

theorem leftOverSplit_eq_some_iff {l : ModuleSplit} :
    m.leftOverSplit n = some l ↔
      n.unowned m.entries ≠ [] ∧ l = { m with entries := n.unowned m.entries } := by
  rw [leftOverSplit]
  split
  · next h => simp [h]
  · next h => simp [h, eq_comm]

theorem isDivision (m : ModuleSplit) (n : NativeLibraries) (policy : SplitPolicy) :
    IsDivision n policy (m.abiSplits n policy) (m.leftOverSplit n)
      (m.abiSplits n policy ++ (m.leftOverSplit n).toList) := by
  refine ⟨rfl, ?_⟩
  rw [abiSplits, List.map_map]
  exact List.map_congr_left fun a _ => abis_abiSplit m _ a _

theorem mem_abiSplits {s : ModuleSplit} :
    s ∈ m.abiSplits n policy ↔ ∃ a ∈ n.generated policy,
      m.abiSplit (.ofList (n.generated policy)) a (n.ownEntries a m.entries) = s :=
  List.mem_map

/-- An architecture has only one split. -/
theorem eq_abiSplit_of_mem {s : ModuleSplit} {a : Abi} (hs : s ∈ m.abiSplits n policy)
    (ha : s.abis = .single a) :
    s = m.abiSplit (.ofList (n.generated policy)) a (n.ownEntries a m.entries) := by
  obtain ⟨b, -, rfl⟩ := mem_abiSplits.1 hs
  rw [abis_abiSplit] at ha
  rw [SortedSet.single_inj ha]

theorem nodup_paths_ownEntries (hm : (m.entries.map (·.path)).Nodup) (n : NativeLibraries)
    (a : Abi) : ((n.ownEntries a m.entries).map (·.path)).Nodup :=
  ModuleEntry.nodup_paths_of_subset hm (fun _ he => (NativeLibraries.mem_ownEntries.1 he).1)
    (n.nodup_ownEntries a m.entries)

theorem nodup_paths_unowned (hm : (m.entries.map (·.path)).Nodup) (n : NativeLibraries) :
    ((n.unowned m.entries).map (·.path)).Nodup :=
  (List.filter_sublist.map _).nodup hm

theorem Valid.abiSplit (hm : m.Valid) (n : NativeLibraries) (generated : SortedSet Abi) (a : Abi) :
    (m.abiSplit generated a (n.ownEntries a m.entries)).Valid where
  targeting :=
    hm.targeting.withDimension (DimensionTargeting.disjoint_favouring _ _)
      ⟨fun _ _ => trivial, fun _ _ => trivial⟩
  entries := fun e he => hm.entries e (NativeLibraries.mem_ownEntries.1 he).1
  distinctPaths := nodup_paths_ownEntries hm.distinctPaths n a

theorem Valid.leftOver (hm : m.Valid) (n : NativeLibraries) :
    { m with entries := n.unowned m.entries }.Valid where
  targeting := hm.targeting
  entries := fun e he => hm.entries e (NativeLibraries.mem_unowned.1 he).1
  distinctPaths := nodup_paths_unowned hm.distinctPaths n

/-! ## What a pass does -/

/-- A split passes its checks if its entries do. -/
theorem makeAbiSplit_eq (m : ModuleSplit) (generated : SortedSet Abi) (a : Abi)
    {es : List ModuleEntry} (hes : (es.map (·.path)).Nodup) :
    m.makeAbiSplit generated a es =
      .reporting (.ok (m.abiSplit generated a es)) [.generated a es.length] := by
  -- The check of the targeting gives `favouring`, and with it the split as it stands.
  have hchecked : (m.abiSplit generated a es).checked = .ok (m.abiSplit generated a es) :=
    checked_eq_ok hes
  rw [makeAbiSplit, DimensionTargeting.check_diff, Pass.demand_ok, pure_bind]
  change (Pass.demand .moduleSplit (m.abiSplit generated a es).checked >>= _) = _
  rw [hchecked, Pass.demand_ok, pure_bind]
  exact Pass.report_bind_pure _ _

theorem makeLeftOver_eq (hm : (m.entries.map (·.path)).Nodup) :
    m.makeLeftOver (n.unowned m.entries) = .reporting (.ok (m.leftOverSplit n).toList) [] := by
  rw [makeLeftOver, leftOverSplit]
  by_cases h : n.unowned m.entries = []
  · rw [if_pos h, h]
    rfl
  · have hchecked : { m with entries := n.unowned m.entries }.checked = .ok _ :=
      checked_eq_ok (nodup_paths_unowned hm n)
    rw [if_neg h, if_neg (by simpa using h), hchecked]
    rfl

/-- What a pass reports about architectures that are left out. -/
def droppedEvents (n : NativeLibraries) (policy : SplitPolicy) : List SplitEvent :=
  if (n.dropped policy).isEmpty then [] else [.dropped (n.dropped policy)]

theorem reportDropped_eq (n : NativeLibraries) (policy : SplitPolicy) :
    n.reportDropped policy = .reporting (.ok ()) (droppedEvents n policy) := by
  unfold NativeLibraries.reportDropped droppedEvents
  split
  · rfl
  · exact Pass.report_eq _

/-- What a pass reports about the splits that it makes. -/
def generatedEvents (m : ModuleSplit) (n : NativeLibraries) (policy : SplitPolicy) :
    List SplitEvent :=
  (n.generated policy).map fun a => .generated a (n.ownEntries a m.entries).length

/-- The loop over the architectures makes their splits: what a split holds are entries of the
module, each once, so that all checks are passed. -/
theorem makeAbiSplits_eq (hm : (m.entries.map (·.path)).Nodup) (n : NativeLibraries)
    (policy : SplitPolicy) :
    (((n.claims m.entries).owned.filter fun c => policy.generates c.1).mapM fun c =>
        m.makeAbiSplit (.ofList (n.generated policy)) c.1 c.2) =
      .reporting (.ok (m.abiSplits n policy)) (m.generatedEvents n policy) := by
  have howned : (n.claims m.entries).owned.filter (fun c => policy.generates c.1) =
      (n.generated policy).map fun a => (a, n.ownEntries a m.entries) := by
    rw [n.owned_claims, List.filter_map]
    rfl
  rw [howned, List.mapM_map]
  exact Pass.mapM_ok fun a _ => makeAbiSplit_eq m _ a (nodup_paths_ownEntries hm n a)

/-- What a pass does that divides a module. -/
theorem divide_eq (hm : (m.entries.map (·.path)).Nodup) (n : NativeLibraries)
    (policy : SplitPolicy) :
    m.divide n policy =
      .reporting (.ok (m.abiSplits n policy ++ (m.leftOverSplit n).toList))
        (m.generatedEvents n policy ++ (droppedEvents n policy ++
          [.finished (m.abiSplits n policy).length (n.unowned m.entries).length])) := by
  unfold divide
  dsimp only
  rw [makeAbiSplits_eq hm, n.leftOver_claims, makeLeftOver_eq hm, reportDropped_eq]
  refine Pass.reporting_bind (Pass.reporting_bind ?_ _) _
  -- Finding the left-over reports nothing, and the last event ends the pass.
  exact Pass.reporting_bind (Pass.report_bind_pure _ _) []

theorem splitByAbi_of_none (hn : m.nativeConfig = none) :
    m.splitByAbi policy = .reporting (.ok [m]) [.passedThrough] := by
  unfold splitByAbi
  rw [hn]
  exact Pass.report_bind_pure _ _

theorem splitByAbi_of_divisible (hn : m.nativeConfig = some n) (h : n.Divisible policy) :
    m.splitByAbi policy = m.divide n policy := by
  unfold splitByAbi
  rw [hn]
  refine if_neg fun hcond => ?_
  rw [Bool.and_eq_true, List.isEmpty_iff, Bool.not_eq_true'] at hcond
  rcases h with hall | hsome
  · exact absurd hall (by simp [hcond.2])
  · exact hsome hcond.1

theorem splitByAbi_of_not_divisible (hn : m.nativeConfig = some n) (h : ¬n.Divisible policy) :
    m.splitByAbi policy =
      .reporting (.error (.failed m.nothingToGenerate))
        [.onlyDropped (SortedSet.ofList n.abis).toList] := by
  obtain ⟨hoff, hnone⟩ := not_or.1 h
  have hcond : ((n.generated policy).isEmpty && !policy.include64Bit) = true := by
    rw [Bool.and_eq_true, List.isEmpty_iff, Bool.not_eq_true']
    exact ⟨not_not.1 hnone, by simpa using hoff⟩
  unfold splitByAbi
  rw [hn]
  refine (if_pos hcond).trans ?_
  rw [Pass.report_eq]
  exact Pass.reporting_bind (Pass.refuse_eq _) _

/-- A pass succeeds exactly when the policy does not rule out every architecture, and then gives
the splits of the generated architectures and the left-over. -/
theorem outcome_eq_ok_iff (hm : m.Valid) (hn : m.nativeConfig = some n) :
    (m.splitByAbi policy).outcome = .ok splits ↔
      n.Divisible policy ∧ splits = m.abiSplits n policy ++ (m.leftOverSplit n).toList := by
  by_cases h : n.Divisible policy
  · rw [splitByAbi_of_divisible hn h, divide_eq hm.distinctPaths, Pass.outcome_reporting,
      Except.ok.injEq]
    exact ⟨fun heq => ⟨h, heq.symm⟩, fun heq => heq.2.symm⟩
  · rw [splitByAbi_of_not_divisible hn h]
    exact ⟨(nomatch ·), fun heq => absurd heq.1 h⟩

theorem exists_outcome_eq_ok_iff (hm : m.Valid) (hn : m.nativeConfig = some n) :
    (∃ splits, (m.splitByAbi policy).outcome = .ok splits) ↔ n.Divisible policy := by
  simp only [outcome_eq_ok_iff hm hn, exists_and_left, exists_eq, and_true]

/-! ## A module to look at -/

/-- Directories that contain each other, for two architectures in turn. -/
def nestedLibraries : NativeLibraries :=
  ⟨[⟨"lib/x86", ⟨.x86⟩⟩, ⟨"lib", ⟨.arm64V8a⟩⟩, ⟨"lib\\arm64/compat/", ⟨.x86⟩⟩]⟩

/-- A module with entries under several directories at once, and one under none. -/
def nestedModule : ModuleSplit where
  entries :=
    [⟨"assets/icon", [7]⟩, ⟨"lib/arm64/compat/b.so", []⟩, ⟨"lib/x86/a.so", [1, 2]⟩,
      ⟨"lib/arm64/c.so", []⟩]
  nativeConfig := some nestedLibraries

theorem valid_nestedModule : nestedModule.Valid where
  targeting := Targeting.wellFormed_default
  entries := show ∀ e ∈ nestedModule.entries, e.path ≠ "" ∧ Path.normalize e.path = e.path by decide
  distinctPaths := by decide

end ModuleSplit

end DeviceSplit
