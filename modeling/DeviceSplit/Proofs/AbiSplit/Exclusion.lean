import DeviceSplit.Proofs.AbiSplit.Division

set_option autoImplicit false

/-! # Leaving out 64-bit libraries

The same module is divided under two policies. Whether an architecture gets a split has no
influence on who owns an entry, so leaving out the 64-bit architectures takes their splits away and
leaves the rest as it is, up to the alternatives (`excluding_64Bit`). -/

namespace DeviceSplit

/-- The policy that leaves out nothing. -/
def SplitPolicy.everything : SplitPolicy := ⟨true⟩

/-- The policy that leaves out 64-bit architectures. -/
def SplitPolicy.only32Bit : SplitPolicy := ⟨false⟩

namespace NativeLibraries

open SplitPolicy

variable {n : NativeLibraries}

theorem generated_everything (n : NativeLibraries) : n.generated everything = n.abis :=
  List.filter_eq_self.2 fun _ _ => rfl

theorem mem_generated_only32Bit {a : Abi} :
    a ∈ n.generated only32Bit ↔ a ∈ n.abis ∧ a.is64Bit = false := by
  rw [mem_generated]
  simp [generates, only32Bit]

theorem divisible_everything (n : NativeLibraries) : n.Divisible everything := .inl rfl

/-- A single directory for a 32-bit architecture is enough to divide a module without 64-bit
libraries. -/
theorem divisible_only32Bit (h : ∃ d ∈ n.directories, d.abi.is64Bit = false) :
    n.Divisible only32Bit := by
  obtain ⟨d, hd, h32⟩ := h
  exact .inr (List.ne_nil_of_mem (mem_generated_only32Bit.2 ⟨mem_abis.2 ⟨d, hd, rfl⟩, h32⟩))

end NativeLibraries

namespace Targeting

/-- A record without 64-bit architectures among its alternatives. -/
def without64BitAlternatives (t : Targeting) : Targeting :=
  { t with abi := t.abi.map fun x => ⟨x.values, x.alternatives.filter fun a => !Abi.is64Bit a⟩ }

theorem get_abi_without64BitAlternatives (t : Targeting) :
    t.without64BitAlternatives.get .abi =
      (t.get .abi).map fun x => ⟨x.values, x.alternatives.filter fun a => !Abi.is64Bit a⟩ :=
  rfl

theorem get_without64BitAlternatives_of_ne (t : Targeting) {d : Dimension} (hd : d ≠ .abi) :
    t.without64BitAlternatives.get d = t.get d := by
  cases d with
  | abi => exact absurd rfl hd
  | _ => rfl

end Targeting

namespace ModuleSplit

open SplitPolicy

variable {m : ModuleSplit} {n : NativeLibraries}

/-- Whether a split is for a 64-bit architecture. -/
def isFor64Bit (s : ModuleSplit) : Bool := s.abis.toList.any Abi.is64Bit

/-- A split without siblings for 64-bit architectures. -/
def without64BitSiblings (s : ModuleSplit) : ModuleSplit :=
  { s with apkTargeting := s.apkTargeting.without64BitAlternatives }

theorem isFor64Bit_abiSplit (m : ModuleSplit) (generated : SortedSet Abi) (a : Abi)
    (es : List ModuleEntry) : (m.abiSplit generated a es).isFor64Bit = a.is64Bit := by
  rw [isFor64Bit, abis_abiSplit]
  exact Bool.or_false _

/-- Taking 64-bit architectures out of the alternatives of a split gives the split that has no
such alternatives from the beginning. -/
theorem without64BitSiblings_abiSplit {generated kept : SortedSet Abi}
    (hkept : ∀ b, b ∈ kept ↔ b ∈ generated ∧ b.is64Bit = false) (a : Abi)
    (es : List ModuleEntry) :
    (m.abiSplit generated a es).without64BitSiblings = m.abiSplit kept a es := by
  have hsets : (generated \ SortedSet.single a).filter (fun b => !b.is64Bit) =
      kept \ SortedSet.single a := by
    refine SortedSet.ext fun b => ?_
    rw [SortedSet.mem_diff, SortedSet.mem_filter, SortedSet.mem_diff, hkept]
    simp [and_right_comm]
  have htargeting : (m.abiSplit generated a es).apkTargeting.without64BitAlternatives =
      (m.abiSplit kept a es).apkTargeting := by
    refine Targeting.ext_get fun d => ?_
    by_cases hd : d = .abi
    · subst hd
      rw [Targeting.get_abi_without64BitAlternatives, get_abi_abiSplit, get_abi_abiSplit]
      exact congrArg some (DimensionTargeting.ext rfl hsets)
    · rw [Targeting.get_without64BitAlternatives_of_ne _ hd, get_abiSplit_of_ne m _ a es hd,
        get_abiSplit_of_ne m _ a es hd]
  rw [without64BitSiblings, htargeting]
  rfl

/-- The splits for architectures under one policy, from those under the other. -/
theorem abiSplits_only32Bit (m : ModuleSplit) (n : NativeLibraries) :
    m.abiSplits n only32Bit =
      ((m.abiSplits n everything).filter fun s => !s.isFor64Bit).map without64BitSiblings := by
  have hkept : ∀ b, b ∈ SortedSet.ofList (n.generated only32Bit) ↔
      b ∈ SortedSet.ofList (n.generated everything) ∧ b.is64Bit = false := by
    intro b
    rw [SortedSet.mem_ofList, SortedSet.mem_ofList, NativeLibraries.mem_generated_only32Bit,
      NativeLibraries.generated_everything]
  have hfilter : n.generated only32Bit = (n.generated everything).filter fun a => !a.is64Bit := by
    rw [NativeLibraries.generated_everything]
    rfl
  rw [abiSplits, abiSplits, List.filter_map, List.map_map]
  simp only [Function.comp_def, isFor64Bit_abiSplit, without64BitSiblings_abiSplit hkept]
  rw [← hfilter]

/-- Under the policy that leaves out 64-bit architectures, a module with a directory for a 32-bit
one is divided as under the other policy, except that the splits for 64-bit architectures are gone
and no longer count as alternatives: the other splits come in the same order, with the same entries
in the same order, and the left-over is the same. Without 64-bit directories the policies agree. -/
theorem excluding_64Bit (hm : m.Valid) (hn : m.nativeConfig = some n)
    (h32 : ∃ d ∈ n.directories, d.abi.is64Bit = false) :
    ∃ abiSplits leftOver splits splits',
      (m.splitByAbi everything).outcome = .ok splits ∧
      IsDivision n everything abiSplits leftOver splits ∧
      (m.splitByAbi only32Bit).outcome = .ok splits' ∧
      IsDivision n only32Bit
        ((abiSplits.filter fun s => !s.isFor64Bit).map without64BitSiblings) leftOver splits' ∧
      ((∀ d ∈ n.directories, d.abi.is64Bit = false) → splits' = splits) := by
  refine ⟨m.abiSplits n everything, m.leftOverSplit n, _, _,
    (outcome_eq_ok_iff hm hn).2 ⟨n.divisible_everything, rfl⟩, m.isDivision n everything,
    (outcome_eq_ok_iff hm hn).2 ⟨NativeLibraries.divisible_only32Bit h32, rfl⟩, ?_, ?_⟩
  · rw [← abiSplits_only32Bit]
    exact m.isDivision n only32Bit
  · intro hall
    have hgenerated : n.generated only32Bit = n.generated everything := by
      refine List.filter_congr fun a ha => ?_
      obtain ⟨d, hd, rfl⟩ := NativeLibraries.mem_abis.1 ha
      simp [generates, only32Bit, everything, hall d hd]
    rw [abiSplits, abiSplits, hgenerated]

/-- A directory for a 32-bit architecture lies below one for a 64-bit architecture here. -/
theorem excluding_64Bit_nestedModule :
    nestedModule.Valid ∧ nestedModule.nativeConfig = some nestedLibraries ∧
      (∃ d ∈ nestedLibraries.directories, d.abi.is64Bit = false) ∧
      ∃ abiSplits leftOver splits splits',
        (nestedModule.splitByAbi everything).outcome = .ok splits ∧
        IsDivision nestedLibraries everything abiSplits leftOver splits ∧
        (nestedModule.splitByAbi only32Bit).outcome = .ok splits' ∧
        IsDivision nestedLibraries only32Bit
          ((abiSplits.filter fun s => !s.isFor64Bit).map without64BitSiblings) leftOver splits' := by
  have h32 : ∃ d ∈ nestedLibraries.directories, d.abi.is64Bit = false := by decide
  obtain ⟨abiSplits, leftOver, splits, splits', hon, hdivision, hoff, hdivision', -⟩ :=
    excluding_64Bit valid_nestedModule rfl h32
  exact ⟨valid_nestedModule, rfl, h32, abiSplits, leftOver, splits, splits', hon, hdivision, hoff, hdivision'⟩

end ModuleSplit

end DeviceSplit
