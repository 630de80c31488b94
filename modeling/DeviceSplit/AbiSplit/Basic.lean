import DeviceSplit.AbiSplit.Claim
import DeviceSplit.AbiSplit.Pass
import DeviceSplit.Settings.Config

set_option autoImplicit false

/-! # Splitting a module by architecture

A module with native libraries is divided into one split for each architecture that the policy
generates and one split with the entries that no architecture claims. The split of an architecture
has the other generated architectures as its alternatives, so that a device installs exactly one
of them. Libraries of an architecture that is not generated are left out, but they are claimed all
the same: they never turn up in another split.

A policy can rule out every architecture of a module, and then nothing is divided. Every targeting
and every split that a pass makes is checked like any other. -/

namespace DeviceSplit

/-- Whether an architecture gets a split. -/
def SplitPolicy.generates (p : SplitPolicy) (a : Abi) : Bool := p.include64Bit || !a.is64Bit

namespace NativeLibraries

/-- The architectures that get a split, in order of first appearance. -/
def generated (n : NativeLibraries) (policy : SplitPolicy) : List Abi :=
  n.abis.filter policy.generates

/-- The architectures that are left out, in order of first appearance. -/
def dropped (n : NativeLibraries) (policy : SplitPolicy) : List Abi :=
  n.abis.filter fun a => !policy.generates a

/-- Report the architectures that are left out, if there are any. -/
def reportDropped (n : NativeLibraries) (policy : SplitPolicy) : Pass Unit :=
  if (n.dropped policy).isEmpty then pure () else Pass.report (.dropped (n.dropped policy))

end NativeLibraries

namespace ModuleSplit

/-- What is delivered of a module to the devices of one architecture. -/
def forAbi (m : ModuleSplit) (targeting : DimensionTargeting .abi) (es : List ModuleEntry) :
    ModuleSplit :=
  { m with
    apkTargeting := m.apkTargeting.withDimension targeting
    masterSplit := false
    entries := es
    masterManifestMutators := m.masterManifestMutators ++ [.splitsRequired] }

/-- Make the split of one architecture, given all architectures that are generated. -/
def makeAbiSplit (m : ModuleSplit) (generated : SortedSet Abi) (a : Abi) (es : List ModuleEntry) :
    Pass ModuleSplit := do
  let targeting : DimensionTargeting .abi ← Pass.demand (.dimensionTargeting .abi) <|
    DimensionTargeting.check (.single a) (generated \ .single a)
  let split ← Pass.demand .moduleSplit (m.forAbi targeting es).checked
  Pass.report (.generated a es.length)
  return split

/-- Make the split with the entries that are left over, if there are any. -/
def makeLeftOver (m : ModuleSplit) (es : List ModuleEntry) : Pass (List ModuleSplit) :=
  if es.isEmpty then pure [] else do
    let split ← Pass.demand .moduleSplit { m with entries := es }.checked
    return [split]

/-- The failure of a pass that has no architecture to generate. -/
def nothingToGenerate (m : ModuleSplit) : Failure :=
  .report
    { message := .text <| "Generation of 64-bit native libraries is disabled, but App Bundle " ++
        "contains only 64-bit native libraries."
      context := [(.text "module", .text m.moduleName)]
      setting := some ⟨writeWord Dimension.abi, .text "include_64_bit_libs"⟩ }

/-- The pass over a module with native libraries of which some architecture is generated. -/
def divide (m : ModuleSplit) (n : NativeLibraries) (policy : SplitPolicy) :
    Pass (List ModuleSplit) := do
  let claims := n.claims m.entries
  let leftOver := claims.leftOver m.entries
  let generated := SortedSet.ofList (n.generated policy)
  let abiSplits ← (claims.owned.filter fun c => policy.generates c.1).mapM fun c =>
    m.makeAbiSplit generated c.1 c.2
  n.reportDropped policy
  let rest ← m.makeLeftOver leftOver
  Pass.report (.finished abiSplits.length leftOver.length)
  return abiSplits ++ rest

/-- Divide a module by architecture. -/
def splitByAbi (m : ModuleSplit) (policy : SplitPolicy) : Pass (List ModuleSplit) := do
  match m.nativeConfig with
  | none =>
    Pass.report .passedThrough
    return [m]
  | some n =>
    if (n.generated policy).isEmpty && !policy.include64Bit then
      Pass.report (.onlyDropped (SortedSet.ofList n.abis).toList)
      Pass.refuse (.failed m.nothingToGenerate)
    else m.divide n policy

/-- The scope of a pass over a module. -/
def abiScope (m : ModuleSplit) : Scope := ⟨m.moduleName, Vocabulary.word Dimension.abi⟩

/-- The log of a pass at a given level. -/
def splitLog (m : ModuleSplit) (policy : SplitPolicy) (level : Severity) : List LogRecord :=
  ((m.splitByAbi policy).run level).2.map fun e => ⟨m.abiScope, e⟩

end ModuleSplit

end DeviceSplit
