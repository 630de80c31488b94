import DeviceSplit.Module.ModuleSplit

set_option autoImplicit false

/-! # Claiming entries

The architectures of a module claim its entries one after another, in order of first appearance:
each takes what lies under one of its directories and is not claimed yet. What nobody claims is left
over. -/

namespace DeviceSplit

/-- The entries under some directories: by the first directory that they lie under, and in their
own order within a directory, each once. -/
def entriesUnderAny (directories : List String) (es : List ModuleEntry) : List ModuleEntry :=
  (directories.flatMap fun p => es.filter (·.isUnder p)).eraseDups

/-- What the architectures have claimed so far. -/
structure Claims where
  /-- What each of them got, in the order of their turns. -/
  owned : List (Abi × List ModuleEntry) := []
  /-- All entries that are claimed. -/
  claimed : List ModuleEntry := []

namespace Claims

/-- One turn: an architecture with the given directories takes those of a module's entries that
lie under them and are not claimed yet. -/
def turn (c : Claims) (a : Abi) (directories : List String) (es : List ModuleEntry) : Claims :=
  let taken := entriesUnderAny directories (es.filter (· ∉ c.claimed))
  ⟨c.owned ++ [(a, taken)], c.claimed ++ taken⟩

/-- The entries that nobody has claimed. -/
def leftOver (c : Claims) (es : List ModuleEntry) : List ModuleEntry := es.filter (· ∉ c.claimed)

end Claims

namespace NativeLibraries

/-- Let the architectures claim entries, each in its turn. -/
def claims (n : NativeLibraries) (es : List ModuleEntry) : Claims :=
  n.abis.foldl (fun c a => c.turn a (n.pathsOf a) es) {}

end NativeLibraries

end DeviceSplit
