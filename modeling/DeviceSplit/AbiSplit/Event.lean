import DeviceSplit.Device.Abi
import DeviceSplit.Severity

set_option autoImplicit false

/-! # Events of a pass

What a splitting pass reports while it runs. Each event has a severity, a fixed text and facts of
its own; in the log it also carries the scope of the pass: the module and the dimension that it is
split along. -/

namespace DeviceSplit

/-- The module and the dimension that events belong to. -/
structure Scope where
  moduleName : String
  dimension : String
deriving DecidableEq

/-- A scope as named facts. -/
def Scope.fields (s : Scope) : Fields :=
  [("module", .text s.moduleName), ("dimension", .text s.dimension)]

inductive SplitEvent where
  /-- A module without native libraries is its own only split. -/
  | passedThrough
  /-- Nothing is left to generate: all architectures are 64-bit ones and these are left out. -/
  | onlyDropped (abis : List Abi)
  /-- A split for one architecture was made. -/
  | generated (abi : Abi) (entries : Nat)
  /-- The libraries of these architectures were left out. -/
  | dropped (abis : List Abi)
  /-- The pass is complete. -/
  | finished (abiSplits leftOver : Nat)
deriving DecidableEq

namespace SplitEvent

def severity : SplitEvent → Severity
  | passedThrough | generated _ _ => .debug
  | finished _ _ => .info
  | dropped _ => .warning
  | onlyDropped _ => .error

def text : SplitEvent → String
  | passedThrough => "No native config, passing split through"
  | onlyDropped _ => "Only 64-bit native libraries present with 64-bit generation disabled"
  | generated _ _ => "Generated ABI split"
  | dropped _ => "Dropped 64-bit native libraries"
  | finished _ _ => "Split native libraries by ABI"

/-- The facts of an event. -/
def facts : SplitEvent → Fields
  | passedThrough => []
  | onlyDropped abis | dropped abis => [("abis", .list (abis.map writeWord))]
  | generated abi entries => [("abi", writeWord abi), ("entries", .int entries)]
  | finished abiSplits leftOver =>
    [("abi_splits", .int abiSplits), ("left_over_entries", .int leftOver)]

end SplitEvent

/-- An event in its scope, as it stands in a log. -/
structure LogRecord where
  scope : Scope
  event : SplitEvent
deriving DecidableEq

/-- All that a log says about an event. -/
def LogRecord.fields (r : LogRecord) : Fields :=
  r.event.facts ++ ("event", .text r.event.text) :: ("level", .text r.event.severity.label) ::
    r.scope.fields

end DeviceSplit
