import DeviceSplit.Refusal
import DeviceSplit.Settings.Environment

set_option autoImplicit false

/-! # Variables

The environment is set up from values that are given to its variables. A variable holds text
without null characters, so not every value will do. -/

namespace DeviceSplit

/-- The values given to the variables, not looked into yet. -/
structure Variables where
  logLevel : Option Data := none
  include64Bit : Option Data := none

namespace Variables

/-- The text that a value gives to a variable, which stays unset without a value. -/
def text? : Option Data → Except Refusal (Option String)
  | none => .ok none
  | some (.text s) =>
    if s.toList.contains (Char.ofNat 0) then .error (.misused .nullCharacter) else .ok (some s)
  | some d => .error (.misused (.notText d.kind))

/-- The environment in which the variables have their values. -/
def environment (v : Variables) : Except Refusal Environment := do
  let logLevel ← text? v.logLevel
  let include64Bit ← text? v.include64Bit
  return ⟨logLevel, include64Bit⟩

/-- The settings in that environment. -/
def config (v : Variables) : Except Refusal Config := do
  let env ← v.environment
  env.config.orRefuse .config

end Variables

end DeviceSplit
