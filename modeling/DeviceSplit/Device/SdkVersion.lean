import DeviceSplit.PlainForm

set_option autoImplicit false

/-! # Platform levels

The lowest level of the platform interface that a device must offer. Levels count from 1. -/

namespace DeviceSplit

structure SdkVersion where
  min : Nat
deriving DecidableEq

namespace SdkVersion

/-- Levels count from 1. -/
def Admissible (v : SdkVersion) : Prop := 1 ≤ v.min

instance (v : SdkVersion) : Decidable v.Admissible := inferInstanceAs (Decidable (1 ≤ v.min))

instance : Ranked SdkVersion where
  rank v := [v.min]
  rank_inj {a b} := by obtain ⟨m⟩ := a; obtain ⟨n⟩ := b; simp

instance : PlainForm SdkVersion where
  read := readRecord fun fields => SdkVersion.mk <$> fields.required "min" (readAtLeast 1)
  write v := .record [("min", .int v.min)]

instance : Shown SdkVersion :=
  Shown.ofFields "SdkVersion" fun v => [("min", Text.writeNatural? v.min)]

end SdkVersion

end DeviceSplit
