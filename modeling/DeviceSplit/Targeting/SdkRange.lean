import DeviceSplit.Targeting.Basic

set_option autoImplicit false

/-! # Platform level ranges

A targeting of platform levels stands for the levels from its least value up to, and without, the
next alternative above it. -/

namespace DeviceSplit

/-- The level from which a targeting without values applies. -/
def lowestSdk : Nat := 1

/-- The bound of a targeting that no alternative bounds: the largest 32-bit level. -/
def highestSdk : Nat := Nat.pow 2 31 - 1

/-- The lowest level that a targeting applies to. -/
def minSdk (t : Option (DimensionTargeting .sdkVersion)) : Nat :=
  ((DimensionTargeting.valuesOf t).toList.map SdkVersion.min).min?.getD lowestSdk

/-- The lowest level above `minSdk` that a targeting no longer applies to. -/
def maxSdk (t : Option (DimensionTargeting .sdkVersion)) : Nat :=
  let levels := (DimensionTargeting.alternativesOf t).toList.map SdkVersion.min
  (levels.filter (minSdk t < ·)).min?.getD highestSdk

end DeviceSplit
