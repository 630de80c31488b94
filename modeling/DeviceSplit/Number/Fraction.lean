set_option autoImplicit false

/-! # Fractions

Fractions of natural numbers that are not reduced: enough to move a number between powers of two
and powers of ten without loss, and to round it once. -/

namespace DeviceSplit

/-- The number `num / den`. -/
structure Fraction where
  num : Nat
  den : Nat

namespace Fraction

def ofNat (n : Nat) : Fraction := ⟨n, 1⟩

/-- The fraction times `base ^ exponent`. -/
def scale (f : Fraction) (base : Nat) (exponent : Int) : Fraction :=
  ⟨f.num * base.pow exponent.toNat, f.den * base.pow (-exponent).toNat⟩

/-- The whole number that a fraction equals, if it equals one. -/
def whole? (f : Fraction) : Option Nat :=
  if f.num % f.den = 0 then some (f.num / f.den) else none

/-- The nearest whole number; halfway between two, the even one. -/
def round (f : Fraction) : Nat :=
  let rest := f.num % f.den
  if f.den < 2 * rest ∨ (2 * rest = f.den ∧ f.num / f.den % 2 = 1) then f.num / f.den + 1
  else f.num / f.den

end Fraction

end DeviceSplit
