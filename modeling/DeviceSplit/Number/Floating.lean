import DeviceSplit.Number.Fraction

set_option autoImplicit false

/-! # Floating-point numbers

Numbers of double precision: a sign and a magnitude `mantissa * 2 ^ exponent`, whose mantissa has
at most 53 bits and whose exponent lies between -1074 and 971. A decimal stands for the magnitude
that is nearest to it, and of two equally near ones for that with the even mantissa. -/

namespace DeviceSplit

/-- The size of a finite number, `mantissa * 2 ^ exponent`. -/
structure Magnitude where
  mantissa : Nat
  exponent : Int
deriving DecidableEq

namespace Magnitude

def zero : Magnitude := ⟨0, -1074⟩

def toFraction (m : Magnitude) : Fraction := (Fraction.ofNat m.mantissa).scale 2 m.exponent

/-- The exponent of the last place of a positive fraction: counted in steps of `2 ^ exponent`, the
fraction has 53 bits, or fewer where the exponent can get no smaller. -/
def lastPlace (f : Fraction) : Int :=
  let e : Int := f.num.log2 - f.den.log2 - 53
  let steps := f.scale 2 (-e)
  max (if Nat.pow 2 53 * steps.den ≤ steps.num then e + 1 else e) (-1074)

/-- The magnitude nearest to a fraction, unless the fraction is too large. -/
def nearest? (f : Fraction) : Option Magnitude :=
  if f.num = 0 then some zero
  else
    let e := lastPlace f
    let steps := (f.scale 2 (-e)).round
    let m : Magnitude := if steps = Nat.pow 2 53 then ⟨Nat.pow 2 52, e + 1⟩ else ⟨steps, e⟩
    if m.exponent ≤ 971 then some m else none

/-- The magnitude that `digits * 10 ^ exponent` stands for. -/
def ofDecimal? (digits : Nat) (exponent : Int) : Option Magnitude :=
  nearest? ((Fraction.ofNat digits).scale 10 exponent)

end Magnitude

/-- A floating-point number of double precision. -/
inductive Floating where
  /-- A number of a certain size. Zero has a sign too. -/
  | finite (negative : Bool) (size : Magnitude)
  /-- A number too large for a finite one. -/
  | infinite (negative : Bool)
  /-- The result of a computation that has none. -/
  | undefined
deriving DecidableEq

namespace Floating

/-- The number that `digits * 10 ^ exponent` stands for, or its opposite. -/
def ofScientific (negative : Bool) (digits : Nat) (exponent : Int) : Floating :=
  match Magnitude.ofDecimal? digits exponent with
  | some size => finite negative size
  | none => infinite negative

/-- The whole number that a floating-point number equals, if it equals one. -/
def whole? : Floating → Option Int
  | finite negative size =>
    size.toFraction.whole?.map fun n => if negative then -(n : Int) else n
  | infinite _ | undefined => none

/-- Whether a number is at least zero and less than a whole number. -/
def isBelow (n : Nat) : Floating → Bool
  | finite negative size =>
    (!negative || size.mantissa == 0) && size.toFraction.num < n * size.toFraction.den
  | infinite _ | undefined => false

end Floating

end DeviceSplit
