import DeviceSplit.Number.Floating

set_option autoImplicit false

/-! # The text of a floating-point number

Of the decimals that stand for a floating-point number, its text shows the one with the fewest
digits, and among several of these the nearest. The search looks for it on grids, the multiples
of a power of ten, from coarse to fine: if any point of a grid stands for a number, then one of
the two neighbours of the number does. -/

namespace DeviceSplit

/-- The number `digits * 10 ^ exponent`. -/
structure Decimal where
  digits : Nat
  exponent : Int

/-! ## Choosing the digits -/

namespace Magnitude

/-- The point of the grid of `10 ^ exponent` that stands for a magnitude, counted in steps: the
nearer neighbour of the magnitude or else the other one. -/
def onGrid? (m : Magnitude) (exponent : Int) : Option Nat :=
  let steps := m.toFraction.scale 10 (-exponent)
  let near := steps.round
  let far := if near * steps.den ≤ steps.num then near + 1 else near - 1
  [near, far].find? fun digits => ofDecimal? digits exponent = some m

/-- The exponent of a power of ten that no magnitude of this size reaches; 30103 to 100000 is the
ratio of the logarithms of two and ten, rounded up. -/
def decimalBound (m : Magnitude) : Int :=
  (m.mantissa.log2 + 1 + m.exponent) * 30103 / 100000 + 1

/-- The magnitude itself as a decimal. -/
def exactDecimal (m : Magnitude) : Decimal :=
  if 0 ≤ m.exponent then ⟨m.mantissa * Nat.pow 2 m.exponent.toNat, 0⟩
  else ⟨m.mantissa * Nat.pow 5 (-m.exponent).toNat, m.exponent⟩

/-- The shortest decimal that stands for a magnitude. Seventeen digits are always enough, so the
search does not come to its end. -/
def shortest (m : Magnitude) : Decimal :=
  if m.mantissa = 0 then ⟨0, 0⟩
  else
    let grids := (List.range 20).map fun (i : Nat) => m.decimalBound - i
    match grids.findSome? fun e => (m.onGrid? e).map fun digits => ⟨digits, e⟩ with
    | some d => d
    | none => m.exactDecimal

end Magnitude

/-! ## Writing the digits -/

namespace Decimal

/-- Digits with a point in front of the last `-exponent` of them, and zeros where digits lack. -/
def positional (d : Decimal) : List Char :=
  let ds := Nat.toDigits 10 d.digits
  if 0 ≤ d.exponent then ds ++ List.replicate d.exponent.toNat '0' ++ ['.', '0']
  else
    let places := (-d.exponent).toNat
    let padded := ds.leftpad (places + 1) '0'
    padded.take (padded.length - places) ++ '.' :: padded.drop (padded.length - places)

/-- One digit before the point and the others after it, then the power of ten with its sign and at
least two digits. -/
def scientific (d : Decimal) : List Char :=
  let ds := Nat.toDigits 10 d.digits
  let power : Int := d.exponent + ds.length - 1
  let fraction := if ds.length = 1 then [] else '.' :: ds.drop 1
  ds.take 1 ++ fraction ++ ['e', if power < 0 then '-' else '+'] ++
    (Nat.toDigits 10 power.natAbs).leftpad 2 '0'

/-- A decimal from `10 ^ -4` up to, but not including, `10 ^ 16` is written with its point in
place, any other with a power of ten. -/
def text (d : Decimal) : List Char :=
  let power : Int := d.exponent + (Nat.toDigits 10 d.digits).length - 1
  if -4 ≤ power ∧ power < 16 then d.positional else d.scientific

end Decimal

namespace Floating

/-- The minus sign of a negative number. -/
def signText (negative : Bool) : String := if negative then "-" else ""

/-- The text of a floating-point number. -/
def text : Floating → String
  | finite negative size => signText negative ++ String.ofList size.shortest.text
  | infinite negative => signText negative ++ "inf"
  | undefined => "nan"

end Floating

end DeviceSplit
