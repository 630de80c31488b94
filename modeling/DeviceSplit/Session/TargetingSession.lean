import DeviceSplit.Reading
import DeviceSplit.Targeting.Edit
import DeviceSplit.Targeting.SdkRange
import DeviceSplit.Targeting.Variants

set_option autoImplicit false

/-! # Sessions on a targeting record

A session holds one targeting record. Commands edit the record or ask about it. A command whose
arguments cannot be read is refused and leaves the record as it was. -/

namespace DeviceSplit

/-- The dimension and the fields of a targeting of one dimension, not read yet. -/
structure PartData where
  dimension : Data
  fields : Data

def PartData.parse (p : PartData) : Except Refusal Targeting.Part :=
  Targeting.Part.parse p.dimension p.fields

/-- The dimension that variants are made along, which is that of platform levels by default. -/
def variantDimension : Option Data → Except Refusal Dimension
  | some d => Vocabulary.parse Dimension d
  | none => .ok .sdkVersion

inductive TargetingCommand where
  | withDimension (part : PartData)
  | merge (others : Data)
  | mergeUnder (others : Data)
  | get (dimension : Data)
  | dimensions
  | isDefault
  | bounds
  | equals (other : Data)
  | variants (dimension : Option Data)

namespace Targeting

/-- The bounds of the platform levels of a record. -/
def sdkBounds (t : Targeting) : Nat × Nat := (minSdk t.sdkVersion, maxSdk t.sdkVersion)

/-- Apply an edit and answer with the new record. -/
def edited (t : Targeting) (e : Edit) : Except Refusal (Targeting × Data) := do
  let u ← t.apply e
  return (u, write u)

/-- Carry out one command: the record afterwards and the answer. -/
def perform (t : Targeting) : TargetingCommand → Except Refusal (Targeting × Data)
  | .withDimension part => do
    let p ← part.parse
    t.edited (.replace p)
  | .merge others => do
    let ts ← Schema.targeting.parseAll others
    t.edited (.merge ts)
  | .mergeUnder others => do
    let ts ← Schema.targeting.parseAll others
    t.edited (.mergeUnder ts)
  | .get dimension => do
    let d ← Vocabulary.parse Dimension dimension
    return (t, writeNullable write (t.get d))
  | .dimensions => .ok (t, .list (t.dimensions.map writeWord))
  | .isDefault => .ok (t, .bool t.isDefault)
  | .bounds => .ok (t, .list [.int t.sdkBounds.1, .int t.sdkBounds.2])
  | .equals other => do
    let u ← Schema.targeting.parse other
    return (t, .bool (t = u))
  | .variants dimension => do
    let d ← variantDimension dimension
    let records ← makeVariants d [t]
    return (t, .list (records.map write))

/-- Carry out commands one after another. -/
def session (t : Targeting) : List TargetingCommand → List (Except Refusal Data)
  | [] => []
  | c :: r =>
    match t.perform c with
    | .ok (u, answer) => .ok answer :: u.session r
    | .error refusal => .error refusal :: t.session r

end Targeting

end DeviceSplit
