import DeviceSplit.Targeting.Merge

set_option autoImplicit false

/-! # Variants of a set of records

Content that exists once per value of a dimension needs records that exclude each other: each
value found in the given records gets a record of its own, whose alternatives are all the other
values. What the given records say about alternatives, or along other dimensions, does not
count. `makeVariants` checks every targeting that it makes and keeps the different records;
`variants` are the records that come out. -/

namespace DeviceSplit.Targeting

/-- Make the record for one value among others. -/
def makeVariant {d : Dimension} (among : SortedSet d.Value) (v : d.Value) :
    Except Refusal Targeting := do
  let x : DimensionTargeting d ←
    (DimensionTargeting.check (.single v) (among \ .single v)).orRefuse (.dimensionTargeting d)
  return ({} : Targeting).withDimension x

/-- Make a record for each value of a dimension found in the given records. -/
def makeVariants (d : Dimension) (ts : List Targeting) : Except Refusal (List Targeting) := do
  let among := valuesAlong d ts
  let records ← among.toList.mapM (makeVariant among)
  return records.eraseDups

/-- The record for one value among others. -/
def variant {d : Dimension} (among : SortedSet d.Value) (v : d.Value) : Targeting :=
  ({} : Targeting).withDimension (DimensionTargeting.favouring (.single v) among)

/-- One record for each value of a dimension found in the given records, in the order of the
values. -/
def variants (d : Dimension) (ts : List Targeting) : List Targeting :=
  (valuesAlong d ts).toList.map (variant (valuesAlong d ts))

theorem mem_variants {d : Dimension} {ts : List Targeting} {r : Targeting} :
    r ∈ variants d ts ↔ ∃ v ∈ valuesAlong d ts, variant (valuesAlong d ts) v = r := by
  simp [variants, SortedSet.mem_def]

end DeviceSplit.Targeting
