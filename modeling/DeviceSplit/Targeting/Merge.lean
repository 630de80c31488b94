import DeviceSplit.Refusal
import DeviceSplit.Targeting.Basic

set_option autoImplicit false

/-! # Merging records

Merging takes the union of the values and the union of the alternatives along each dimension. A
value of one record that is an alternative of another stays a value. `makeMerged` goes through the
dimensions one by one and checks what it makes of each; `merge` is the record that comes out. -/

namespace DeviceSplit.Targeting

/-! ## One dimension after another -/

/-- What several records say along a dimension, without those that do not set it. -/
def partsAlong (d : Dimension) (ts : List Targeting) : List (DimensionTargeting d) :=
  ts.filterMap (·.get d)

/-- Merge what records say along a dimension into a record, if they say anything. The targeting
that is made is checked like any other. -/
def mergeAlong (ts : List Targeting) (merged : Targeting) (d : Dimension) :
    Except Refusal Targeting :=
  let parts := partsAlong d ts
  if parts.isEmpty then .ok merged else do
    let values := SortedSet.unions (parts.map (·.values))
    let alternatives := SortedSet.unions (parts.map (·.alternatives))
    let x ← (DimensionTargeting.check values (alternatives \ values)).orRefuse
      (.dimensionTargeting d)
    return merged.withDimension x

/-- Merge records along all dimensions, starting from a record that sets none. -/
def makeMerged (ts : List Targeting) : Except Refusal Targeting :=
  Dimension.all.foldlM (mergeAlong ts) {}

/-! ## All dimensions at once -/

/-- The values of several records along a dimension. -/
def valuesAlong (d : Dimension) (ts : List Targeting) : SortedSet d.Value :=
  SortedSet.unions (ts.map fun t => DimensionTargeting.valuesOf (t.get d))

/-- The alternatives of several records along a dimension. -/
def alternativesAlong (d : Dimension) (ts : List Targeting) : SortedSet d.Value :=
  SortedSet.unions (ts.map fun t => DimensionTargeting.alternativesOf (t.get d))

/-- One record for everything that the given records are for. -/
def merge (ts : List Targeting) : Targeting :=
  ofFn fun d =>
    (DimensionTargeting.favouring (valuesAlong d ts) (alternativesAlong d ts)).nonDefault

theorem mem_valuesAlong {d : Dimension} {ts : List Targeting} {v : d.Value} :
    v ∈ valuesAlong d ts ↔ ∃ t ∈ ts, v ∈ DimensionTargeting.valuesOf (t.get d) :=
  SortedSet.mem_unions_map

theorem mem_alternativesAlong {d : Dimension} {ts : List Targeting} {v : d.Value} :
    v ∈ alternativesAlong d ts ↔ ∃ t ∈ ts, v ∈ DimensionTargeting.alternativesOf (t.get d) :=
  SortedSet.mem_unions_map

theorem valuesOf_get_merge (ts : List Targeting) (d : Dimension) :
    DimensionTargeting.valuesOf ((merge ts).get d) = valuesAlong d ts := by
  simp [merge, DimensionTargeting.valuesOf_nonDefault, DimensionTargeting.favouring]

theorem alternativesOf_get_merge (ts : List Targeting) (d : Dimension) :
    DimensionTargeting.alternativesOf ((merge ts).get d) =
      alternativesAlong d ts \ valuesAlong d ts := by
  simp [merge, DimensionTargeting.alternativesOf_nonDefault, DimensionTargeting.favouring]

end DeviceSplit.Targeting
