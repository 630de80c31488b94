import DeviceSplit.Targeting.Merge

set_option autoImplicit false

/-! # Edits of a record

A record changes step by step: a dimension is replaced, or other records are merged with it, from
either side. -/

namespace DeviceSplit.Targeting

inductive Edit where
  | replace (part : Part)
  /-- Merge the record with others that come after it. -/
  | merge (others : List Targeting)
  /-- Merge the record with others that come before it. -/
  | mergeUnder (others : List Targeting)

/-- The record after one edit. -/
def apply (t : Targeting) : Edit → Except Refusal Targeting
  | .replace part => .ok (t.withDimension part.2)
  | .merge others => makeMerged (t :: others)
  | .mergeUnder others => makeMerged (others ++ [t])

/-- The record after several edits. -/
def applyAll (t : Targeting) (edits : List Edit) : Except Refusal Targeting := edits.foldlM apply t

end DeviceSplit.Targeting
