import DeviceSplit.Dimension

set_option autoImplicit false

/-! # Targeting along one dimension

The values of a dimension that a piece of content is for, and the alternatives: the values that
its sibling pieces are for. No value is its own alternative. `check` refuses two sets that have
members in common and says which, as far as they can be shown; `favouring` keeps all the values
and takes them out of the alternatives, and so always gives disjoint sets. -/

namespace DeviceSplit

structure DimensionTargeting (d : Dimension) where
  values : SortedSet d.Value
  alternatives : SortedSet d.Value
deriving DecidableEq

namespace DimensionTargeting

variable {d : Dimension}

/-- Whether there are neither values nor alternatives. -/
def isDefault (t : DimensionTargeting d) : Bool := t.values.isEmpty && t.alternatives.isEmpty

/-- The values that are alternatives as well. -/
def overlap (t : DimensionTargeting d) : SortedSet d.Value := t.values ∩ t.alternatives

/-- No value is an alternative. -/
def Disjoint (t : DimensionTargeting d) : Prop := ∀ v ∈ t.values, v ∉ t.alternatives

/-- Values and alternatives keep the bounds of the dimension. -/
def Admissible (t : DimensionTargeting d) : Prop :=
  (∀ v ∈ t.values, d.Admissible v) ∧ ∀ v ∈ t.alternatives, d.Admissible v

instance (t : DimensionTargeting d) : Decidable t.Admissible :=
  inferInstanceAs (Decidable ((∀ v ∈ t.values, d.Admissible v) ∧ _))

/-- The values, with the alternatives that are none of them. -/
def favouring (values alternatives : SortedSet d.Value) : DimensionTargeting d :=
  ⟨values, alternatives \ values⟩

/-- The texts of common members, in the order of texts, if all of them have a text. -/
def overlapTexts (t : DimensionTargeting d) : Option (List String) :=
  (t.overlap.toList.mapM Shown.text).map fun texts => texts.mergeSort fun a b => a ≤ b

/-- The rule that common members break: naming them may fail itself. -/
def overlapRule (t : DimensionTargeting d) : Rule :=
  match t.overlapTexts with
  | some texts => .overlap texts
  | none => .tooLongToShow

/-- The given sets, unless they have members in common. -/
def check (values alternatives : SortedSet d.Value) : Checked (DimensionTargeting d) :=
  let t : DimensionTargeting d := ⟨values, alternatives⟩
  if t.overlap.isEmpty then .ok t else .reject (.broken t.overlapRule)

/-- A targeting record has no entry for a dimension without values and alternatives. -/
def nonDefault (t : DimensionTargeting d) : Option (DimensionTargeting d) :=
  if t.isDefault then none else some t

/-- The primary values of a dimension, none where it is not set. -/
def valuesOf : Option (DimensionTargeting d) → SortedSet d.Value
  | some t => t.values
  | none => ∅

/-- The alternatives of a dimension, none where it is not set. -/
def alternativesOf : Option (DimensionTargeting d) → SortedSet d.Value
  | some t => t.alternatives
  | none => ∅

instance : PlainForm (DimensionTargeting d) where
  read := readRecord fun fields =>
    Checked.andThen
      (Prod.mk <$> fields.withDefault "value" ∅ (readSet read) <*>
        fields.withDefault "alternatives" ∅ (readSet read))
      fun sets => check sets.1 sets.2
  write t :=
    .record [("value", .list (t.values.toList.map write)),
      ("alternatives", .list (t.alternatives.toList.map write))]

/-! ## Laws -/

theorem ext {t u : DimensionTargeting d} (hv : t.values = u.values)
    (ha : t.alternatives = u.alternatives) : t = u := by
  cases t; cases u; cases hv; cases ha; rfl

theorem isDefault_iff {t : DimensionTargeting d} :
    t.isDefault = true ↔ t.values = ∅ ∧ t.alternatives = ∅ := by
  simp [isDefault, SortedSet.isEmpty_iff]

theorem disjoint_iff_overlap {t : DimensionTargeting d} :
    t.Disjoint ↔ t.overlap.isEmpty = true := by
  rw [SortedSet.isEmpty_iff_forall]
  simp [Disjoint, overlap]

instance (t : DimensionTargeting d) : Decidable t.Disjoint :=
  decidable_of_iff _ disjoint_iff_overlap.symm

theorem disjoint_favouring (values alternatives : SortedSet d.Value) :
    (favouring values alternatives).Disjoint := by
  intro v hv
  simp [favouring] at hv ⊢
  exact fun _ => hv

/-- Two sets pass the check exactly when they are disjoint, and are then kept as they are. -/
theorem check_eq_ok_iff {values alternatives : SortedSet d.Value} {t : DimensionTargeting d} :
    check values alternatives = .ok t ↔ t = ⟨values, alternatives⟩ ∧ t.Disjoint := by
  rw [check]
  split
  · next h =>
    rw [Checked.ok.injEq]
    constructor
    · rintro rfl
      exact ⟨rfl, disjoint_iff_overlap.2 h⟩
    · exact fun ht => ht.1.symm
  · next h =>
    constructor
    · exact fun ht => nomatch ht
    · rintro ⟨rfl, ht⟩
      exact absurd (disjoint_iff_overlap.1 ht) h

/-- Alternatives without the values among them pass the check. -/
theorem check_diff (values alternatives : SortedSet d.Value) :
    check values (alternatives \ values) = .ok (favouring values alternatives) :=
  check_eq_ok_iff.2 ⟨rfl, disjoint_favouring values alternatives⟩

theorem valuesOf_nonDefault (t : DimensionTargeting d) : valuesOf t.nonDefault = t.values := by
  rw [nonDefault]
  split
  · next h => exact (isDefault_iff.1 h).1.symm
  · rfl

theorem alternativesOf_nonDefault (t : DimensionTargeting d) :
    alternativesOf t.nonDefault = t.alternatives := by
  rw [nonDefault]
  split
  · next h => exact (isDefault_iff.1 h).2.symm
  · rfl

end DimensionTargeting

end DeviceSplit
