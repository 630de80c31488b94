import DeviceSplit.DimensionTargeting

set_option autoImplicit false

/-! # Targeting records

A targeting record says which devices a piece of content is for: along each dimension it has
values and alternatives, or nothing. A dimension with neither values nor alternatives counts as
not set and is stored as such, so records that mean the same are equal however they were built
(`Targeting.ext_of_wellFormed`). A record that sets no dimension is for every device.

The operations treat all dimensions alike. They are written with `get`, which looks a dimension
up, and `ofFn`, which builds a record from what it holds along each dimension. -/

namespace DeviceSplit

structure Targeting where
  abi : Option (DimensionTargeting .abi) := none
  language : Option (DimensionTargeting .language) := none
  textureFormat : Option (DimensionTargeting .textureFormat) := none
  graphicsApi : Option (DimensionTargeting .graphicsApi) := none
  sdkVersion : Option (DimensionTargeting .sdkVersion) := none
  screenDensity : Option (DimensionTargeting .screenDensity) := none
deriving DecidableEq

namespace Targeting

/-- What the record holds along a dimension. -/
def get (t : Targeting) : (d : Dimension) → Option (DimensionTargeting d)
  | .abi => t.abi
  | .language => t.language
  | .textureFormat => t.textureFormat
  | .graphicsApi => t.graphicsApi
  | .sdkVersion => t.sdkVersion
  | .screenDensity => t.screenDensity

/-- The record that holds `f d` along each dimension `d`. -/
def ofFn (f : (d : Dimension) → Option (DimensionTargeting d)) : Targeting :=
  ⟨f .abi, f .language, f .textureFormat, f .graphicsApi, f .sdkVersion, f .screenDensity⟩

@[simp] theorem get_ofFn (f : (d : Dimension) → Option (DimensionTargeting d)) (d : Dimension) :
    (ofFn f).get d = f d := by
  cases d <;> rfl

/-- A record is what it holds along the dimensions. -/
theorem ext_get {t u : Targeting} (h : ∀ d, t.get d = u.get d) : t = u := by
  cases t; cases u
  congr
  · exact h .abi
  · exact h .language
  · exact h .textureFormat
  · exact h .graphicsApi
  · exact h .sdkVersion
  · exact h .screenDensity

@[simp] theorem get_default (d : Dimension) : ({} : Targeting).get d = none := by
  cases d <;> rfl

/-- Whether no dimension is set. -/
def isDefault (t : Targeting) : Bool := Dimension.all.all fun d => (t.get d).isNone

/-- Replace what the record holds along one dimension. -/
def withDimension {d : Dimension} (t : Targeting) (x : DimensionTargeting d) : Targeting :=
  ofFn fun e => if h : d = e then h ▸ x.nonDefault else t.get e

theorem get_withDimension_self {d : Dimension} (t : Targeting) (x : DimensionTargeting d) :
    (t.withDimension x).get d = x.nonDefault := by
  simp [withDimension]

theorem get_withDimension_of_ne {d e : Dimension} (t : Targeting) (x : DimensionTargeting d)
    (h : d ≠ e) : (t.withDimension x).get e = t.get e := by
  simp [withDimension, h]

/-- The dimensions that have values or alternatives, in the order of dimensions. -/
def dimensions (t : Targeting) : List Dimension :=
  Dimension.all.filter fun d =>
    match t.get d with
    | some x => !x.isDefault
    | none => false

/-- A targeting of some dimension, together with the dimension. -/
abbrev Part := (d : Dimension) × DimensionTargeting d

/-- Put together targetings of single dimensions; a later one replaces an earlier one of the same
dimension. -/
def ofParts (parts : List Part) : Targeting :=
  parts.foldl (fun t p => t.withDimension p.2) {}

/-! ## Well-formed records -/

/-- Along a dimension, a record holds something only if it says something, keeps values and
alternatives apart, and keeps the bounds of the dimension. -/
def WellFormedAt (t : Targeting) (d : Dimension) : Prop :=
  ∀ x, t.get d = some x → x.isDefault = false ∧ x.Disjoint ∧ x.Admissible

instance (t : Targeting) (d : Dimension) : Decidable (t.WellFormedAt d) :=
  inferInstanceAs (Decidable (∀ x ∈ t.get d, x.isDefault = false ∧ x.Disjoint ∧ x.Admissible))

/-- A record that could have been read from plain data. -/
def WellFormed (t : Targeting) : Prop := ∀ d, t.WellFormedAt d

instance (t : Targeting) : Decidable t.WellFormed :=
  decidable_of_iff (∀ d ∈ Dimension.all, t.WellFormedAt d)
    ⟨fun h d => h d (Vocabulary.mem_all d), fun h d _ => h d⟩

theorem wellFormed_default : ({} : Targeting).WellFormed := by
  intro d x hx
  simp at hx

/-- Well-formed records are equal when they have the same values and the same alternatives along
every dimension. -/
theorem ext_of_wellFormed {t u : Targeting} (ht : t.WellFormed) (hu : u.WellFormed)
    (hv : ∀ d, DimensionTargeting.valuesOf (t.get d) = DimensionTargeting.valuesOf (u.get d))
    (ha : ∀ d, DimensionTargeting.alternativesOf (t.get d) =
      DimensionTargeting.alternativesOf (u.get d)) : t = u := by
  refine ext_get fun d => ?_
  have hvd := hv d
  have had := ha d
  cases htd : t.get d with
  | none =>
    cases hud : u.get d with
    | none => rfl
    | some y =>
      rw [htd, hud] at hvd had
      have hdef : y.isDefault = true := DimensionTargeting.isDefault_iff.2 ⟨hvd.symm, had.symm⟩
      exact absurd hdef (by simp [(hu d y hud).1])
  | some x =>
    cases hud : u.get d with
    | none =>
      rw [htd, hud] at hvd had
      have hdef : x.isDefault = true := DimensionTargeting.isDefault_iff.2 ⟨hvd, had⟩
      exact absurd hdef (by simp [(ht d x htd).1])
    | some y =>
      rw [htd, hud] at hvd had
      exact congrArg some (DimensionTargeting.ext hvd had)

/-! ## Plain form -/

/-- The field of a record for one dimension: null, or a targeting that is dropped if it is
empty. -/
def readDimension (d : Dimension) (fields : Fields) : Checked (Option (DimensionTargeting d)) :=
  (fun x => x.bind DimensionTargeting.nonDefault) <$> fields.optional d.fieldName read

/-- The field of a record for one dimension, written out. -/
def writeDimension (t : Targeting) (d : Dimension) : String × Data :=
  (d.fieldName, writeNullable write (t.get d))

instance : PlainForm Targeting where
  read := readRecord fun fields =>
    Targeting.mk <$> readDimension .abi fields <*> readDimension .language fields <*>
      readDimension .textureFormat fields <*> readDimension .graphicsApi fields <*>
      readDimension .sdkVersion fields <*> readDimension .screenDensity fields
  write t := .record (Dimension.all.map t.writeDimension)

end Targeting

end DeviceSplit
