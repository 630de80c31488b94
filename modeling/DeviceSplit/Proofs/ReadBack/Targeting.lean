import DeviceSplit.Proofs.ReadBack.Device
import DeviceSplit.Proofs.Targeting.Basic

set_option autoImplicit false

/-! # Reading back targetings

A targeting of one dimension is read back if its sets are disjoint and keep the bounds of the
dimension. A record of them is read dimension by dimension (`Targeting.read_record_eq_ok_iff`), and
the records that are read back are the well-formed ones: the step that drops a dimension without
values and alternatives finds nothing to drop in them. -/

namespace DeviceSplit

theorem DimensionTargeting.readsBack (d : Dimension) :
    ReadsBack (read : Data → Checked (DimensionTargeting d)) (fun t => t.Disjoint ∧ t.Admissible)
      Written := by
  have hside (name : String) := d.readsBack.set.withDefault name ∅ fun v hv =>
    absurd hv (SortedSet.not_mem_empty v)
  have hsides := (hside "value").map₂ (hside "alternatives") Prod.mk Prod.fst Prod.snd
    (fun _ _ => rfl) (fun _ _ => rfl) (fun _ => rfl)
  refine (hsides.andThen (fun sets => check sets.1 sets.2) (fun t => (t.values, t.alternatives))
    ?_ ?_).record
  · intro sets t hadmissible ht
    obtain ⟨rfl, hdisjoint⟩ := check_eq_ok_iff.1 ht
    exact ⟨hdisjoint, hadmissible⟩
  · rintro t ⟨hdisjoint, hadmissible⟩
    exact ⟨hadmissible, check_eq_ok_iff.2 ⟨rfl, hdisjoint⟩⟩

namespace Targeting

open DimensionTargeting

/-- What a record holds along a dimension says something, so that reading does not drop it. -/
theorem readsBack_readDimension (d : Dimension) :
    ReadsBack (readDimension d)
      (fun o => ∀ x, o = some x → x.isDefault = false ∧ x.Disjoint ∧ x.Admissible)
      (fun o fields => fields.Holds d.fieldName (WrittenNullable Written) o) := by
  have hfield := (DimensionTargeting.readsBack d).optional (fun _ h => nomatch h) d.fieldName
  refine hfield.map (fun o => o.bind nonDefault) (fun o => o) ?_ ?_
  · intro o ho x hx
    obtain ⟨y, rfl, hy⟩ := Option.bind_eq_some_iff.1 hx
    obtain ⟨hdefault, rfl⟩ := nonDefault_eq_some_iff.1 hy
    exact ⟨hdefault, ho y rfl⟩
  · intro o ho
    refine ⟨fun x hx => (ho x hx).2, ?_⟩
    cases o with
    | none => rfl
    | some x => exact nonDefault_of_not_isDefault (ho x rfl).1

/-- A record is read dimension by dimension. -/
theorem read_record_eq_ok_iff (fields : Fields) (t : Targeting) :
    read (.record fields) = Checked.ok t ↔ ∀ d, readDimension d fields = .ok (t.get d) := by
  change Targeting.mk <$> readDimension .abi fields <*> readDimension .language fields <*>
    readDimension .textureFormat fields <*> readDimension .graphicsApi fields <*>
    readDimension .sdkVersion fields <*> readDimension .screenDensity fields = Checked.ok t ↔ _
  rw [Checked.map₆_eq_ok]
  constructor
  · rintro ⟨abi, language, format, api, sdk, density, habi, hlanguage, hformat, hapi, hsdk, hdensity,
      rfl⟩ d
    cases d with
    | abi => exact habi
    | language => exact hlanguage
    | textureFormat => exact hformat
    | graphicsApi => exact hapi
    | sdkVersion => exact hsdk
    | screenDensity => exact hdensity
  · intro h
    exact ⟨_, _, _, _, _, _, h .abi, h .language, h .textureFormat, h .graphicsApi, h .sdkVersion,
      h .screenDensity, rfl⟩

theorem readsBack : ReadsBack (read : Data → Checked Targeting) WellFormed Written :=
  (ReadsBack.parts readsBack_readDimension read_record_eq_ok_iff).record

end Targeting

end DeviceSplit
