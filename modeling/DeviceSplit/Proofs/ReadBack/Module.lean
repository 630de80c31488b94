import DeviceSplit.Proofs.Entries
import DeviceSplit.Proofs.Module.Field
import DeviceSplit.Proofs.Path
import DeviceSplit.Proofs.ReadBack.Targeting

set_option autoImplicit false

/-! # Reading back modules

Reading spells the paths of entries normally and removes repetitions, and neither changes anything in
what has been read before. A module split is read back exactly if it is valid, field by field
(`ModuleField.readsBack`). -/

namespace DeviceSplit

/-! ## Native libraries -/

theorem NativeTargeting.readsBack :
    ReadsBack (read : Data → Checked NativeTargeting) (fun _ => True) Written :=
  ((Abi.readsBack.required "abi").map NativeTargeting.mk NativeTargeting.abi
    (fun _ _ => trivial) fun _ _ => ⟨trivial, rfl⟩).record

theorem NativeDirectory.readsBack :
    ReadsBack (read : Data → Checked NativeDirectory) (fun _ => True) Written := by
  have hpath := ReadsBack.text.required "path"
  have htargeting := NativeTargeting.readsBack.required "targeting"
  have hfields := hpath.map₂ htargeting NativeDirectory.mk NativeDirectory.path
    NativeDirectory.targeting (fun _ _ => rfl) (fun _ _ => rfl) (fun _ => rfl)
  exact hfields.record.congr_sound fun _ => iff_of_true ⟨trivial, trivial⟩ trivial

theorem NativeLibraries.readsBack :
    ReadsBack (read : Data → Checked NativeLibraries) (fun _ => True) Written := by
  have hdirectories := NativeDirectory.readsBack.sequence.withDefault "directories" []
    fun _ _ => trivial
  exact (hdirectories.map NativeLibraries.mk NativeLibraries.directories (fun _ _ => trivial)
    fun _ _ => ⟨fun _ _ => trivial, rfl⟩).record

/-! ## Entries -/

namespace ModuleEntry

/-- The path that is read is a normal spelling, and a normal spelling is read as it stands. -/
theorem readsBack_readPath :
    ReadsBack readPath (fun p => p ≠ "" ∧ Path.normalize p = p) (WrittenAs .text) := by
  refine ReadsBack.text.andThen _ (fun p => p) ?_ ?_
  · intro s p _ hp
    by_cases hempty : Path.normalize s = ""
    · rw [if_pos hempty] at hp
      exact nomatch hp
    · rw [if_neg hempty] at hp
      obtain rfl := Checked.ok.inj hp
      exact ⟨hempty, Path.normalize_normalize s⟩
  · rintro p ⟨hne, hnormal⟩
    refine ⟨trivial, ?_⟩
    rw [hnormal, if_neg hne]

theorem readsBack : ReadsBack (read : Data → Checked ModuleEntry) Valid Written := by
  have hcontent := ReadsBack.bytes.withDefault "content" [] trivial
  have hfields := (readsBack_readPath.required "path").map₂ hcontent ModuleEntry.mk
    ModuleEntry.path ModuleEntry.content (fun _ _ => rfl) (fun _ _ => rfl) (fun _ => rfl)
  exact hfields.record.congr_sound fun _ => and_iff_left trivial

theorem readsBack_readEntries :
    ReadsBack ModuleSplit.readEntries
      (fun es => (∀ e ∈ es, e.Valid) ∧ (es.map (·.path)).Nodup) (WrittenSequence Written) := by
  refine readsBack.sequence.andThen distinct (fun es => es) ?_ ?_
  · intro es fs hvalid hfs
    obtain ⟨hnodup, hsub⟩ := of_distinct_eq_ok hfs
    exact ⟨fun e he => hvalid e (hsub e he), hnodup⟩
  · rintro es ⟨hvalid, hnodup⟩
    exact ⟨hvalid, distinct_eq_ok hnodup⟩

end ModuleEntry

/-! ## Module splits -/

namespace ModuleField

/-- The value of a field that could have been read. -/
def Sound : (f : ModuleField) → f.Value → Prop
  | apkTargeting => Targeting.WellFormed
  | entries => fun es => (∀ e ∈ es, e.Valid) ∧ (es.map (·.path)).Nodup
  | moduleName | masterSplit | nativeConfig | masterManifestMutators => fun _ => True

theorem sound_default (f : ModuleField) : f.Sound f.default := by
  cases f with
  | apkTargeting => exact Targeting.wellFormed_default
  | entries => exact ⟨fun _ he => absurd he List.not_mem_nil, List.nodup_nil⟩
  | _ => trivial

theorem readsBack (f : ModuleField) : ReadsBack f.readValue f.Sound f.WrittenValue := by
  cases f with
  | moduleName => exact ReadsBack.text
  | apkTargeting => exact Targeting.readsBack
  | masterSplit => exact ReadsBack.flag
  | entries => exact ModuleEntry.readsBack_readEntries
  | nativeConfig =>
    exact (NativeLibraries.readsBack.nullable fun _ h => nomatch h).congr_sound
      fun _ => iff_of_true (fun _ _ => trivial) trivial
  | masterManifestMutators =>
    exact (ReadsBack.word .unknownWord).sequence.congr_sound
      fun _ => iff_of_true (fun _ _ => trivial) trivial

end ModuleField

namespace ModuleSplit

theorem valid_iff {m : ModuleSplit} : m.Valid ↔ ∀ f : ModuleField, f.Sound (m.value f) := by
  constructor
  · intro hm f
    cases f with
    | apkTargeting => exact hm.targeting
    | entries => exact ⟨hm.entries, hm.distinctPaths⟩
    | _ => trivial
  · intro h
    exact ⟨h .apkTargeting, (h .entries).1, (h .entries).2⟩

theorem readsBack_readFields :
    ReadsBack readFields Valid fun m fields =>
      ∀ f : ModuleField, fields.Holds f.name f.WrittenValue (m.value f) :=
  (ReadsBack.parts (fun f => f.readsBack.withDefault f.name f.default f.sound_default)
    readFields_eq_ok_iff).congr_sound fun _ => valid_iff.symm

theorem readsBack : ReadsBack (read : Data → Checked ModuleSplit) Valid Written :=
  readsBack_readFields.record

end ModuleSplit

end DeviceSplit
