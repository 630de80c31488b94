import DeviceSplit.Module.ModuleSplit
import DeviceSplit.Proofs.Written

set_option autoImplicit false

/-! # The fields of a module split

What holds of all fields of a module split is said once, for a field `f` and the values of `f.Value`.
Reading goes field by field, and a field is read from what has its name and from nothing else:
`ModuleSplit.readFields_eq_ok_iff` says what comes out, `ModuleSplit.readFields_congr` that faults
come out alike as well, and `ModuleSplit.filter_faults_readFields` that each field has its own faults
among them. -/

namespace DeviceSplit

/-! ## Faults of results put together -/

/-- The faults of a result; a value has none. -/
def Checked.faults {α : Type} : Checked α → List Fault
  | .ok _ => []
  | .faulty faults => faults

namespace Checked

variable {α β : Type}

theorem faults_map (f : α → β) (x : Checked α) : (f <$> x).faults = x.faults := by
  cases x <;> rfl

theorem faults_seq (f : Checked (α → β)) (x : Checked α) :
    (f <*> x).faults = f.faults ++ x.faults := by
  cases f with
  | ok g =>
    rw [seq_ok, faults_map]
    rfl
  | faulty e =>
    cases x with
    | ok a => exact (List.append_nil e).symm
    | faulty e' => rfl

theorem faults_below (s : Step) (x : Checked α) :
    (x.below s).faults = x.faults.map (Fault.below s) := by
  cases x <;> rfl

/-- Where there are faults, there is no value. -/
theorem eq_faulty_of_faults_ne_nil {x : Checked α} (h : x.faults ≠ []) : x = .faulty x.faults := by
  cases x with
  | ok a => exact absurd rfl h
  | faulty faults => rfl

end Checked

/-- Whether a fault was found in the field of a name. -/
def Fault.isIn (name : String) (f : Fault) : Bool := f.path.head? == some (.field name)

inductive ModuleField where
  | moduleName
  | apkTargeting
  | masterSplit
  | entries
  | nativeConfig
  | masterManifestMutators
deriving DecidableEq

namespace ModuleField

def name : ModuleField → String
  | moduleName => "module_name"
  | apkTargeting => "apk_targeting"
  | masterSplit => "master_split"
  | entries => "entries"
  | nativeConfig => "native_config"
  | masterManifestMutators => "master_manifest_mutators"

theorem name_inj {f g : ModuleField} (h : f.name = g.name) : f = g := by
  cases f <;> cases g <;> simp_all [name]

/-- The type of the values of a field. -/
abbrev Value : ModuleField → Type
  | moduleName => String
  | apkTargeting => Targeting
  | masterSplit => Bool
  | entries => List ModuleEntry
  | nativeConfig => Option NativeLibraries
  | masterManifestMutators => List ManifestMutator

/-- The value of a field that is not there. -/
def default : (f : ModuleField) → f.Value
  | moduleName => "base"
  | apkTargeting => {}
  | masterSplit => true
  | entries => []
  | nativeConfig => none
  | masterManifestMutators => []

/-- Read the value of a field. -/
def readValue : (f : ModuleField) → Data → Checked f.Value
  | moduleName => readText
  | apkTargeting => (read : Data → Checked Targeting)
  | masterSplit => readFlag
  | entries => ModuleSplit.readEntries
  | nativeConfig => readNullable (read : Data → Checked NativeLibraries)
  | masterManifestMutators => readSequence (readWord .unknownWord)

/-- Read a field among others. -/
def readFrom (f : ModuleField) (fields : Fields) : Checked f.Value :=
  fields.withDefault f.name f.default f.readValue

/-- Write the value of a field. -/
def writeValue : (f : ModuleField) → f.Value → Data
  | moduleName => .text
  | apkTargeting => (write : Targeting → Data)
  | masterSplit => .bool
  | entries => fun es => .list (es.map write)
  | nativeConfig => writeNullable (write : NativeLibraries → Data)
  | masterManifestMutators => fun ms => .list (ms.map writeWord)

/-- The ways to write the value of a field. -/
def WrittenValue : (f : ModuleField) → f.Value → Data → Prop
  | moduleName => WrittenAs .text
  | apkTargeting => (Written : Targeting → Data → Prop)
  | masterSplit => WrittenAs .bool
  | entries => WrittenSequence (Written : ModuleEntry → Data → Prop)
  | nativeConfig => WrittenNullable (Written : NativeLibraries → Data → Prop)
  | masterManifestMutators => WrittenSequence (WrittenAs writeWord)

theorem writtenValue_writeValue (f : ModuleField) (x : f.Value) :
    f.WrittenValue x (f.writeValue x) := by
  cases f with
  | moduleName => exact writtenAs_write _ x
  | apkTargeting => exact written_write (α := Targeting) x
  | masterSplit => exact writtenAs_write _ x
  | entries => exact writtenSequence_map (α := ModuleEntry) written_write x
  | nativeConfig => exact writtenNullable_write (α := NativeLibraries) written_write x
  | masterManifestMutators => exact writtenSequence_map (writtenAs_write _) x

variable {f : ModuleField} {fields fields' : Fields} {d : Data}

theorem readFrom_of_lookup (h : fields.lookup f.name = some d) :
    f.readFrom fields = (f.readValue d).below (.field f.name) := by
  rw [readFrom, Fields.withDefault, h]

/-- Only what has the name of the field counts. -/
theorem readFrom_congr (h : fields.lookup f.name = fields'.lookup f.name) :
    f.readFrom fields = f.readFrom fields' := by
  rw [readFrom, readFrom, Fields.withDefault, Fields.withDefault, h]

/-- The faults of reading a field are all in that field. -/
theorem filter_faults_readFrom (f g : ModuleField) (fields : Fields) :
    (f.readFrom fields).faults.filter (·.isIn g.name) =
      if f = g then (f.readFrom fields).faults else [] := by
  cases h : fields.lookup f.name with
  | none =>
    have hdefault : f.readFrom fields = .ok f.default := by
      rw [readFrom, Fields.withDefault, h]
    rw [hdefault]
    split <;> rfl
  | some d =>
    rw [readFrom_of_lookup h, Checked.faults_below]
    split
    · next hfg =>
      rw [hfg, List.filter_eq_self]
      simp [Fault.isIn, Fault.below]
    · next hfg =>
      have hname : f.name ≠ g.name := mt name_inj hfg
      simp [Fault.isIn, Fault.below, hname]

end ModuleField

namespace ModuleSplit

/-- What a module split has in a field. -/
def value (m : ModuleSplit) : (f : ModuleField) → f.Value
  | .moduleName => m.moduleName
  | .apkTargeting => m.apkTargeting
  | .masterSplit => m.masterSplit
  | .entries => m.entries
  | .nativeConfig => m.nativeConfig
  | .masterManifestMutators => m.masterManifestMutators

theorem lookup_fields (m : ModuleSplit) (f : ModuleField) :
    m.fields.lookup f.name = some (f.writeValue (m.value f)) := by
  cases f <;> rfl

instance : WrittenForm ModuleSplit where
  Written m := Data.IsRecord fun fields =>
    ∀ f : ModuleField, fields.Holds f.name f.WrittenValue (m.value f)
  written_write m := ⟨m.fields, rfl, fun f =>
    ⟨_, m.lookup_fields f, f.writtenValue_writeValue (m.value f)⟩⟩

/-- A module split is read field by field. -/
theorem readFields_eq (fields : Fields) :
    readFields fields = ModuleSplit.mk <$> ModuleField.moduleName.readFrom fields <*>
      ModuleField.apkTargeting.readFrom fields <*> ModuleField.masterSplit.readFrom fields <*>
      ModuleField.entries.readFrom fields <*> ModuleField.nativeConfig.readFrom fields <*>
      ModuleField.masterManifestMutators.readFrom fields := rfl

/-- The faults in a field are those of reading the field. -/
theorem filter_faults_readFields (fields : Fields) (f : ModuleField) :
    (readFields fields).faults.filter (·.isIn f.name) = (f.readFrom fields).faults := by
  simp only [readFields_eq, Checked.faults_seq, Checked.faults_map, List.filter_append]
  rw [ModuleField.filter_faults_readFrom .moduleName, ModuleField.filter_faults_readFrom .apkTargeting,
    ModuleField.filter_faults_readFrom .masterSplit, ModuleField.filter_faults_readFrom .entries,
    ModuleField.filter_faults_readFrom .nativeConfig,
    ModuleField.filter_faults_readFrom .masterManifestMutators]
  cases f <;> simp

theorem readFields_eq_ok_iff (fields : Fields) (m : ModuleSplit) :
    readFields fields = .ok m ↔ ∀ f : ModuleField, f.readFrom fields = .ok (m.value f) := by
  rw [readFields_eq, Checked.map₆_eq_ok]
  constructor
  · rintro ⟨name, targeting, master, entries, native, mutators, hname, htargeting, hmaster, hentries,
      hnative, hmutators, rfl⟩ f
    cases f with
    | moduleName => exact hname
    | apkTargeting => exact htargeting
    | masterSplit => exact hmaster
    | entries => exact hentries
    | nativeConfig => exact hnative
    | masterManifestMutators => exact hmutators
  · intro h
    exact ⟨_, _, _, _, _, _, h .moduleName, h .apkTargeting, h .masterSplit, h .entries,
      h .nativeConfig, h .masterManifestMutators, rfl⟩

/-- A module split is read exactly if each of its fields is. -/
theorem exists_readFields_eq_ok_iff (fields : Fields) :
    (∃ m, readFields fields = .ok m) ↔ ∀ f : ModuleField, ∃ x, f.readFrom fields = .ok x := by
  constructor
  · rintro ⟨m, hm⟩ f
    exact ⟨m.value f, (readFields_eq_ok_iff fields m).1 hm f⟩
  · intro h
    choose x hx using h
    refine ⟨⟨x .moduleName, x .apkTargeting, x .masterSplit, x .entries, x .nativeConfig,
      x .masterManifestMutators⟩, (readFields_eq_ok_iff fields _).2 fun f => ?_⟩
    cases f <;> exact hx _

/-- Values and faults are the same if they are so for each field. -/
theorem readFields_congr {fields fields' : Fields}
    (h : ∀ f : ModuleField, f.readFrom fields = f.readFrom fields') :
    readFields fields = readFields fields' := by
  rw [readFields_eq, readFields_eq, h .moduleName, h .apkTargeting, h .masterSplit, h .entries,
    h .nativeConfig, h .masterManifestMutators]

end ModuleSplit

end DeviceSplit
