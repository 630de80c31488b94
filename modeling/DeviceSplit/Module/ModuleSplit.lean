import DeviceSplit.Module.Entry
import DeviceSplit.Module.NativeLibraries
import DeviceSplit.Targeting.Basic

set_option autoImplicit false

/-! # Module splits

A module split is what one delivery holds: some entries of a module and the targeting of the
devices that get them. A whole module is a module split too, possibly with a configuration of its
native libraries. `withChanges` replaces fields of a module split by plain data, which are read as
they would be from scratch. -/

namespace DeviceSplit

/-- A change to the manifest that is made when the delivery is put together. -/
inductive ManifestMutator where
  /-- The module does not run without its splits. -/
  | splitsRequired
deriving DecidableEq

instance : Vocabulary ManifestMutator where
  family := "ManifestMutator"
  all := [.splitsRequired]
  word
    | .splitsRequired => "splits_required"
  mem_all a := by cases a; simp
  word_inj {a b} := by cases a; cases b; simp

structure ModuleSplit where
  /-- The module that the entries belong to. -/
  moduleName : String := "base"
  apkTargeting : Targeting := {}
  /-- Whether every device gets this split. -/
  masterSplit : Bool := true
  entries : List ModuleEntry := []
  nativeConfig : Option NativeLibraries := none
  masterManifestMutators : List ManifestMutator := []
deriving DecidableEq

namespace ModuleSplit

/-- Entries have pairwise distinct paths, all in normal spelling, and the targeting is well
formed. -/
structure Valid (m : ModuleSplit) : Prop where
  targeting : m.apkTargeting.WellFormed
  entries : ∀ e ∈ m.entries, e.Valid
  distinctPaths : (m.entries.map (·.path)).Nodup

/-- A list of entries without conflicts. -/
def readEntries (d : Data) : Checked (List ModuleEntry) :=
  (readSequence read d).andThen ModuleEntry.distinct

/-- Read the fields of a module split. -/
def readFields (fields : Fields) : Checked ModuleSplit :=
  ModuleSplit.mk <$> fields.withDefault "module_name" "base" readText <*>
    fields.withDefault "apk_targeting" {} read <*>
    fields.withDefault "master_split" true readFlag <*>
    fields.withDefault "entries" [] readEntries <*>
    fields.optional "native_config" read <*>
    fields.withDefault "master_manifest_mutators" [] (readSequence (readWord .unknownWord))

/-- All fields of a module split, written out. -/
def fields (m : ModuleSplit) : Fields :=
  [("module_name", .text m.moduleName),
    ("apk_targeting", write m.apkTargeting),
    ("master_split", .bool m.masterSplit),
    ("entries", .list (m.entries.map write)),
    ("native_config", writeNullable write m.nativeConfig),
    ("master_manifest_mutators", .list (m.masterManifestMutators.map writeWord))]

instance : PlainForm ModuleSplit where
  read := readRecord readFields
  write m := .record m.fields

/-- A module split made of values that have been read. Only the list of entries as a whole is
still to be checked: `withChanges` comes down to this when values are replaced by such values. -/
def checked (m : ModuleSplit) : Checked ModuleSplit :=
  (fun es => { m with entries := es }) <$> (ModuleEntry.distinct m.entries).below (.field "entries")

/-- The entries at or below a directory, in order. -/
def entriesUnder (m : ModuleSplit) (directory : String) : List ModuleEntry :=
  m.entries.filter (·.isUnder directory)

/-- The module split with some fields replaced, all of it read again. -/
def withChanges (m : ModuleSplit) (changes : Fields) : Checked ModuleSplit :=
  readFields (changes ++ m.fields)

/-- Apply changes, or keep the module split where they are faulty. -/
def applyChanges (m : ModuleSplit) (changes : Fields) : ModuleSplit :=
  match m.withChanges changes with
  | .ok m' => m'
  | .faulty _ => m

end ModuleSplit

end DeviceSplit
