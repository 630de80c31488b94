import Mathlib.Data.List.Forall2
import DeviceSplit.Settings.Config
import DeviceSplit.Module.NativeLibraries
import DeviceSplit.Module.Entry
import DeviceSplit.Targeting.Basic

set_option autoImplicit false

/-! # Ways to write a value

`write` gives one plain form of a value, and there are others that say the same: the fields of a
record can stand in any order and among fields of other names, and the members of a set in any order
and more than once. `Written a d` says that `d` is a way to write `a`, with all the fields that `a`
has. Nothing is left out because it has a default, and nothing is spelled in another way than
`write` spells it. -/

namespace DeviceSplit

/-- A type whose values can be written as plain data in one or more ways. -/
class WrittenForm (α : Type) [PlainForm α] where
  Written : α → Data → Prop
  /-- The plain form of a value is one way to write it. -/
  written_write : ∀ a, Written a (write a)

export WrittenForm (Written written_write)

section

variable {α : Type}

/-! ## One value or several -/

/-- There is only one way to write a single value. -/
def WrittenAs (write : α → Data) (a : α) (d : Data) : Prop := d = write a

/-- Nothing is written as null. -/
def WrittenNullable (written : α → Data → Prop) : Option α → Data → Prop
  | none, d => d = .null
  | some a, d => written a d

/-- The values of a sequence are written one after another. -/
def WrittenSequence (written : α → Data → Prop) (l : List α) (d : Data) : Prop :=
  ∃ items, d = .list items ∧ List.Forall₂ written l items

/-- A set is written as any sequence that has its members. -/
def WrittenSet [Ranked α] (written : α → Data → Prop) (s : SortedSet α) (d : Data) : Prop :=
  ∃ l, (∀ a, a ∈ l ↔ a ∈ s) ∧ WrittenSequence written l d

/-! ## Records -/

/-- A record with fields of some kind. -/
def Data.IsRecord (p : Fields → Prop) (d : Data) : Prop := ∃ fields, d = .record fields ∧ p fields

/-- A field is there, and it is a way to write a value. -/
def Fields.Holds (fields : Fields) (name : String) (written : α → Data → Prop) (a : α) : Prop :=
  ∃ d, fields.lookup name = some d ∧ written a d

/-! ## Plain forms are ways to write -/

variable {write : α → Data} {written : α → Data → Prop}

theorem writtenAs_write (write : α → Data) (a : α) : WrittenAs write a (write a) := rfl

theorem writtenNullable_write (h : ∀ a, written a (write a)) (o : Option α) :
    WrittenNullable written o (writeNullable write o) := by
  cases o with
  | none => rfl
  | some a => exact h a

theorem writtenSequence_map (h : ∀ a, written a (write a)) (l : List α) :
    WrittenSequence written l (.list (l.map write)) := by
  refine ⟨_, rfl, ?_⟩
  rw [List.forall₂_map_right_iff, List.forall₂_same]
  exact fun a _ => h a

theorem writtenSet_map [Ranked α] (h : ∀ a, written a (write a)) (s : SortedSet α) :
    WrittenSet written s (.list (s.toList.map write)) :=
  ⟨s.toList, fun _ => Iff.rfl, writtenSequence_map h s.toList⟩

end

/-! ## Values of the dimensions -/

instance : WrittenForm Abi where
  Written a := Data.IsRecord (·.Holds "alias" (WrittenAs writeWord) a)
  written_write _ := ⟨_, rfl, _, rfl, rfl⟩

instance : WrittenForm TextureFormat where
  Written f := Data.IsRecord (·.Holds "alias" (WrittenAs writeWord) f)
  written_write _ := ⟨_, rfl, _, rfl, rfl⟩

instance : WrittenForm ApiVersion where
  Written v := Data.IsRecord fun fields =>
    fields.Holds "major" (WrittenAs fun n : Nat => .int n) v.major ∧
      fields.Holds "minor" (WrittenAs fun n : Nat => .int n) v.minor
  written_write _ := ⟨_, rfl, ⟨_, rfl, rfl⟩, _, rfl, rfl⟩

instance : WrittenForm GraphicsApi where
  Written g := Data.IsRecord fun fields =>
    fields.Holds "min_open_gl_version" (WrittenNullable Written) g.versions.1 ∧
      fields.Holds "min_vulkan_version" (WrittenNullable Written) g.versions.2
  written_write g := ⟨_, rfl, ⟨_, rfl, writtenNullable_write written_write g.versions.1⟩,
    _, rfl, writtenNullable_write written_write g.versions.2⟩

instance : WrittenForm SdkVersion where
  Written v := Data.IsRecord (·.Holds "min" (WrittenAs fun n : Nat => .int n) v.min)
  written_write _ := ⟨_, rfl, _, rfl, rfl⟩

instance : WrittenForm ScreenDensity where
  Written s := Data.IsRecord fun fields =>
    fields.Holds "density_alias" (WrittenNullable (WrittenAs writeWord)) s.forms.1 ∧
      fields.Holds "density_dpi" (WrittenNullable (WrittenAs fun n : Nat => .int n)) s.forms.2
  written_write s := ⟨_, rfl, ⟨_, rfl, writtenNullable_write (writtenAs_write _) s.forms.1⟩,
    _, rfl, writtenNullable_write (writtenAs_write _) s.forms.2⟩

instance : WrittenForm String where
  Written := WrittenAs .text
  written_write _ := rfl

instance Dimension.instWrittenFormValue : (d : Dimension) → WrittenForm d.Value
  | .abi => inferInstanceAs (WrittenForm Abi)
  | .language => inferInstanceAs (WrittenForm String)
  | .textureFormat => inferInstanceAs (WrittenForm TextureFormat)
  | .graphicsApi => inferInstanceAs (WrittenForm GraphicsApi)
  | .sdkVersion => inferInstanceAs (WrittenForm SdkVersion)
  | .screenDensity => inferInstanceAs (WrittenForm ScreenDensity)

/-! ## Targeting -/

instance {d : Dimension} : WrittenForm (DimensionTargeting d) where
  Written t := Data.IsRecord fun fields =>
    fields.Holds "value" (WrittenSet Written) t.values ∧
      fields.Holds "alternatives" (WrittenSet Written) t.alternatives
  written_write t := ⟨_, rfl, ⟨_, rfl, writtenSet_map written_write t.values⟩,
    _, rfl, writtenSet_map written_write t.alternatives⟩

instance : WrittenForm Targeting where
  Written t := Data.IsRecord fun fields =>
    ∀ d : Dimension, fields.Holds d.fieldName (WrittenNullable Written) (t.get d)
  written_write t := by
    refine ⟨_, rfl, fun d => ⟨writeNullable write (t.get d), ?_,
      writtenNullable_write written_write (t.get d)⟩⟩
    cases d <;> rfl

/-! ## Parts of a module -/

instance : WrittenForm NativeTargeting where
  Written t := Data.IsRecord (·.Holds "abi" Written t.abi)
  written_write t := ⟨_, rfl, _, rfl, written_write t.abi⟩

instance : WrittenForm NativeDirectory where
  Written d := Data.IsRecord fun fields =>
    fields.Holds "path" (WrittenAs .text) d.path ∧ fields.Holds "targeting" Written d.targeting
  written_write d := ⟨_, rfl, ⟨_, rfl, rfl⟩, _, rfl, written_write d.targeting⟩

instance : WrittenForm NativeLibraries where
  Written n := Data.IsRecord (·.Holds "directories" (WrittenSequence Written) n.directories)
  written_write n := ⟨_, rfl, _, rfl, writtenSequence_map written_write n.directories⟩

instance : WrittenForm ModuleEntry where
  Written e := Data.IsRecord fun fields =>
    fields.Holds "path" (WrittenAs .text) e.path ∧
      fields.Holds "content" (WrittenAs .bytes) e.content
  written_write _ := ⟨_, rfl, ⟨_, rfl, rfl⟩, _, rfl, rfl⟩

/-! ## Settings -/

instance : WrittenForm SplitPolicy where
  Written p := Data.IsRecord (·.Holds "include_64_bit_libs" (WrittenAs .bool) p.include64Bit)
  written_write _ := ⟨_, rfl, _, rfl, rfl⟩

instance : WrittenForm Config where
  Written c := Data.IsRecord fun fields =>
    fields.Holds "log_level" (WrittenAs writeWord) c.logLevel ∧
      fields.Holds "splitter" Written c.policy
  written_write c := ⟨_, rfl, ⟨_, rfl, rfl⟩, _, rfl, written_write c.policy⟩

end DeviceSplit
