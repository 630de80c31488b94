import DeviceSplit.Proofs.ReadBack.Module
import DeviceSplit.Schema.Basic

set_option autoImplicit false

/-! # Reading back records of every kind

For each kind of record there is a condition that says which values can be read (`Schema.Sound`,
`Schema.sound_iff_read`). All of them are read back from whatever they are written as
(`Schema.read_of_written_of_read`): reading changes nothing in what has been read before. -/

namespace DeviceSplit

theorem SplitPolicy.readsBack :
    ReadsBack (read : Data → Checked SplitPolicy) (fun _ => True) Written :=
  ((ReadsBack.flag.withDefault "include_64_bit_libs" true trivial).map SplitPolicy.mk
    SplitPolicy.include64Bit (fun _ _ => trivial) fun _ _ => ⟨trivial, rfl⟩).record

theorem Config.readsBack : ReadsBack (read : Data → Checked Config) (fun _ => True) Written := by
  have hlevel := (ReadsBack.word (α := Severity) .unknownLevel).withDefault "log_level" .info trivial
  have hpolicy := SplitPolicy.readsBack.withDefault "splitter" {} trivial
  have hfields := hlevel.map₂ hpolicy Config.mk Config.logLevel Config.policy (fun _ _ => rfl)
    (fun _ _ => rfl) (fun _ => rfl)
  exact hfields.record.congr_sound fun _ => iff_of_true ⟨trivial, trivial⟩ trivial

namespace Schema

instance instWrittenFormCarrier : (s : Schema) → WrittenForm s.Carrier
  | abi => inferInstanceAs (WrittenForm Abi)
  | textureFormat => inferInstanceAs (WrittenForm TextureFormat)
  | openGlVersion | vulkanVersion => inferInstanceAs (WrittenForm ApiVersion)
  | graphicsApi => inferInstanceAs (WrittenForm GraphicsApi)
  | sdkVersion => inferInstanceAs (WrittenForm SdkVersion)
  | screenDensity => inferInstanceAs (WrittenForm ScreenDensity)
  | dimensionTargeting d => inferInstanceAs (WrittenForm (DimensionTargeting d))
  | targeting => inferInstanceAs (WrittenForm Targeting)
  | nativeTargeting => inferInstanceAs (WrittenForm NativeTargeting)
  | moduleEntry => inferInstanceAs (WrittenForm ModuleEntry)
  | nativeDirectory => inferInstanceAs (WrittenForm NativeDirectory)
  | nativeLibraries => inferInstanceAs (WrittenForm NativeLibraries)
  | moduleSplit => inferInstanceAs (WrittenForm ModuleSplit)
  | splitPolicy => inferInstanceAs (WrittenForm SplitPolicy)
  | config => inferInstanceAs (WrittenForm Config)

/-- A record that could have been read. -/
def Sound : (s : Schema) → s.Carrier → Prop
  | sdkVersion => SdkVersion.Admissible
  | screenDensity => ScreenDensity.Admissible
  | dimensionTargeting _ => fun t => t.Disjoint ∧ t.Admissible
  | targeting => Targeting.WellFormed
  | moduleEntry => ModuleEntry.Valid
  | moduleSplit => ModuleSplit.Valid
  | abi | textureFormat | openGlVersion | vulkanVersion | graphicsApi | nativeTargeting
  | nativeDirectory | nativeLibraries | splitPolicy | config => fun _ => True

theorem readsBack (s : Schema) : ReadsBack (read : Data → Checked s.Carrier) s.Sound Written := by
  cases s with
  | abi => exact Abi.readsBack
  | textureFormat => exact TextureFormat.readsBack
  | openGlVersion => exact ApiVersion.readsBack
  | vulkanVersion => exact ApiVersion.readsBack
  | graphicsApi => exact GraphicsApi.readsBack
  | sdkVersion => exact SdkVersion.readsBack
  | screenDensity => exact ScreenDensity.readsBack
  | dimensionTargeting d => exact DimensionTargeting.readsBack d
  | targeting => exact Targeting.readsBack
  | nativeTargeting => exact NativeTargeting.readsBack
  | moduleEntry => exact ModuleEntry.readsBack
  | nativeDirectory => exact NativeDirectory.readsBack
  | nativeLibraries => exact NativeLibraries.readsBack
  | moduleSplit => exact ModuleSplit.readsBack
  | splitPolicy => exact SplitPolicy.readsBack
  | config => exact Config.readsBack

/-- A record of any kind that has been read is read again, without a change, from all the ways to
write it, of which its plain form is one. -/
theorem read_of_written_of_read (s : Schema) {given : Data} {x : s.Carrier}
    (hread : read given = Checked.ok x) :
    Written x (write x) ∧ ∀ d, Written x d → read d = Checked.ok x := by
  have hx : s.Sound x := s.readsBack.sound_of_read hread
  exact ⟨written_write x, fun _ hd => s.readsBack.read_of_written hx hd⟩

/-- A module as somebody may spell it: an entry given twice, a targeting that says nothing and one
that repeats itself, and most fields left out. -/
def untidyModule : Data :=
  .record
    [("apk_targeting", .record
      [("language_targeting", .record []),
        ("abi_targeting", .record [("value", .list [write Abi.x86, write Abi.mips, write Abi.x86])])]),
      ("entries", .list
        [.record [("path", .text "\\lib/x86/a.so/"), ("content", .text "hi")],
          .record [("content", .bytes [104, 105]), ("path", .text "lib/x86/a.so")]])]

/-- What it is read as. -/
def tidyModule : ModuleSplit where
  apkTargeting := { abi := some ⟨.ofList [.x86, .mips], ∅⟩ }
  entries := [⟨"lib/x86/a.so", [104, 105]⟩]

/-- All of it written out, with fields and members in an order of their own. -/
def tidyModuleWritten : Data :=
  .record
    [("entries", .list [.record [("content", .bytes [104, 105]), ("path", .text "lib/x86/a.so")]]),
      ("native_config", .null),
      ("apk_targeting", .record
        [("screen_density_targeting", .null), ("sdk_version_targeting", .null),
          ("graphics_api_targeting", .null), ("language_targeting", .null),
          ("texture_compression_format_targeting", .null),
          ("abi_targeting", .record
            [("alternatives", .list []), ("value", .list [write Abi.x86, write Abi.mips])])]),
      ("master_split", .bool true),
      ("master_manifest_mutators", .list []),
      ("module_name", .text "base")]

theorem written_tidyModule : Written tidyModule tidyModuleWritten := by
  have habi : Written (⟨.ofList [.x86, .mips], ∅⟩ : DimensionTargeting .abi)
      (.record [("alternatives", .list []), ("value", .list [write Abi.x86, write Abi.mips])]) :=
    ⟨_, rfl,
      ⟨_, rfl, [Abi.x86, Abi.mips], fun _ => SortedSet.mem_ofList.symm,
        writtenSequence_map (α := Abi) written_write [.x86, .mips]⟩,
      ⟨_, rfl, [], fun a => ⟨(nomatch ·), fun ha => absurd ha (SortedSet.not_mem_empty a)⟩, _, rfl,
        .nil⟩⟩
  refine ⟨_, rfl, fun f => ?_⟩
  cases f with
  | apkTargeting =>
    refine ⟨_, rfl, _, rfl, fun d => ?_⟩
    cases d with
    | abi => exact ⟨_, rfl, habi⟩
    | _ => exact ⟨_, rfl, rfl⟩
  | entries => exact ⟨_, rfl, _, rfl, .cons ⟨_, rfl, ⟨_, rfl, rfl⟩, _, rfl, rfl⟩ .nil⟩
  | masterManifestMutators => exact ⟨_, rfl, _, rfl, .nil⟩
  | _ => exact ⟨_, rfl, rfl⟩

/-- Reading tidies up once, and then leaves the module as it is. -/
theorem read_of_written_of_read_tidyModule :
    read untidyModule = Checked.ok tidyModule ∧ Written tidyModule tidyModuleWritten ∧
      read (write tidyModule) = Checked.ok tidyModule ∧
      read tidyModuleWritten = Checked.ok tidyModule := by
  have hread : read untidyModule = Checked.ok tidyModule := by rfl
  obtain ⟨hform, hall⟩ := read_of_written_of_read .moduleSplit hread
  exact ⟨hread, written_tidyModule, hall _ hform, hall _ written_tidyModule⟩

end Schema

end DeviceSplit
