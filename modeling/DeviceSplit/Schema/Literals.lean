import DeviceSplit.Schema.Basic

set_option autoImplicit false

/-! # Literals of records

How records of every kind are shown inside messages: the name of the kind with the literals of its
fields in parentheses. Sets and sequences of records have literals too. The content of an entry is
not shown. -/

namespace DeviceSplit

namespace Literal

/-- A set of literals. -/
def set (items : List String) : String :=
  if items.isEmpty then "frozenset()" else "frozenset(\x7b" ++ ", ".intercalate items ++ "\x7d)"

/-- A sequence of literals; a comma tells a sequence of one from its member. -/
def sequence : List String → String
  | [item] => "(" ++ item ++ ",)"
  | items => "(" ++ ", ".intercalate items ++ ")"

end Literal

namespace Shown

instance {d : Dimension} : Shown (DimensionTargeting d) := ofFields d.targetingName fun t =>
  [("value", Literal.set <$> t.values.toList.mapM literal),
    ("alternatives", Literal.set <$> t.alternatives.toList.mapM literal)]

instance : Shown Targeting := ofFields "Targeting" fun t =>
  Dimension.all.map fun d => (d.fieldName, nullable literal (t.get d))

instance : Shown NativeTargeting := ofFields "NativeDirectoryTargeting" fun t =>
  [("abi", literal t.abi)]

instance : Shown ModuleEntry := ofFields "ModuleEntry" fun e => [("path", literal e.path)]

instance : Shown NativeDirectory := ofFields "TargetedNativeDirectory" fun d =>
  [("path", literal d.path), ("targeting", literal d.targeting)]

instance : Shown NativeLibraries := ofFields "NativeLibraries" fun n =>
  [("directories", Literal.sequence <$> n.directories.mapM literal)]

instance : Shown ModuleSplit := ofFields "ModuleSplit" fun m =>
  [("module_name", literal m.moduleName),
    ("apk_targeting", literal m.apkTargeting),
    ("master_split", some (Literal.bool m.masterSplit)),
    ("entries", Literal.sequence <$> m.entries.mapM literal),
    ("native_config", nullable literal m.nativeConfig),
    ("master_manifest_mutators",
      some (Literal.sequence (m.masterManifestMutators.map (Literal.member "SPLITS_REQUIRED"))))]

instance : Shown SplitPolicy := ofFields "SplitterConfig" fun p =>
  [("include_64_bit_libs", some (Literal.bool p.include64Bit))]

instance : Shown Config := ofFields "Config" fun c =>
  [("log_level", literal (Vocabulary.word c.logLevel)), ("splitter", literal c.policy)]

end Shown

/-- How the records of a kind are shown. -/
instance Schema.instShownCarrier : (s : Schema) → Shown s.Carrier
  | .abi => inferInstanceAs (Shown Abi)
  | .textureFormat => inferInstanceAs (Shown TextureFormat)
  | .openGlVersion => Shown.ofFields "OpenGlVersion" ApiVersion.shownFields
  | .vulkanVersion => Shown.ofFields "VulkanVersion" ApiVersion.shownFields
  | .graphicsApi => inferInstanceAs (Shown GraphicsApi)
  | .sdkVersion => inferInstanceAs (Shown SdkVersion)
  | .screenDensity => inferInstanceAs (Shown ScreenDensity)
  | .dimensionTargeting d => inferInstanceAs (Shown (DimensionTargeting d))
  | .targeting => inferInstanceAs (Shown Targeting)
  | .nativeTargeting => inferInstanceAs (Shown NativeTargeting)
  | .moduleEntry => inferInstanceAs (Shown ModuleEntry)
  | .nativeDirectory => inferInstanceAs (Shown NativeDirectory)
  | .nativeLibraries => inferInstanceAs (Shown NativeLibraries)
  | .moduleSplit => inferInstanceAs (Shown ModuleSplit)
  | .splitPolicy => inferInstanceAs (Shown SplitPolicy)
  | .config => inferInstanceAs (Shown Config)

end DeviceSplit
