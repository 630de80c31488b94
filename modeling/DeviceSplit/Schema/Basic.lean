import DeviceSplit.Module.ModuleSplit
import DeviceSplit.Settings.Config

set_option autoImplicit false

/-! # Schemas

All kinds of record that are read from plain data, by name. A law that holds for every kind of
record is stated for a schema `s` and the values of `s.Carrier`. -/

namespace DeviceSplit

inductive Schema where
  | abi
  | textureFormat
  | openGlVersion
  | vulkanVersion
  | graphicsApi
  | sdkVersion
  | screenDensity
  | dimensionTargeting (d : Dimension)
  | targeting
  | nativeTargeting
  | moduleEntry
  | nativeDirectory
  | nativeLibraries
  | moduleSplit
  | splitPolicy
  | config
deriving DecidableEq

namespace Schema

def all : List Schema :=
  [abi, textureFormat, openGlVersion, vulkanVersion, graphicsApi, sdkVersion, screenDensity] ++
    Dimension.all.map dimensionTargeting ++
    [targeting, nativeTargeting, moduleEntry, nativeDirectory, nativeLibraries, moduleSplit,
      splitPolicy, config]

/-- The name of a kind of record in messages and requests. -/
def name : Schema → String
  | abi => "Abi"
  | textureFormat => "TextureCompressionFormat"
  | openGlVersion => "OpenGlVersion"
  | vulkanVersion => "VulkanVersion"
  | graphicsApi => "GraphicsApi"
  | sdkVersion => "SdkVersion"
  | screenDensity => "ScreenDensity"
  | dimensionTargeting d => d.targetingName
  | targeting => "Targeting"
  | nativeTargeting => "NativeDirectoryTargeting"
  | moduleEntry => "ModuleEntry"
  | nativeDirectory => "TargetedNativeDirectory"
  | nativeLibraries => "NativeLibraries"
  | moduleSplit => "ModuleSplit"
  | splitPolicy => "SplitterConfig"
  | config => "Config"

/-- The kind of record with a given name. -/
def ofName? (n : String) : Option Schema := all.find? (·.name == n)

/-- Whether the records of a kind can be members of a set. Settings can be told apart, but they
are collected in no set. -/
def isKey : Schema → Bool
  | splitPolicy | config => false
  | _ => true

/-- The type of the records of a kind. -/
abbrev Carrier : Schema → Type
  | abi => Abi
  | textureFormat => TextureFormat
  | openGlVersion | vulkanVersion => ApiVersion
  | graphicsApi => GraphicsApi
  | sdkVersion => SdkVersion
  | screenDensity => ScreenDensity
  | dimensionTargeting d => DimensionTargeting d
  | targeting => Targeting
  | nativeTargeting => NativeTargeting
  | moduleEntry => ModuleEntry
  | nativeDirectory => NativeDirectory
  | nativeLibraries => NativeLibraries
  | moduleSplit => ModuleSplit
  | splitPolicy => SplitPolicy
  | config => Config

instance instPlainFormCarrier : (s : Schema) → PlainForm s.Carrier
  | abi => inferInstanceAs (PlainForm Abi)
  | textureFormat => inferInstanceAs (PlainForm TextureFormat)
  | openGlVersion | vulkanVersion => inferInstanceAs (PlainForm ApiVersion)
  | graphicsApi => inferInstanceAs (PlainForm GraphicsApi)
  | sdkVersion => inferInstanceAs (PlainForm SdkVersion)
  | screenDensity => inferInstanceAs (PlainForm ScreenDensity)
  | dimensionTargeting d => inferInstanceAs (PlainForm (DimensionTargeting d))
  | targeting => inferInstanceAs (PlainForm Targeting)
  | nativeTargeting => inferInstanceAs (PlainForm NativeTargeting)
  | moduleEntry => inferInstanceAs (PlainForm ModuleEntry)
  | nativeDirectory => inferInstanceAs (PlainForm NativeDirectory)
  | nativeLibraries => inferInstanceAs (PlainForm NativeLibraries)
  | moduleSplit => inferInstanceAs (PlainForm ModuleSplit)
  | splitPolicy => inferInstanceAs (PlainForm SplitPolicy)
  | config => inferInstanceAs (PlainForm Config)

instance instDecidableEqCarrier : (s : Schema) → DecidableEq s.Carrier
  | abi => inferInstanceAs (DecidableEq Abi)
  | textureFormat => inferInstanceAs (DecidableEq TextureFormat)
  | openGlVersion | vulkanVersion => inferInstanceAs (DecidableEq ApiVersion)
  | graphicsApi => inferInstanceAs (DecidableEq GraphicsApi)
  | sdkVersion => inferInstanceAs (DecidableEq SdkVersion)
  | screenDensity => inferInstanceAs (DecidableEq ScreenDensity)
  | dimensionTargeting d => inferInstanceAs (DecidableEq (DimensionTargeting d))
  | targeting => inferInstanceAs (DecidableEq Targeting)
  | nativeTargeting => inferInstanceAs (DecidableEq NativeTargeting)
  | moduleEntry => inferInstanceAs (DecidableEq ModuleEntry)
  | nativeDirectory => inferInstanceAs (DecidableEq NativeDirectory)
  | nativeLibraries => inferInstanceAs (DecidableEq NativeLibraries)
  | moduleSplit => inferInstanceAs (DecidableEq ModuleSplit)
  | splitPolicy => inferInstanceAs (DecidableEq SplitPolicy)
  | config => inferInstanceAs (DecidableEq Config)

end Schema

end DeviceSplit
