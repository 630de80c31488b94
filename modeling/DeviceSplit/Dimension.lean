import DeviceSplit.Device.Abi
import DeviceSplit.Device.GraphicsApi
import DeviceSplit.Device.ScreenDensity
import DeviceSplit.Device.SdkVersion
import DeviceSplit.Device.TextureFormat

set_option autoImplicit false

/-! # Dimensions

The axes along which devices differ, and the type of the values along each. What is the same for
all dimensions is written once, for a dimension `d` and the type `d.Value`; the instances below
select what belongs to the dimension at hand. -/

namespace DeviceSplit

inductive Dimension where
  | abi
  | language
  | textureFormat
  | graphicsApi
  | sdkVersion
  | screenDensity
deriving DecidableEq

namespace Dimension

instance : Vocabulary Dimension where
  family := "TargetingDimension"
  all := [abi, language, textureFormat, graphicsApi, sdkVersion, screenDensity]
  word
    | abi => "ABI"
    | language => "LANGUAGE"
    | textureFormat => "TEXTURE_COMPRESSION_FORMAT"
    | graphicsApi => "GRAPHICS_API"
    | sdkVersion => "SDK_VERSION"
    | screenDensity => "SCREEN_DENSITY"
  mem_all a := by cases a <;> simp
  word_inj {a b} := by cases a <;> cases b <;> simp

/-- All dimensions, in the order in which they are listed. -/
abbrev all : List Dimension := Vocabulary.all

/-- The name of the record that targets a dimension. -/
def targetingName : Dimension → String
  | abi => "AbiTargeting"
  | language => "LanguageTargeting"
  | textureFormat => "TextureCompressionFormatTargeting"
  | graphicsApi => "GraphicsApiTargeting"
  | sdkVersion => "SdkVersionTargeting"
  | screenDensity => "ScreenDensityTargeting"

/-- The field of a targeting record that holds a dimension. -/
def fieldName : Dimension → String
  | abi => "abi_targeting"
  | language => "language_targeting"
  | textureFormat => "texture_compression_format_targeting"
  | graphicsApi => "graphics_api_targeting"
  | sdkVersion => "sdk_version_targeting"
  | screenDensity => "screen_density_targeting"

/-- The type of the values along a dimension; languages are texts of any form. -/
abbrev Value : Dimension → Type
  | abi => Abi
  | language => String
  | textureFormat => TextureFormat
  | graphicsApi => GraphicsApi
  | sdkVersion => SdkVersion
  | screenDensity => ScreenDensity

instance instDecidableEqValue : (d : Dimension) → DecidableEq d.Value
  | abi => inferInstanceAs (DecidableEq Abi)
  | language => inferInstanceAs (DecidableEq String)
  | textureFormat => inferInstanceAs (DecidableEq TextureFormat)
  | graphicsApi => inferInstanceAs (DecidableEq GraphicsApi)
  | sdkVersion => inferInstanceAs (DecidableEq SdkVersion)
  | screenDensity => inferInstanceAs (DecidableEq ScreenDensity)

instance instRankedValue : (d : Dimension) → Ranked d.Value
  | abi => inferInstanceAs (Ranked Abi)
  | language => inferInstanceAs (Ranked String)
  | textureFormat => inferInstanceAs (Ranked TextureFormat)
  | graphicsApi => inferInstanceAs (Ranked GraphicsApi)
  | sdkVersion => inferInstanceAs (Ranked SdkVersion)
  | screenDensity => inferInstanceAs (Ranked ScreenDensity)

instance instPlainFormValue : (d : Dimension) → PlainForm d.Value
  | abi => inferInstanceAs (PlainForm Abi)
  | language => inferInstanceAs (PlainForm String)
  | textureFormat => inferInstanceAs (PlainForm TextureFormat)
  | graphicsApi => inferInstanceAs (PlainForm GraphicsApi)
  | sdkVersion => inferInstanceAs (PlainForm SdkVersion)
  | screenDensity => inferInstanceAs (PlainForm ScreenDensity)

instance instShownValue : (d : Dimension) → Shown d.Value
  | abi => inferInstanceAs (Shown Abi)
  | language => inferInstanceAs (Shown String)
  | textureFormat => inferInstanceAs (Shown TextureFormat)
  | graphicsApi => inferInstanceAs (Shown GraphicsApi)
  | sdkVersion => inferInstanceAs (Shown SdkVersion)
  | screenDensity => inferInstanceAs (Shown ScreenDensity)

/-- The bounds that a value of a dimension has to keep. -/
def Admissible : (d : Dimension) → d.Value → Prop
  | sdkVersion, v => v.Admissible
  | screenDensity, v => v.Admissible
  | abi, _ | language, _ | textureFormat, _ | graphicsApi, _ => True

instance : (d : Dimension) → (v : d.Value) → Decidable (d.Admissible v)
  | sdkVersion, v => inferInstanceAs (Decidable v.Admissible)
  | screenDensity, v => inferInstanceAs (Decidable v.Admissible)
  | abi, _ | language, _ | textureFormat, _ | graphicsApi, _ => inferInstanceAs (Decidable True)

end Dimension

end DeviceSplit
