import DeviceSplit.Item

set_option autoImplicit false

/-! # Factories

A factory puts a record together from loose items. The items for a targeting are converted one by
one, values before alternatives, and the first item that cannot be converted decides the refusal.
The converted items are then checked as any values are. A factory can only be used with a number
of arguments that it takes. -/

namespace DeviceSplit

/-! ## Targetings -/

/-- The targeting of a dimension with the given values and alternatives. -/
def DimensionTargeting.ofItems (d : Dimension) (value alternatives : Item) :
    Except Refusal (DimensionTargeting d) := do
  let values ← value.members.mapM (Item.toValue d)
  let others ← alternatives.members.mapM (Item.toValue d)
  (check (.ofList values) (.ofList others)).orRefuse (.dimensionTargeting d)

/-- Distinct items as graphics interfaces. -/
def graphicsApis (items : List Item) : Checked (SortedSet GraphicsApi) :=
  SortedSet.ofList <$> Item.toGraphicsApis 0 items

/-- The targeting of graphics interfaces; all items that are none are found at once. -/
def graphicsTargeting (value alternatives : Item) :
    Except Refusal (DimensionTargeting .graphicsApi) := do
  let values ← Item.distinct value.members
  let others ← Item.distinct alternatives.members
  Checked.orRefuse (.dimensionTargeting .graphicsApi) <|
    Checked.andThen
      (Prod.mk <$> (graphicsApis values).below (.field "value") <*>
        (graphicsApis others).below (.field "alternatives"))
      fun sets => DimensionTargeting.check (d := .graphicsApi) sets.1 sets.2

/-- The fields of a version: the minor number may be left out. -/
def versionFields (major : Item) (minor : Option Item) : Data :=
  .record (("major", major.asData) ::
    match minor with
    | some m => [("minor", m.asData)]
    | none => [])

/-- OpenGL ES from a version upwards. -/
def openGlFrom (major : Item) (minor : Option Item) : Except Refusal GraphicsApi :=
  GraphicsApi.openGl <$> Schema.openGlVersion.parse (versionFields major minor)

/-- Vulkan from a version upwards. -/
def vulkanFrom (major : Item) (minor : Option Item) : Except Refusal GraphicsApi :=
  GraphicsApi.vulkan <$> Schema.vulkanVersion.parse (versionFields major minor)

/-- A platform level. -/
def sdkVersionFrom (least : Item) : Except Refusal SdkVersion :=
  Schema.sdkVersion.parse (.record [("min", least.asData)])

/-- What a directory of libraries for an architecture is for. -/
def nativeTargeting (abi : Item) : Except Refusal NativeTargeting :=
  NativeTargeting.mk <$> abi.toAbi

/-- The targeting record that has items as its parts. -/
def Targeting.ofItems (items : List Item) : Except Refusal Targeting :=
  Targeting.ofParts <$> items.mapM Item.toPart

/-! ## Factories by name -/

inductive Factory where
  | dimensionTargeting (d : Dimension)
  | targeting
  | nativeTargeting
  | sdkVersion
  | openGl
  | vulkan
deriving DecidableEq

namespace Factory

def all : List Factory :=
  Dimension.all.map dimensionTargeting ++ [targeting, nativeTargeting, sdkVersion, openGl, vulkan]

def name : Factory → String
  | dimensionTargeting .abi => "abi_targeting"
  | dimensionTargeting .language => "language_targeting"
  | dimensionTargeting .textureFormat => "texture_compression_targeting"
  | dimensionTargeting .graphicsApi => "graphics_api_targeting"
  | dimensionTargeting .sdkVersion => "sdk_version_targeting"
  | dimensionTargeting .screenDensity => "screen_density_targeting"
  | targeting => "targeting_of"
  | nativeTargeting => "native_directory_targeting"
  | sdkVersion => "sdk_version_from"
  | openGl => "open_gl_version_from"
  | vulkan => "vulkan_version_from"

/-- The factory with a given name. -/
def ofName? (n : String) : Option Factory := all.find? (·.name == n)

/-- The parameter that a factory cannot do without, if there is one. -/
def required? : Factory → Option String
  | dimensionTargeting _ | targeting => none
  | nativeTargeting => some "abi"
  | sdkVersion => some "min_sdk"
  | openGl | vulkan => some "major"

/-- How many arguments a factory takes at most, if there is a limit. -/
def most? : Factory → Option Nat
  | targeting => none
  | nativeTargeting | sdkVersion => some 1
  | dimensionTargeting _ | openGl | vulkan => some 2

/-- Why a factory cannot be used with a number of arguments, if it cannot. -/
def misuse? (f : Factory) (given : Nat) : Option Misuse :=
  match f.required?, given, f.most? with
  | some parameter, 0, _ => some (.missingArgument f.name parameter)
  | parameter, _, some most =>
    if most < given then
      some (.surplusArguments f.name (if parameter.isSome then 1 else 0) most given)
    else none
  | _, _, none => none

/-- The record that a factory makes, in plain form. An argument that is left out stands for no
item. -/
def make (f : Factory) (arguments : List Item) : Except Refusal Data :=
  let first := arguments.headD (.plain .null)
  let second := (arguments.drop 1).headD (.plain .null)
  match f.misuse? arguments.length, f with
  | some misuse, _ => .error (.misused misuse)
  | none, dimensionTargeting .graphicsApi => write <$> graphicsTargeting first second
  | none, dimensionTargeting d => write <$> DimensionTargeting.ofItems d first second
  | none, targeting => write <$> Targeting.ofItems arguments
  | none, nativeTargeting => write <$> DeviceSplit.nativeTargeting first
  | none, sdkVersion => write <$> sdkVersionFrom first
  | none, openGl => write <$> openGlFrom first arguments[1]?
  | none, vulkan => write <$> vulkanFrom first arguments[1]?

end Factory

end DeviceSplit
