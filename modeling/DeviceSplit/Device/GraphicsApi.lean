import DeviceSplit.PlainForm

set_option autoImplicit false

/-! # Graphics interfaces

The least version of a graphics interface that a device must support: of OpenGL ES or of Vulkan,
never of both. -/

namespace DeviceSplit

/-- The version of a graphics interface. -/
structure ApiVersion where
  major : Nat := 0
  minor : Nat := 0
deriving DecidableEq

namespace ApiVersion

instance : PlainForm ApiVersion where
  read := readRecord fun fields =>
    ApiVersion.mk <$> fields.withDefault "major" 0 (readAtLeast 0) <*>
      fields.withDefault "minor" 0 (readAtLeast 0)
  write v := .record [("major", .int v.major), ("minor", .int v.minor)]

/-- The literals of the fields of a version. -/
def shownFields (v : ApiVersion) : List (String × Option String) :=
  [("major", Text.writeNatural? v.major), ("minor", Text.writeNatural? v.minor)]

/-- The literal of a version, which has the name of its interface. -/
def literal (name : String) (v : ApiVersion) : Option String :=
  (Literal.complete v.shownFields).map (Literal.construct name)

end ApiVersion

inductive GraphicsApi where
  /-- OpenGL ES of this version or later. -/
  | openGl (least : ApiVersion)
  /-- Vulkan of this version or later. -/
  | vulkan (least : ApiVersion)
deriving DecidableEq

namespace GraphicsApi

/-- The interface with one of two possible versions, given exactly one of them. -/
def ofVersions : Option ApiVersion × Option ApiVersion → Checked GraphicsApi
  | (some v, none) => .ok (openGl v)
  | (none, some v) => .ok (vulkan v)
  | (some _, some _) | (none, none) => .reject (.broken .oneGraphicsApi)

/-- The versions of OpenGL ES and of Vulkan. -/
def versions : GraphicsApi → Option ApiVersion × Option ApiVersion
  | openGl v => (some v, none)
  | vulkan v => (none, some v)

theorem ofVersions_versions (g : GraphicsApi) : ofVersions g.versions = .ok g := by
  cases g <;> rfl

/-- OpenGL ES comes before Vulkan, and within each of them versions go up. -/
instance : Ranked GraphicsApi where
  rank
    | openGl v => [0, v.major, v.minor]
    | vulkan v => [1, v.major, v.minor]
  rank_inj {a b} := by
    obtain ⟨⟨_, _⟩⟩ | ⟨⟨_, _⟩⟩ := a <;> obtain ⟨⟨_, _⟩⟩ | ⟨⟨_, _⟩⟩ := b <;> simp

instance : PlainForm GraphicsApi where
  read := readRecord fun fields =>
    Checked.andThen
      (Prod.mk <$> fields.optional "min_open_gl_version" read <*>
        fields.optional "min_vulkan_version" read)
      ofVersions
  write g :=
    .record [("min_open_gl_version", writeNullable write g.versions.1),
      ("min_vulkan_version", writeNullable write g.versions.2)]

instance : Shown GraphicsApi := Shown.ofFields "GraphicsApi" fun g =>
  [("min_open_gl_version", Shown.nullable (ApiVersion.literal "OpenGlVersion") g.versions.1),
    ("min_vulkan_version", Shown.nullable (ApiVersion.literal "VulkanVersion") g.versions.2)]

end GraphicsApi

end DeviceSplit
