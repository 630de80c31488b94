import DeviceSplit.Reading
import DeviceSplit.Schema.Literals

set_option autoImplicit false

/-! # Loose items

Records can be put together from items of mixed form: words, numbers, records, one alone or
several in a list. An item is converted to the value that it stands for, or refused. -/

namespace DeviceSplit

/-- Something that may stand for a value, or for several. -/
inductive Item where
  | plain (d : Data)
  | record (schema : Schema) (value : schema.Carrier)
  | list (items : List Item)

instance : Inhabited Item := ⟨.plain .null⟩

namespace Item

mutual

/-- The literal of an item. -/
def literal : Item → Option String
  | plain d => Shown.literal d
  | record _ value => Shown.literal value
  | list items => Literal.list <$> literals items

def literals : List Item → Option (List String)
  | [] => some []
  | i :: r => List.cons <$> i.literal <*> literals r

end

/-- The text of an item that stands alone. -/
def text : Item → Option String
  | plain d => Shown.text d
  | record _ value => Shown.text value
  | list items => (list items).literal

/-- An item as plain data; a list of items is no single value, and neither is its plain form. -/
def asData : Item → Data
  | plain d => d
  | record _ value => write value
  | list _ => .list []

/-- The items that an argument stands for: null for none, a list for its members, a plain record
for its names, bytes for their numbers, and anything else for itself. -/
def members : Item → List Item
  | plain .null => []
  | plain (.list ds) => ds.map plain
  | plain (.record fields) => fields.map fun f => plain (.text f.1)
  | plain (.bytes b) => b.map fun n => plain (.int n.toNat)
  | list items => items
  | plain d => [plain d]
  | record schema value => [record schema value]

/-- The name of the kind of an item. -/
def kind : Item → String
  | plain d => d.kind
  | record schema _ => schema.name
  | list _ => (Data.list []).kind

/-- Whether an item can be a member of a set. -/
def isKey : Item → Bool
  | plain d => d.isKey
  | record schema _ => schema.isKey
  | list _ => false

/-- Whether two items are the same: the same single value, or equal records of one kind. -/
def same : Item → Item → Bool
  | plain d, plain e => d.same e
  | record s x, record t y => if h : s = t then h ▸ x == y else false
  | _, _ => false

/-- The different items among some, if all of them can be members of a set. -/
def distinct (items : List Item) : Except Refusal (List Item) :=
  match items.find? (!·.isKey) with
  | some i => .error (.misused (.notAKey i.kind))
  | none => .ok (items.eraseDupsBy same)

/-! ## Conversions -/

/-- The enumerated value whose word an item is. -/
def toMember (α : Type) [Vocabulary α] : Item → Except Refusal α
  | plain d => Vocabulary.parse α d
  | i => .error (.notAMember i.literal (Vocabulary.family α))

def toAbi : Item → Except Refusal Abi
  | record .abi a => .ok a
  | i => i.toMember Abi

def toTextureFormat : Item → Except Refusal TextureFormat
  | record .textureFormat f => .ok f
  | i => i.toMember TextureFormat

def toSdkVersion : Item → Except Refusal SdkVersion
  | record .sdkVersion v => .ok v
  | i => Schema.sdkVersion.parse (.record [("min", i.asData)])

/-- A number of dots per inch from a whole number or truth value, else a bucket. -/
def toScreenDensity : Item → Except Refusal ScreenDensity
  | record .screenDensity d => .ok d
  | plain (.int n) => Schema.screenDensity.parse (.record [("density_dpi", .int n)])
  | plain (.bool b) => Schema.screenDensity.parse (.record [("density_dpi", .bool b)])
  | i => ScreenDensity.bucket <$> i.toMember DensityBucket

/-- Every item is a language, as long as it can be shown. -/
def toLanguage (i : Item) : Except Refusal String :=
  match i.text with
  | some s => .ok s
  | none => .error .tooLongToShow

/-- A graphics interface has no form but its record. -/
def toGraphicsApi : Item → Checked GraphicsApi
  | record .graphicsApi g => .ok g
  | _ => .reject .notARecord

/-- The value of a dimension that an item stands for. -/
def toValue : (d : Dimension) → Item → Except Refusal d.Value
  | .abi, i => i.toAbi
  | .language, i => i.toLanguage
  | .textureFormat, i => i.toTextureFormat
  | .graphicsApi, i => i.toGraphicsApi.orRefuse .graphicsApi
  | .sdkVersion, i => i.toSdkVersion
  | .screenDensity, i => i.toScreenDensity

/-- Convert several items, each of which has a number. -/
def toGraphicsApis (i : Nat) : List Item → Checked (List GraphicsApi)
  | [] => pure []
  | x :: r => List.cons <$> x.toGraphicsApi.below (.index i) <*> toGraphicsApis (i + 1) r

/-- The part of a targeting record that an item is. -/
def toPart : Item → Except Refusal Targeting.Part
  | record (.dimensionTargeting d) t => .ok ⟨d, t⟩
  | i => .error (.misused (.noDimension i.kind))

end Item

end DeviceSplit
