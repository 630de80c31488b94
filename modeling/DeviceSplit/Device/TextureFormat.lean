import DeviceSplit.PlainForm

set_option autoImplicit false

/-! # Texture compression formats

The formats in which a device's graphics processor takes compressed textures. -/

namespace DeviceSplit

inductive TextureFormat where
  | etc1Rgb8
  | paletted
  | threeDc
  | atc
  | latc
  | dxt1
  | s3tc
  | pvrtc
  | astc
  | etc2
deriving DecidableEq

namespace TextureFormat

instance : Vocabulary TextureFormat where
  family := "TextureCompressionFormatAlias"
  all := [etc1Rgb8, paletted, threeDc, atc, latc, dxt1, s3tc, pvrtc, astc, etc2]
  word
    | etc1Rgb8 => "etc1_rgb8"
    | paletted => "paletted"
    | threeDc => "3dc"
    | atc => "atc"
    | latc => "latc"
    | dxt1 => "dxt1"
    | s3tc => "s3tc"
    | pvrtc => "pvrtc"
    | astc => "astc"
    | etc2 => "etc2"
  mem_all a := by cases a <;> simp
  word_inj {a b} := by cases a <;> cases b <;> simp

/-- The name of a format in messages. -/
def label : TextureFormat → String
  | etc1Rgb8 => "ETC1_RGB8"
  | paletted => "PALETTED"
  | threeDc => "THREE_DC"
  | atc => "ATC"
  | latc => "LATC"
  | dxt1 => "DXT1"
  | s3tc => "S3TC"
  | pvrtc => "PVRTC"
  | astc => "ASTC"
  | etc2 => "ETC2"

instance : Ranked TextureFormat := Vocabulary.ranked TextureFormat

instance : PlainForm TextureFormat where
  read := readRecord (Fields.required "alias" (readWord .unknownWord))
  write f := .record [("alias", writeWord f)]

instance : Shown TextureFormat :=
  Shown.ofFields "TextureCompressionFormat" fun f => [("alias", some (Literal.member f.label f))]

end TextureFormat

end DeviceSplit
