import DeviceSplit.Refusal
import DeviceSplit.Text.Hex

set_option autoImplicit false

/-! # Content in hexadecimal

A request may give the content of an entry in hexadecimal, under a name of its own. It then counts
in place of any other content of the entry. -/

namespace DeviceSplit

/-- The bytes that a value gives in hexadecimal. -/
def readHex : Data → Except Refusal (List UInt8)
  | .text s => (Text.hexBytes s.toList).mapError fun position => .misused (.notHex position)
  | d => .error (.misused (.notHexText d))

/-- The fields of an entry, with its content as bytes if it is given in hexadecimal. -/
def Fields.withContent (fields : Fields) : Except Refusal Fields :=
  match fields.lookup "content_hex" with
  | some d => (fun b => ("content", .bytes b) :: fields) <$> readHex d
  | none => .ok fields

/-- Content as bytes in an entry; what is no record is left as it is. -/
def entryWithContent : Data → Except Refusal Data
  | .record fields => .record <$> Fields.withContent fields
  | d => .ok d

/-- Content as bytes in all entries that the fields of a module split list. -/
def Fields.withContents (fields : Fields) : Except Refusal Fields :=
  fields.mapM fun f =>
    match f with
    | ("entries", .list entries) =>
      (fun es => ("entries", .list es)) <$> entries.mapM entryWithContent
    | _ => .ok f

end DeviceSplit
