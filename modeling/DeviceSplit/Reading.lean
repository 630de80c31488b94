import DeviceSplit.Module.Content

set_option autoImplicit false

/-! # Values in requests

What requests give as plain data is read as values of the library, or the request is refused. Of
several values, the first that cannot be read decides the refusal. -/

namespace DeviceSplit

/-- The values that plain data hold together: the members of a list, the names of a record, the
characters of a text. -/
def Data.elements : Data → Except Refusal (List Data)
  | .list items => .ok items
  | .record fields => .ok (fields.map fun f => .text f.1)
  | .text s => .ok (s.toList.map fun c => .text c.toString)
  | d => .error (.misused (.notSeveral d.kind))

/-! ## Records -/

/-- Plain data for a kind of record, with the content of entries as bytes. -/
def Schema.prepare : Schema → Data → Except Refusal Data
  | moduleEntry, d => entryWithContent d
  | moduleSplit, .record fields => .record <$> Fields.withContents fields
  | _, d => .ok d

/-- Read a record of a kind. -/
def Schema.parse (s : Schema) (d : Data) : Except Refusal s.Carrier := do
  let prepared ← s.prepare d
  (read prepared : Checked s.Carrier).orRefuse s

/-- Read several records of a kind. -/
def Schema.parseAll (s : Schema) (d : Data) : Except Refusal (List s.Carrier) := do
  let items ← d.elements
  items.mapM s.parse

/-- How many different records there are among some. -/
def Schema.distinct (s : Schema) (records : List s.Carrier) : Except Refusal Nat :=
  if s.isKey then .ok records.eraseDups.length else .error (.misused (.notAKey s.name))

/-! ## Facts and enumerated values -/

/-- Facts from pairs of a key and a value, if all keys can be keys. -/
def Facts.parse (pairs : List (Data × Data)) : Except Refusal Facts :=
  match pairs.find? (!·.1.isKey) with
  | some p => .error (.misused (.notAKey p.1.kind))
  | none => .ok (.ofPairs pairs)

/-- The enumerated value that plain data name. -/
def Vocabulary.parse (α : Type) [Vocabulary α] (d : Data) : Except Refusal α :=
  match d with
  | .text s =>
    match find? s with
    | some a => .ok a
    | none => .error (.notAMember (Shown.literal d) (family α))
  | _ => .error (.notAMember (Shown.literal d) (family α))

/-! ## Targetings of one dimension -/

/-- A targeting of one dimension: the dimension is looked up before the fields are read. -/
def Targeting.Part.parse (dimension fields : Data) : Except Refusal Targeting.Part := do
  let d ← Vocabulary.parse Dimension dimension
  let x ← (Schema.dimensionTargeting d).parse fields
  return ⟨d, x⟩

end DeviceSplit
