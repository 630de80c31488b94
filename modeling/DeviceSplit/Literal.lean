import DeviceSplit.Data
import DeviceSplit.Number.Shortest
import DeviceSplit.Text.Integer
import DeviceSplit.Text.Quoted
import DeviceSplit.Vocabulary

set_option autoImplicit false

/-! # Literals

The text of a value inside a message. Plain data are shown as in a configuration script: texts in
quotes, lists in brackets, records in braces, and `None`, `True` and `False` for null and the truth
values. What can stand in messages is shown in two ways (`Shown`): as `text`, which stands alone,
and as `literal`, which stands inside the literal of something larger. Both are missing where a
number has too many digits to be written. -/

namespace DeviceSplit

namespace Literal

/-- Items in brackets, separated by commas. -/
def list (items : List String) : String := "[" ++ ", ".intercalate items ++ "]"

/-- Literals in braces, each after the literal of its key, in their order. -/
def record (fields : List (String × String)) : String :=
  "\x7b" ++ ", ".intercalate (fields.map fun f => f.1 ++ ": " ++ f.2) ++ "\x7d"

def bool : Bool → String
  | true => "True"
  | false => "False"

/-- The assignments of named fields, separated by `separator`. -/
def assignments (separator : String) (fields : List (String × String)) : String :=
  separator.intercalate (fields.map fun f => f.1 ++ "=" ++ f.2)

/-- A value of a named type with its fields in parentheses. -/
def construct (name : String) (fields : List (String × String)) : String :=
  name ++ "(" ++ assignments ", " fields ++ ")"

/-- The fields with their literals, if no literal is missing. -/
def complete (fields : List (String × Option String)) : Option (List (String × String)) :=
  fields.mapM fun f => f.2.map (Prod.mk f.1)

end Literal

mutual

/-- The literal of a plain value. -/
def Data.literal : Data → String
  | .null => "None"
  | .bool b => Literal.bool b
  | .int n => toString n
  | .floating x => x.text
  | .text s => Text.quote s
  | .bytes b => Text.quoteBytes b
  | .list items => Literal.list (literals items)
  | .record fields => Literal.record (literalFields fields)

def Data.literals : List Data → List String
  | [] => []
  | d :: r => d.literal :: literals r

def Data.literalFields : List (String × Data) → List (String × String)
  | [] => []
  | (name, d) :: r => (Text.quote name, d.literal) :: literalFields r

end

/-- The literal of facts, with the literals of their keys. -/
def Facts.literal (facts : Facts) : String :=
  Literal.record (facts.map fun f => (f.1.literal, f.2.literal))

/-- The text of a plain value that stands alone: a text is itself. -/
def Data.show : Data → String
  | .text s => s
  | d => d.literal

mutual

/-- Whether each number in a plain value can be written. -/
def Data.isShowable : Data → Bool
  | .int n => (Text.writeNatural? n.natAbs).isSome
  | .list items => areShowable items
  | .record fields => fieldsShowable fields
  | _ => true

def Data.areShowable : List Data → Bool
  | [] => true
  | d :: r => d.isShowable && areShowable r

def Data.fieldsShowable : List (String × Data) → Bool
  | [] => true
  | (_, d) :: r => d.isShowable && fieldsShowable r

end

/-- A type whose values can stand in messages, unless a number in them is too long. -/
class Shown (α : Type) where
  /-- The value standing alone. -/
  text : α → Option String
  /-- The value inside something larger. -/
  literal : α → Option String

namespace Shown

/-- Values that are shown by the fields of a named type. -/
@[reducible] def ofFields {α : Type} (name : String) (fields : α → List (String × Option String)) :
    Shown α where
  text a := (Literal.complete (fields a)).map (Literal.assignments " ")
  literal a := (Literal.complete (fields a)).map (Literal.construct name)

/-- The literal of what may be absent, given that of what is there. -/
def nullable {α : Type} (shown : α → Option String) : Option α → Option String
  | none => some Data.null.literal
  | some a => shown a

instance : Shown String where
  text s := some s
  literal s := some (Text.quote s)

instance : Shown Data where
  text d := if d.isShowable then some d.show else none
  literal d := if d.isShowable then some d.literal else none

end Shown

/-- The literal of an enumerated value: its enumeration and name, then its word in quotes. -/
def Literal.member {α : Type} [Vocabulary α] (name : String) (a : α) : String :=
  "<" ++ Vocabulary.family α ++ "." ++ name ++ ": " ++ Text.quote (Vocabulary.word a) ++ ">"

end DeviceSplit
