import DeviceSplit.Number.Floating

set_option autoImplicit false

/-! # Plain data

Every record of this library can be written out as plain data and read back. Plain data are the
values of a configuration file: null, truth values, whole numbers of any size, floating-point
numbers, text, bytes, lists, and records whose fields keep their order. Two single values of
different form may be the same value (`Data.same`): numbers are compared by their value, and the
truth values count as the numbers 0 and 1. -/

namespace DeviceSplit

/-- A plain value, with no knowledge of what it describes. -/
inductive Data where
  | null
  | bool (b : Bool)
  | int (n : Int)
  | floating (x : Floating)
  | text (s : String)
  | bytes (b : List UInt8)
  | list (items : List Data)
  | record (fields : List (String × Data))
deriving Inhabited

/-- The named values of a record. Where a name occurs twice, the first occurrence counts. -/
abbrev Fields := List (String × Data)

namespace Data

/-- The name of the kind of a value. -/
def kind : Data → String
  | null => "NoneType"
  | bool _ => "bool"
  | int _ => "int"
  | floating _ => "float"
  | text _ => "str"
  | bytes _ => "bytes"
  | list _ => "list"
  | record _ => "dict"

/-- Whether a value can be the key of a fact or a member of a set: the single values can. -/
def isKey : Data → Bool
  | list _ | record _ => false
  | null | bool _ | int _ | floating _ | text _ | bytes _ => true

/-- Whether a value counts as true: nothing, zero and what is empty do not. -/
def isTruthy : Data → Bool
  | null => false
  | bool b => b
  | int n => n != 0
  | floating x => x.whole? != some 0
  | text s => s != ""
  | bytes b => !b.isEmpty
  | list items => !items.isEmpty
  | record fields => !fields.isEmpty

/-- The whole number that a single value equals, if it equals one. -/
def wholeNumber? : Data → Option Int
  | bool b => some (if b then 1 else 0)
  | int n => some n
  | floating x => x.whole?
  | null | text _ | bytes _ | list _ | record _ => none

/-- Whether two single values are the same. A list or record is no single value. -/
def same (a b : Data) : Bool :=
  match a.wholeNumber?, b.wholeNumber? with
  | some m, some n => m == n
  | none, none =>
    match a, b with
    | null, null => true
    | floating x, floating y => x == y
    | text s, text t => s == t
    | bytes b, bytes c => b == c
    | _, _ => false
  | _, _ => false

end Data

/-- Facts about something, each with a single value as its key, in order. -/
abbrev Facts := List (Data × Data)

namespace Facts

/-- Put a fact in the place of the fact with the same key, or at the end if there is none. The
key that came first stays. -/
def put (key value : Data) : Facts → Facts
  | [] => [(key, value)]
  | f :: r => if f.1.same key then (f.1, value) :: r else f :: put key value r

/-- The facts that pairs make: a repeated key keeps its first place and takes its last value. -/
def ofPairs (pairs : List (Data × Data)) : Facts :=
  pairs.foldl (fun facts p => facts.put p.1 p.2) []

end Facts

end DeviceSplit
