import DeviceSplit.Checked
import DeviceSplit.SortedSet
import DeviceSplit.Text.Case
import DeviceSplit.Text.Integer

set_option autoImplicit false

/-! # Reading and writing plain data

`PlainForm` is the class of types that are read from plain data, with all faults collected, and
written out again. Reading is generous where a value has an obvious meaning: a truth value may
stand for a number and a number or a word for a truth value, a text may hold a number, and a
record may lack a field that has a default or hold fields that mean nothing. Writing has one form
only, and reading it back gives the same value. -/

namespace DeviceSplit

/-- A type with a plain form. -/
class PlainForm (α : Type) where
  read : Data → Checked α
  write : α → Data

export PlainForm (read write)

/-! ## Single values -/

def readText : Data → Checked String
  | .text s => .ok s
  | _ => .reject .notText

/-- Bytes; a text stands for its UTF-8 encoding. -/
def readBytes : Data → Checked (List UInt8)
  | .bytes b => .ok b
  | .text s => .ok s.toUTF8.data.toList
  | _ => .reject .notBytes

/-- The truth value of a whole number: only 0 and 1 have one. -/
def flagOfInt? (n : Int) : Option Bool :=
  if n = 0 then some false else if n = 1 then some true else none

/-- The truth value that a word stands for, in any mixture of upper and lower case. -/
def flagOfWord? (s : String) : Option Bool :=
  let w := Text.lower s
  if ["0", "off", "f", "false", "n", "no"].contains w then some false
  else if ["1", "on", "t", "true", "y", "yes"].contains w then some true
  else none

/-- A value, or an unreadable flag in its place. -/
def flagOrReject : Option Bool → Checked Bool
  | some b => .ok b
  | none => .reject .unreadableFlag

/-- The bound that whole numbers keep, in size, if they stand for something else or something else
stands for them. -/
def wordBound : Int := Nat.pow 2 63

/-- The whole number that a floating-point number stands for: one that equals it, and is smaller
than the bound in size. -/
def readFloating (x : Floating) : Checked Int :=
  match x.whole? with
  | some n => if -wordBound < n ∧ n < wordBound then .ok n else .reject .oversizedInteger
  | none =>
    match x with
    | .finite _ _ => .reject .fractionalInteger
    | .infinite _ | .undefined => .reject .infiniteInteger

/-- A truth value, or a number or word that stands for one. A number is a candidate only if it is
whole and keeps the bound. -/
def readFlag : Data → Checked Bool
  | .bool b => .ok b
  | .int n =>
    if -wordBound ≤ n ∧ n < wordBound then flagOrReject (flagOfInt? n) else .reject .notFlag
  | .floating x =>
    match readFloating x with
    | .ok n => flagOrReject (flagOfInt? n)
    | .faulty _ => .reject .notFlag
  | .text s => flagOrReject (flagOfWord? s)
  | _ => .reject .notFlag

/-- A whole number, or a truth value, floating-point number or text that stands for one. -/
def readInteger : Data → Checked Int
  | .int n => .ok n
  | .bool b => .ok (if b then 1 else 0)
  | .floating x => readFloating x
  | .text s =>
    match Text.readInteger s with
    | .ok n => .ok n
    | .error .noNumber => .reject .unreadableInteger
    | .error .tooLong => .reject .oversizedInteger
  | _ => .reject .notInteger

/-- A whole number that is at least `least`. -/
def readAtLeast (least : Nat) (d : Data) : Checked Nat :=
  (readInteger d).andThen fun n =>
    if n < least then .reject (.belowLeast least) else .ok n.toNat

/-- A whole number above `bound`. -/
def readAbove (bound : Nat) (d : Data) : Checked Nat :=
  (readInteger d).andThen fun n =>
    if n ≤ bound then .reject (.notAbove bound) else .ok n.toNat

/-- A word of an enumeration; anything else is the given problem. -/
def readWord {α : Type} [Vocabulary α] (problem : Problem) : Data → Checked α
  | .text s =>
    match Vocabulary.find? s with
    | some a => .ok a
    | none => .reject problem
  | _ => .reject problem

def writeWord {α : Type} [Vocabulary α] (a : α) : Data := .text (Vocabulary.word a)

/-! ## Several values -/

variable {α : Type}

/-- Read items one by one, the first of which has the number `i`. -/
def readItems (read : Data → Checked α) (i : Nat) : List Data → Checked (List α)
  | [] => pure []
  | d :: r => List.cons <$> (read d).below (.index i) <*> readItems read (i + 1) r

/-- A list, in order. -/
def readSequence (read : Data → Checked α) : Data → Checked (List α)
  | .list items => readItems read 0 items
  | _ => .reject .notASequence

/-- A list of members, in any order and with repetitions. -/
def readSet [Ranked α] (read : Data → Checked α) : Data → Checked (SortedSet α)
  | .list items => SortedSet.ofList <$> readItems read 0 items
  | _ => .reject .notASet

/-- A value or null. -/
def readNullable (read : Data → Checked α) : Data → Checked (Option α)
  | .null => .ok none
  | d => some <$> read d

/-- The plain form of a value that may be absent. -/
def writeNullable (write : α → Data) : Option α → Data
  | none => .null
  | some a => write a

/-! ## Records -/

/-- A record, whose fields are read by `f`. -/
def readRecord (f : Fields → Checked α) : Data → Checked α
  | .record fields => f fields
  | _ => .reject .notARecord

/-- A field that has to be there. -/
def Fields.required (name : String) (read : Data → Checked α) (fields : Fields) : Checked α :=
  Checked.below (.field name) <|
    match fields.lookup name with
    | some d => read d
    | none => .reject .missing

/-- A field with a default. -/
def Fields.withDefault (name : String) (default : α) (read : Data → Checked α)
    (fields : Fields) : Checked α :=
  match fields.lookup name with
  | some d => (read d).below (.field name)
  | none => .ok default

/-- A field that may be absent or null. -/
def Fields.optional (name : String) (read : Data → Checked α) (fields : Fields) :
    Checked (Option α) :=
  Fields.withDefault name none (readNullable read) fields

instance : PlainForm String where
  read := readText
  write := .text

/-! ## Laws -/

theorem readWord_writeWord [Vocabulary α] (problem : Problem) (a : α) :
    readWord problem (writeWord a) = .ok a := by
  simp [writeWord, readWord, Vocabulary.find?_word]

theorem readInteger_int (n : Int) : readInteger (.int n) = .ok n := rfl

theorem readAtLeast_int {least n : Nat} (h : least ≤ n) : readAtLeast least (.int n) = .ok n := by
  have hn : ¬((n : Int) < least) := by omega
  simp [readAtLeast, readInteger_int, hn]

theorem readAbove_int {bound n : Nat} (h : bound < n) : readAbove bound (.int n) = .ok n := by
  have hn : ¬((n : Int) ≤ bound) := by omega
  simp [readAbove, readInteger_int, hn]

/-- What is read is never below the bound. -/
theorem le_of_readAtLeast {least n : Nat} {d : Data} (h : readAtLeast least d = .ok n) :
    least ≤ n := by
  obtain ⟨i, -, hi⟩ := Checked.andThen_eq_ok.1 h
  split at hi
  · exact nomatch hi
  · obtain rfl := Checked.ok.inj hi
    omega

/-- What is read always exceeds the bound. -/
theorem lt_of_readAbove {bound n : Nat} {d : Data} (h : readAbove bound d = .ok n) :
    bound < n := by
  obtain ⟨i, -, hi⟩ := Checked.andThen_eq_ok.1 h
  split at hi
  · exact nomatch hi
  · obtain rfl := Checked.ok.inj hi
    omega

theorem readNullable_of_ne_null {read : Data → Checked α} {d : Data} (h : d ≠ .null) :
    readNullable read d = some <$> read d := by
  cases d with
  | null => exact absurd rfl h
  | _ => rfl

end DeviceSplit
