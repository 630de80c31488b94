import DeviceSplit.Text.Blank

set_option autoImplicit false

/-! # Whole numbers in text

A text holds a whole number when it is the plain form of one: a minus sign for a negative number,
then its decimal digits. Some additions are overlooked (`plainForm`): white space around the
number, a plus sign, zeros in front, a fraction of zeros, and underscores between digits. No number
of more than `digitLimit` digits is read, and a text that begins with the plain form of such a
number is too long whatever follows. No such number is written either, wherever it comes from
(`writeNatural?`). -/

namespace DeviceSplit.Text

/-- Why no number was read from a text. -/
inductive Illegible where
  /-- The text holds no whole number. -/
  | noNumber
  /-- The text begins like a number, but a longer one than is read. -/
  | tooLong
deriving DecidableEq

/-- The number of digits that a number may have. -/
def digitLimit : Nat := 4300

/-- The value of decimal digits, most significant first. -/
def ofDigits (ds : List Char) : Nat :=
  ds.foldl (fun n c => 10 * n + (c.toNat - '0'.toNat)) 0

/-! ## The plain form -/

/-- Read the plain form of a natural number: no zero stands in front of another digit. -/
def natural? (cs : List Char) : Option Nat :=
  if cs = ['0'] then some 0
  else if cs.head?.all (· == '0') || !cs.all Char.isDigit || digitLimit < cs.length then none
  else some (ofDigits cs)

/-- Read the plain form of a whole number. -/
def plain? : List Char → Option Int
  | '-' :: r => (natural? r).map fun n => -(n : Int)
  | cs => (natural? cs).map fun n => (n : Int)

/-- The digits that follow a minus sign, or nothing, at the front of a text. -/
def leadingDigits : List Char → List Char
  | '-' :: r => r.takeWhile Char.isDigit
  | cs => cs.takeWhile Char.isDigit

/-- Whether a text begins with the plain form of a number that has too many digits. -/
def beginsTooLong (cs : List Char) : Bool :=
  let ds := leadingDigits cs
  digitLimit < ds.length && ds.head? != some '0'

/-! ## What is overlooked -/

/-- Drop a plus sign in front of anything but a minus sign. -/
def dropPlus : List Char → List Char
  | '+' :: '-' :: r => '+' :: '-' :: r
  | '+' :: r => r
  | cs => cs

/-- Go on after a leading zero, or an underscore among leading zeros, up to the first other digit
or a minus sign. Where neither follows, the character before, `last`, has to stand for the digits
of the number. -/
def dropZerosAfter (last : Char) : List Char → List Char
  | [] => [last]
  | c :: r =>
    if c = '0' ∨ c = '_' then dropZerosAfter c r
    else if c = '-' ∨ c.isDigit then c :: r
    else last :: c :: r

/-- Drop the zeros in front of a number, and the underscores among them. -/
def dropZeros : List Char → List Char
  | '0' :: r => dropZerosAfter '0' r
  | cs => cs

/-- Drop a point with zeros after it, of which there must be one at least. -/
def dropFraction (cs : List Char) : List Char :=
  let fraction := (cs.dropWhile (· != '.')).drop 1
  if !fraction.isEmpty && fraction.all (· == '0') then cs.takeWhile (· != '.') else cs

/-- Whether no underscore stands at the front, at the end, or next to another one. -/
def singleUnderscores (cs : List Char) : Bool :=
  cs.head? != some '_' && cs.getLast? != some '_' && (cs.zip cs.tail).all (· != ('_', '_'))

/-- Drop the underscores of a number, if all of them are inside and single. -/
def dropUnderscores (cs : List Char) : List Char :=
  if singleUnderscores cs then cs.filter (· != '_') else cs

/-- The digits of a number without what is overlooked. -/
def plainDigits (cs : List Char) : List Char := dropUnderscores (dropFraction (dropZeros cs))

/-- The plain form of the number in a text, if the text holds one. -/
def plainForm (cs : List Char) : List Char :=
  match dropPlus (trimBy isSpace cs) with
  | '-' :: r => '-' :: plainDigits r
  | r => plainDigits r

/-- The whole number that a text holds. -/
def readInteger (s : String) : Except Illegible Int :=
  if beginsTooLong s.toList then .error .tooLong
  else
    match plain? (plainForm s.toList) with
    | some n => .ok n
    | none => .error .noNumber

/-! ## Written numbers -/

/-- The decimal digits of a number, unless it has more of them than a number may have. -/
def writeNatural? (n : Nat) : Option String :=
  if (toString n).length ≤ digitLimit then some (toString n) else none

/-- The message of a failure to write a number. -/
def limitMessage : String :=
  "Exceeds the limit (" ++ toString digitLimit ++ " digits) for integer string conversion; " ++
    "use sys.set_int_max_str_digits() to increase the limit"

end DeviceSplit.Text
