import DeviceSplit.Literal

set_option autoImplicit false

/-! # Faults of plain data

What can be wrong with plain data that should describe a record, and where. A `Fault` has the way
from the outermost record to the bad place and the `Problem` found there. Most problems concern
the form of one value; a `Rule` is broken by a value whose form is right, or by several values
together. -/

namespace DeviceSplit

/-- One step on the way into plain data. -/
inductive Step where
  | field (name : String)
  | index (i : Nat)
deriving DecidableEq

/-- A condition on values that are well formed one by one. -/
inductive Rule where
  /-- An entry has no path left once its outer slashes are gone. -/
  | emptyPath
  /-- Two entries with this path have different content. -/
  | conflictingEntries (path : String)
  /-- A graphics API has a version for exactly one interface. -/
  | oneGraphicsApi
  /-- A screen density is either a bucket or a number. -/
  | oneDensityForm
  /-- The values with these texts are alternatives as well. -/
  | overlap (texts : List String)
  /-- A message would have to show a number with too many digits. -/
  | tooLongToShow
deriving DecidableEq

/-- The message for a broken rule. -/
def Rule.message : Rule → String
  | .emptyPath => "entry path must not be empty"
  | .conflictingEntries path => "conflicting entries for path '" ++ path ++ "'"
  | .oneGraphicsApi => "exactly one of min_open_gl_version or min_vulkan_version must be set"
  | .oneDensityForm => "exactly one of density_alias or density_dpi must be set"
  | .overlap texts =>
    "values " ++ Literal.list (texts.map Text.quote) ++ " are also listed as alternatives"
  | .tooLongToShow => Text.limitMessage

/-- What is wrong at one place. -/
inductive Problem where
  /-- A required field is absent. -/
  | missing
  | notARecord
  | notText
  | notBytes
  /-- Neither a truth value nor a number or text that could stand for one. -/
  | notFlag
  /-- A number or text that stands for no truth value. -/
  | unreadableFlag
  | notInteger
  /-- A text that holds no whole number. -/
  | unreadableInteger
  /-- A text or floating-point number that stands for too large a whole number to be read. -/
  | oversizedInteger
  /-- A number with a fraction in the place of a whole number. -/
  | fractionalInteger
  /-- A number without a finite value in the place of a whole number. -/
  | infiniteInteger
  /-- A number below the least one allowed. -/
  | belowLeast (least : Nat)
  /-- A number that does not exceed a bound. -/
  | notAbove (bound : Nat)
  | notASequence
  | notASet
  /-- Not a word of an enumeration. -/
  | unknownWord
  /-- Not the name of a logging level. -/
  | unknownLevel
  | broken (rule : Rule)
deriving DecidableEq

/-- A problem and the way to it. -/
structure Fault where
  path : List Step
  problem : Problem
deriving DecidableEq

/-- The fault as seen from one step further out. -/
def Fault.below (s : Step) (f : Fault) : Fault := { f with path := s :: f.path }

end DeviceSplit
