import DeviceSplit.Failure
import DeviceSplit.Misuse
import DeviceSplit.Schema.Basic

set_option autoImplicit false

/-! # Refusals

Why a request gets no answer: a value that belongs to no enumeration, plain data with faults, a
failure of the work itself, a choice among splits that are not there, or a request that makes no
sense with its values. -/

namespace DeviceSplit

inductive Refusal where
  /-- The value with this literal, which may be too long to be shown, is not a member of the
  enumeration. -/
  | notAMember (literal : Option String) (family : String)
  /-- A value that is to be text has a number with too many digits. -/
  | tooLongToShow
  /-- Plain data do not make a record of this kind. -/
  | invalid (schema : Schema) (faults : List Fault)
  | failed (failure : Failure)
  /-- There are only so many splits to choose from. -/
  | noSuchSplit (count : Nat)
  | misused (misuse : Misuse)
deriving Inhabited

namespace Refusal

def message : Refusal → String
  | notAMember (some literal) family => literal ++ " is not a valid " ++ family
  | notAMember none _ | tooLongToShow => Text.limitMessage
  | invalid schema _ => schema.name
  | failed failure => failure.text
  | noSuchSplit count => toString count
  | misused misuse => misuse.message

end Refusal

/-- The value, or the refusal of a record of this kind. -/
def Checked.orRefuse {α : Type} (schema : Schema) : Checked α → Except Refusal α
  | .ok a => .ok a
  | .faulty faults => .error (.invalid schema faults)

end DeviceSplit
