import DeviceSplit.Data
import DeviceSplit.Text.Quoted

set_option autoImplicit false

/-! # Misuse

Some requests make no sense with the values that they come with: a list has no place in a set, a
factory has no use for a third argument, a variable cannot hold a null character. No field of a
record is at fault then, so nothing but the misuse itself is reported. -/

namespace DeviceSplit

inductive Misuse where
  /-- A value of this kind is to hold several values. -/
  | notSeveral (kind : String)
  /-- A value of this kind is to be a member of a set, or the key of a fact. -/
  | notAKey (kind : String)
  /-- A value of this kind is to set a dimension of a targeting record. -/
  | noDimension (kind : String)
  /-- A value of this kind is to name a directory. -/
  | notAPath (kind : String)
  /-- Something other than text is to give bytes in hexadecimal. -/
  | notHexText (value : Data)
  /-- The character at this position is out of place in hexadecimal. -/
  | notHex (position : Nat)
  /-- A value of this kind is to be compared with a number. -/
  | notANumber (kind : String)
  /-- A number of this kind is to count splits. -/
  | notACount (kind : String)
  /-- A value of this kind is to be the text of a variable. -/
  | notText (kind : String)
  /-- The text of a variable has a null character in it. -/
  | nullCharacter
  /-- The argument for this parameter of a factory is left out. -/
  | missingArgument (factory parameter : String)
  /-- A factory that takes `least` to `most` arguments is given more. -/
  | surplusArguments (factory : String) (least most given : Nat)
  /-- A module split is to be changed under the name that stands for itself. -/
  | changeOfSelf

namespace Misuse

/-- The numbers of arguments that a factory takes. -/
def range (least most : Nat) : String :=
  if least < most then "from " ++ toString least ++ " to " ++ toString most ++
    " positional arguments"
  else if most = 1 then "1 positional argument"
  else toString most ++ " positional arguments"

def message : Misuse → String
  | notSeveral kind => Text.quote kind ++ " object is not iterable"
  | notAKey kind => "unhashable type: " ++ Text.quote kind
  | noDimension kind => Text.quote kind ++ " object has no attribute 'dimension'"
  | notAPath kind => Text.quote kind ++ " object has no attribute 'replace'"
  | notHexText .null => "fromhex() argument must be str, not None"
  | notHexText value => "fromhex() argument must be str, not " ++ value.kind
  | notHex position =>
    "non-hexadecimal number found in fromhex() arg at position " ++ toString position
  | notANumber kind => "'<=' not supported between instances of 'int' and " ++ Text.quote kind
  | notACount kind => "list indices must be integers or slices, not " ++ kind
  | notText kind => "str expected, not " ++ kind
  | nullCharacter => "embedded null byte"
  | missingArgument factory parameter =>
    factory ++ "() missing 1 required positional argument: " ++ Text.quote parameter
  | surplusArguments factory least most given =>
    factory ++ "() takes " ++ range least most ++ " but " ++ toString given ++ " were given"
  | changeOfSelf => "ModuleSplit.with_changes() got multiple values for argument 'self'"

end Misuse

end DeviceSplit
