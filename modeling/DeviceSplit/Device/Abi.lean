import DeviceSplit.PlainForm

set_option autoImplicit false

/-! # Processor architectures

The application binary interfaces that native libraries can be built for. -/

namespace DeviceSplit

inductive Abi where
  | armeabi
  | armeabiV7a
  | arm64V8a
  | x86
  | x86_64
  | mips
  | mips64
deriving DecidableEq

namespace Abi

instance : Vocabulary Abi where
  family := "AbiAlias"
  all := [armeabi, armeabiV7a, arm64V8a, x86, x86_64, mips, mips64]
  word
    | armeabi => "armeabi"
    | armeabiV7a => "armeabi-v7a"
    | arm64V8a => "arm64-v8a"
    | x86 => "x86"
    | x86_64 => "x86_64"
    | mips => "mips"
    | mips64 => "mips64"
  mem_all a := by cases a <;> simp
  word_inj {a b} := by cases a <;> cases b <;> simp

/-- The name of an architecture in messages. -/
def label : Abi → String
  | armeabi => "ARMEABI"
  | armeabiV7a => "ARMEABI_V7A"
  | arm64V8a => "ARM64_V8A"
  | x86 => "X86"
  | x86_64 => "X86_64"
  | mips => "MIPS"
  | mips64 => "MIPS64"

/-- Whether the architecture is a 64-bit one. -/
def is64Bit : Abi → Bool
  | arm64V8a | x86_64 | mips64 => true
  | armeabi | armeabiV7a | x86 | mips => false

instance : Ranked Abi := Vocabulary.ranked Abi

instance : PlainForm Abi where
  read := readRecord (Fields.required "alias" (readWord .unknownWord))
  write a := .record [("alias", writeWord a)]

instance : Shown Abi := Shown.ofFields "Abi" fun a => [("alias", some (Literal.member a.label a))]

end Abi

end DeviceSplit
