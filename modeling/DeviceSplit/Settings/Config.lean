import DeviceSplit.PlainForm
import DeviceSplit.Severity

set_option autoImplicit false

/-! # Settings

The level of the log, and the policy by which modules are split. Both have defaults. -/

namespace DeviceSplit

/-- Which splits a module is divided into. -/
structure SplitPolicy where
  /-- Whether 64-bit architectures get splits; without, their libraries are left out. -/
  include64Bit : Bool := true
deriving DecidableEq

instance : PlainForm SplitPolicy where
  read := readRecord fun fields =>
    SplitPolicy.mk <$> fields.withDefault "include_64_bit_libs" true readFlag
  write p := .record [("include_64_bit_libs", .bool p.include64Bit)]

structure Config where
  logLevel : Severity := .info
  policy : SplitPolicy := {}
deriving DecidableEq

namespace Config

/-- The name of a logging level, spelled exactly. -/
def readLevel (d : Data) : Checked Severity := readWord .unknownLevel d

instance : PlainForm Config where
  read := readRecord fun fields =>
    Config.mk <$> fields.withDefault "log_level" .info readLevel <*>
      fields.withDefault "splitter" {} read
  write c := .record [("log_level", writeWord c.logLevel), ("splitter", write c.policy)]

end Config

end DeviceSplit
