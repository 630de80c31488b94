import DeviceSplit.Vocabulary

set_option autoImplicit false

/-! # Severity

How much an event matters, from details for a developer to failures. A log is kept from a given
severity upwards. -/

namespace DeviceSplit

inductive Severity where
  | debug
  | info
  | warning
  | error
deriving DecidableEq

namespace Severity

/-- The names of logging levels in settings. -/
instance : Vocabulary Severity where
  family := "log_level"
  all := [debug, info, warning, error]
  word
    | debug => "DEBUG"
    | info => "INFO"
    | warning => "WARNING"
    | error => "ERROR"
  mem_all a := by cases a <;> simp
  word_inj {a b} := by cases a <;> cases b <;> simp

/-- The name of a severity on an event. -/
def label : Severity → String
  | debug => "debug"
  | info => "info"
  | warning => "warning"
  | error => "error"

/-- The position of a severity from the least upwards. -/
def order : Severity → Nat
  | debug => 0
  | info => 1
  | warning => 2
  | error => 3

/-- Whether an event of severity `s` is kept in a log of the given level. -/
def passes (level s : Severity) : Bool := level.order ≤ s.order

theorem passes_debug (s : Severity) : passes debug s = true := by
  cases s <;> rfl

end Severity

end DeviceSplit
