import DeviceSplit.Literal

set_option autoImplicit false

/-! # Failure reports

A report says what went wrong, in which context, and which setting is to blame, if one is. It may
have a cause: another report, or a foreign failure, about which only its kind and message are
known. Messages and settings are texts as a rule, but any plain value will do. `text` renders a
failure together with its causes, from the outside in; `literal` shows all fields of all of
them. -/

namespace DeviceSplit

/-- The kinds of foreign failure. -/
inductive ForeignKind where
  | unfitValue
  | missingKey
  | breakdown
  /-- Any other kind, by its name and by the text that it makes of a message. -/
  | other (name : String) (render : Data → String)

/-- The name of a kind in literals. -/
def ForeignKind.name : ForeignKind → String
  | .unfitValue => "ValueError"
  | .missingKey => "KeyError"
  | .breakdown => "RuntimeError"
  | .other name _ => name

/-- The text of a foreign failure: its message, as a literal where the message is a key. -/
def ForeignKind.text (kind : ForeignKind) (message : Data) : String :=
  match kind with
  | .missingKey => message.literal
  | .unfitValue | .breakdown => message.show
  | .other _ render => render message

/-- The setting that a failure is blamed on. -/
structure Setting where
  dimension : Data := .text ""
  policy : Data := .text ""
deriving Inhabited

/-- One link in a chain of causes. -/
structure Report where
  message : Data
  /-- What was the case, in order. -/
  context : Facts := []
  /-- The setting to blame, for a failure of configuration. -/
  setting : Option Setting := none
deriving Inhabited

namespace Report

/-- What every report says: its message, its facts if there are any, and the text of its cause if
it has one. -/
def body (r : Report) (cause : Option String) : String :=
  let context := if r.context.isEmpty then "" else " | context: " ++ r.context.literal
  let cause := cause.elim "" fun c => " | caused by: " ++ c
  r.message.show ++ context ++ cause

/-- The text of a report, given that of its cause. A setting to blame leads it, if its dimension
is known. -/
def text (r : Report) (cause : Option String) : String :=
  match r.setting with
  | some s =>
    if s.dimension.isTruthy then
      "[" ++ s.dimension.show ++ "] policy '" ++ s.policy.show ++ "': " ++ r.body cause
    else r.body cause
  | none => r.body cause

/-- The literal of a report, given that of its cause. -/
def literal (r : Report) (cause : String) : String :=
  let fields :=
    [("message", r.message.literal), ("context", r.context.literal), ("cause", cause)]
  match r.setting with
  | some s =>
    Literal.construct "ConfigurationError" (fields ++
      [("dimension", s.dimension.literal), ("policy", s.policy.literal)])
  | none => Literal.construct "BundleSplitError" fields

end Report

inductive Failure where
  | foreign (kind : ForeignKind) (message : Data)
  | report (r : Report)
  | caused (r : Report) (cause : Failure)
deriving Inhabited

namespace Failure

/-- The whole chain of causes as one text. -/
def text : Failure → String
  | foreign kind message => kind.text message
  | report r => r.text none
  | caused r cause => r.text (some cause.text)

/-- A failure with all its fields. -/
def literal : Failure → String
  | foreign kind message => kind.name ++ "(" ++ message.literal ++ ")"
  | report r => r.literal Data.null.literal
  | caused r cause => r.literal cause.literal

/-- Whether a failure is a report rather than a foreign failure. -/
def isReport : Failure → Bool
  | foreign _ _ => false
  | report _ | caused _ _ => true

end Failure

end DeviceSplit
