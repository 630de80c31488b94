import DeviceSplit.AbiSplit.Basic
import DeviceSplit.Reading
import DeviceSplit.Settings.Variables

set_option autoImplicit false

/-! # Requests to split

A request names its policy and its logging level in one of several ways, each of which can be
wrong. The level is settled before the policy. A request whose policy has faults is answered with
an empty log, and one that misuses the variables of the environment gets no answer. -/

namespace DeviceSplit

/-- Where the policy of a pass comes from. -/
inductive PolicySource where
  | standard
  | switch (include64Bit : Data)
  | settings (config : Data)
  | environment (given : Variables)

/-- The policy that a source gives. -/
def PolicySource.policy : PolicySource → Except Refusal SplitPolicy
  | standard => .ok {}
  | switch include64Bit => .ok ⟨include64Bit.isTruthy⟩
  | settings config => Config.policy <$> Schema.config.parse config
  | environment given => Config.policy <$> given.config

/-- Where the level of a log comes from. -/
inductive LevelSource where
  | named (level : Data)
  | environment (given : Variables)

/-- The level that a source gives. -/
def LevelSource.level : LevelSource → Except Refusal Severity
  | named level => Config.logLevel <$> Schema.config.parse (.record [("log_level", level)])
  | environment given => Config.logLevel <$> given.config

/-- The splits or the reason why there are none, with the log of the pass. -/
structure SplitAnswer where
  outcome : Except Refusal (List ModuleSplit)
  log : List LogRecord

/-- Divide a module under the policy of a source. -/
def ModuleSplit.answer (m : ModuleSplit) (source : PolicySource) (level : Severity) :
    Except Refusal SplitAnswer :=
  match source.policy with
  | .ok policy => .ok ⟨((m.splitByAbi policy).run level).1, m.splitLog policy level⟩
  | .error (.misused misuse) => .error (.misused misuse)
  | .error refusal => .ok ⟨.error refusal, []⟩

/-- Read a module and divide it. -/
def answerSplit (module : Data) (level : LevelSource) (policy : PolicySource) :
    Except Refusal SplitAnswer := do
  let m ← Schema.moduleSplit.parse module
  let l ← level.level
  m.answer policy l

end DeviceSplit
