import DeviceSplit.AbiSplit.Request

set_option autoImplicit false

/-! # Scopes of nested actions

Actions run inside scopes, and a scope ends with the actions that it was opened for, also when
they break down. A breakdown passes through all scopes up to the next attempt, or ends the whole
run. What the actions observe on the way is kept in order. -/

namespace DeviceSplit

inductive ScopedAction where
  /-- Observe what is bound in the scope in force. -/
  | observe
  | within (moduleName dimension : Data) (body : List ScopedAction)
  | breakDown (message : Data)
  /-- Run actions up to their end or their breakdown. -/
  | attempt (body : List ScopedAction)
  | split (module : Data) (policy : PolicySource)
deriving Inhabited

inductive Observation where
  | scope (bound : Fields)
  | caught (message : String)
  | log (records : List LogRecord)

/-- What was observed, and why the run ended early, if it did. -/
structure ScopeTrace where
  observations : List Observation
  stop : Option Refusal := none

namespace ScopeTrace

/-- The trace of an attempt: a breakdown ends here and is observed, anything else goes on. -/
def caught (t : ScopeTrace) : ScopeTrace :=
  match t.stop with
  | some (.failed (.foreign .breakdown message)) => ⟨t.observations ++ [.caught message.show], none⟩
  | _ => t

/-- Dividing a module: the log is observed whether the pass succeeds or not, and it is empty when
the policy has faults. A request without an answer ends the run. -/
def ofSplit (module : Data) (policy : PolicySource) (level : Severity) : ScopeTrace :=
  match Schema.moduleSplit.parse module >>= (·.answer policy level) with
  | .error refusal => ⟨[], some refusal⟩
  | .ok a => ⟨[.log a.log], none⟩

end ScopeTrace

mutual

/-- The trace of one action in a scope. -/
def ScopedAction.trace (level : Severity) (bound : Fields) : ScopedAction → ScopeTrace
  | .observe => ⟨[.scope bound], none⟩
  | .within moduleName dimension body =>
    traces level [("module", moduleName), ("dimension", dimension)] body
  | .breakDown message => ⟨[], some (.failed (.foreign .breakdown message))⟩
  | .attempt body => (traces level bound body).caught
  | .split module policy => .ofSplit module policy level

/-- The trace of actions one after another, up to the first that ends the run. -/
def ScopedAction.traces (level : Severity) (bound : Fields) :
    List ScopedAction → ScopeTrace
  | [] => ⟨[], none⟩
  | a :: r =>
    let first := a.trace level bound
    match first.stop with
    | some _ => first
    | none =>
      let rest := traces level bound r
      ⟨first.observations ++ rest.observations, rest.stop⟩

end

/-- Run actions outside any scope, and observe at the end that none is in force. -/
def scopeTrace (level : LevelSource) (body : List ScopedAction) :
    Except Refusal (List Observation) := do
  let l ← level.level
  let t := ScopedAction.traces l [] (body ++ [.observe])
  match t.stop with
  | some refusal => .error refusal
  | none => return t.observations

end DeviceSplit
