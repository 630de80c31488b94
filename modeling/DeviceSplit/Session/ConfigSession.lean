import DeviceSplit.Settings.Cache
import DeviceSplit.Settings.Variables

set_option autoImplicit false

/-! # Sessions on settings

A session holds an environment and the cache of settings. Commands change the environment, clear
the cache, and ask for settings, fresh or cached. -/

namespace DeviceSplit

inductive ConfigCommand where
  | setVariables (given : Variables)
  | clear
  | fresh
  | cached

structure ConfigSession where
  environment : Environment := {}
  cache : ConfigCache := {}

namespace ConfigSession

/-- Carry out one command: the session afterwards and the answer. -/
def perform (s : ConfigSession) : ConfigCommand → Except Refusal (ConfigSession × Data)
  | .setVariables given => do
    let env ← given.environment
    return ({ s with environment := env }, .null)
  | .clear => .ok ({ s with cache := s.cache.clear }, .null)
  | .fresh => do
    let config ← s.environment.config.orRefuse .config
    return (s, write config)
  | .cached => do
    let (object, cache) ← (s.cache.get s.environment).orRefuse .config
    return ({ s with cache := cache },
      .record [("object", .int object.1), ("config", write object.2)])

/-- Carry out commands one after another. -/
def run (s : ConfigSession) : List ConfigCommand → List (Except Refusal Data)
  | [] => []
  | c :: r =>
    match s.perform c with
    | .ok (s', answer) => .ok answer :: s'.run r
    | .error refusal => .error refusal :: s.run r

end ConfigSession

end DeviceSplit
