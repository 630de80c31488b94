import DeviceSplit.Settings.Environment

set_option autoImplicit false

/-! # Cached settings

Settings are read from the environment once and kept until the cache is cleared. Each reading that
succeeds makes a new object, and objects are numbered in the order in which they are made, so that
two answers can be told to be one object. -/

namespace DeviceSplit

structure ConfigCache where
  /-- The object that is kept, with its number. -/
  kept : Option (Nat × Config) := none
  /-- How many objects have been made. -/
  made : Nat := 0

namespace ConfigCache

/-- Forget the object that is kept. -/
def clear (c : ConfigCache) : ConfigCache := { c with kept := none }

/-- The settings that are kept, or else those of the environment, which are then kept. A reading
that fails changes nothing. -/
def get (c : ConfigCache) (env : Environment) : Checked ((Nat × Config) × ConfigCache) :=
  match c.kept with
  | some object => .ok (object, c)
  | none =>
    (fun config => ((c.made, config), ⟨some (c.made, config), c.made + 1⟩)) <$> env.config

end ConfigCache

end DeviceSplit
