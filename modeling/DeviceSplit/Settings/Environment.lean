import DeviceSplit.Settings.Config
import DeviceSplit.Text.Case

set_option autoImplicit false

/-! # Settings from the environment

Two variables give the settings. The logging level may be in any case but must be one of the
level names otherwise. The switch for 64-bit libraries is on for four words, in any case and with
blanks around them, and off for every other text: it never makes the settings fail. -/

namespace DeviceSplit

/-- The texts of the variables that are set. -/
structure Environment where
  logLevel : Option String := none
  include64Bit : Option String := none
deriving DecidableEq

namespace Environment

/-- Whether the text of a switch turns it on. -/
def switchIsOn (s : String) : Bool :=
  ["1", "true", "yes", "on"].contains (Text.lower (Text.trim s))

/-- The policy for 64-bit libraries: that of the switch, or the default. -/
def policy (env : Environment) : SplitPolicy :=
  match env.include64Bit with
  | some s => ⟨switchIsOn s⟩
  | none => {}

/-- The name of the logging level, in upper case. -/
def levelName (env : Environment) : String :=
  Text.upper (env.logLevel.getD (Vocabulary.word Severity.info))

/-- The settings, if the logging level has a name. -/
def config (env : Environment) : Checked Config :=
  (fun level => ⟨level, env.policy⟩) <$>
    (Config.readLevel (.text env.levelName)).below (.field "log_level")

end Environment

end DeviceSplit
