import DeviceSplit.AbiSplit.Request
import DeviceSplit.Proofs.Case
import DeviceSplit.Proofs.ReadBack.Schema

set_option autoImplicit false

/-! # One switch with two readers

Whether 64-bit libraries get splits is said in a record or in the environment. A record knows six words
for each truth value and takes no other text (`SplitPolicy.read_switch_eq_ok_iff`). The environment
trims a text, knows four words that turn the switch on (`Environment.switchIsOn_iff`), and takes every
other text for off. Neither of them minds the case of letters, so only the word counts that a text
spells, and there are two words on which they differ. The main statement is
`Environment.switch_agrees_with_record`. -/

namespace DeviceSplit

/-! ## The switch in a record -/

/-- The words that stand for a truth value in a record. -/
def flagWords : Bool → List String
  | false => ["0", "off", "f", "false", "n", "no"]
  | true => ["1", "on", "t", "true", "y", "yes"]

theorem isPlain_of_mem_flagWords : ∀ b, ∀ w ∈ flagWords b, Text.IsPlain w := by decide

theorem flagOfWord?_eq_some_iff {s : String} {b : Bool} :
    flagOfWord? s = some b ↔ Text.lower s ∈ flagWords b := by
  have hdisjoint : ∀ w ∈ flagWords true, w ∉ flagWords false := by decide
  have hflag : flagOfWord? s =
      if (flagWords false).contains (Text.lower s) then some false
      else if (flagWords true).contains (Text.lower s) then some true else none := rfl
  rw [hflag]
  constructor
  · intro h
    split at h
    · next hoff =>
      obtain rfl := Option.some.inj h
      exact List.contains_iff_mem.1 hoff
    · split at h
      · next hon =>
        obtain rfl := Option.some.inj h
        exact List.contains_iff_mem.1 hon
      · exact absurd h.symm (Option.some_ne_none b)
  · intro h
    cases b with
    | false => rw [if_pos (List.contains_iff_mem.2 h)]
    | true =>
      have hoff : ¬(flagWords false).contains (Text.lower s) = true :=
        fun hoff => hdisjoint _ h (List.contains_iff_mem.1 hoff)
      rw [if_neg hoff, if_pos (List.contains_iff_mem.2 h)]

theorem SplitPolicy.read_switch_eq_ok_iff {s : String} {p : SplitPolicy} :
    read (.record [("include_64_bit_libs", .text s)]) = Checked.ok p ↔
      ∃ w ∈ flagWords p.include64Bit, Text.InAnyCase w s := by
  have hread : (read (.record [("include_64_bit_libs", .text s)]) : Checked SplitPolicy) =
      mk <$> (flagOrReject (flagOfWord? s)).below (.field "include_64_bit_libs") := rfl
  rw [← Text.lower_mem_iff_exists (isPlain_of_mem_flagWords _), ← flagOfWord?_eq_some_iff, hread]
  cases p with
  | mk b =>
    cases flagOfWord? s with
    | none => simp [flagOrReject, Checked.reject, Checked.below]
    | some a => simp [flagOrReject]

namespace Environment

variable {env : Environment} {c : Config} {s t level : String}

/-! ## The switch in the environment -/

/-- The words that turn the switch on in the environment. -/
def switchWords : List String := ["1", "true", "yes", "on"]

theorem isPlain_of_mem_switchWords : ∀ w ∈ switchWords, Text.IsPlain w := by decide

theorem switchIsOn_iff_lower : switchIsOn s = true ↔ Text.lower (Text.trim s) ∈ switchWords :=
  List.contains_iff_mem

theorem switchIsOn_iff : switchIsOn s = true ↔ ∃ w ∈ switchWords, Text.InAnyCase w (Text.trim s) := by
  rw [switchIsOn_iff_lower, Text.lower_mem_iff_exists isPlain_of_mem_switchWords]

/-- The two words on which the readers differ are single letters, so there are four ways to spell
them. -/
theorem exists_inAnyCase_t_y_iff :
    (∃ w ∈ ["t", "y"], Text.InAnyCase w t) ↔ t ∈ ["t", "T", "y", "Y"] := by
  have ht : Text.InAnyCase "t" t ↔ t = "t" ∨ t = "T" := Text.inAnyCase_singleton (l := 't')
  have hy : Text.InAnyCase "y" t ↔ t = "y" ∨ t = "Y" := Text.inAnyCase_singleton (l := 'y')
  simp [ht, hy, or_assoc]

/-! ## The logging level -/

theorem config_eq (env : Environment) :
    env.config =
      match Vocabulary.find? env.levelName with
      | some level => .ok ⟨level, env.policy⟩
      | none => .faulty [⟨[.field "log_level"], .unknownLevel⟩] := by
  rw [config, Config.readLevel, readWord]
  cases Vocabulary.find? (α := Severity) env.levelName with
  | some level => rfl
  | none => rfl

theorem config_eq_ok_iff :
    env.config = .ok c ↔ env.levelName = Vocabulary.word c.logLevel ∧ c.policy = env.policy := by
  rw [config_eq, ← Vocabulary.find?_eq_some_iff]
  cases Vocabulary.find? (α := Severity) env.levelName with
  | some level =>
    cases c with
    | mk logLevel policy => simp [eq_comm]
  | none => simp

theorem config_eq_faulty_iff :
    env.config = .faulty [⟨[.field "log_level"], .unknownLevel⟩] ↔
      ¬∃ a : Severity, env.levelName = Vocabulary.word a := by
  rw [config_eq]
  cases h : Vocabulary.find? (α := Severity) env.levelName with
  | some level => simpa using ⟨level, Vocabulary.find?_eq_some_iff.1 h⟩
  | none =>
    refine iff_of_true rfl ?_
    rintro ⟨a, ha⟩
    exact absurd (h.symm.trans (Vocabulary.find?_eq_some_iff.2 ha)) (Option.some_ne_none a).symm

theorem levelName_of_none (h : env.logLevel = none) :
    env.levelName = Vocabulary.word Severity.info := by
  rw [levelName, h]
  decide

theorem levelName_eq_iff (hset : env.logLevel = some s) (hlevel : Text.Uppercased s level)
    (a : Severity) : env.levelName = Vocabulary.word a ↔ level = Vocabulary.word a := by
  have hascii : Text.InAscii (Vocabulary.word a) := by
    cases a <;> decide
  rw [levelName, hset]
  exact Text.upper_eq_iff hlevel hascii

theorem mem_levelNames_iff :
    level ∈ ["DEBUG", "INFO", "WARNING", "ERROR"] ↔ ∃ a : Severity, level = Vocabulary.word a := by
  constructor
  · intro h
    have hall : ∀ w ∈ ["DEBUG", "INFO", "WARNING", "ERROR"], ∃ a ∈ Vocabulary.all,
        w = Vocabulary.word (α := Severity) a := by decide
    obtain ⟨a, -, ha⟩ := hall level h
    exact ⟨a, ha⟩
  · rintro ⟨a, rfl⟩
    cases a <;> decide

/-- The level has a name if it is left open or given by one of the names, in upper case. -/
theorem exists_levelName_iff (hlevel : ∀ s, env.logLevel = some s → Text.Uppercased s level) :
    (∃ a : Severity, env.levelName = Vocabulary.word a) ↔
      env.logLevel = none ∨ level ∈ ["DEBUG", "INFO", "WARNING", "ERROR"] := by
  cases hset : env.logLevel with
  | none => exact iff_of_true ⟨.info, levelName_of_none hset⟩ (Or.inl rfl)
  | some s =>
    rw [mem_levelNames_iff]
    simp only [levelName_eq_iff hset (hlevel s hset), reduceCtorEq, false_or]

end Environment

/-! ## The policy of a pass -/

namespace PolicySource

variable {env : Environment} {c : Config}

theorem policy_environment {given : Variables} (hgiven : given.environment = .ok env)
    (hc : env.config = .ok c) : (environment given).policy = .ok c.policy := by
  have hconfig : given.config = env.config.orRefuse .config := by
    rw [Variables.config, hgiven]
    rfl
  rw [policy, hconfig, hc]
  rfl

theorem policy_settings_write (c : Config) : (settings (write c)).policy = .ok c.policy := by
  have hread : (read (write c) : Checked Config) = .ok c :=
    Config.readsBack.read_of_written trivial (written_write c)
  have hparse : Schema.config.parse (write c) = .ok c := by
    change Checked.orRefuse Schema.config (read (write c) : Checked Config) = .ok c
    rw [hread]
    rfl
  rw [policy, hparse]
  rfl

end PolicySource

/-! ## The two readers compared -/

namespace Environment

variable {env : Environment} {c : Config} {s level : String}

/-- On a text that the record takes, the readers differ exactly if it is one of two letters. -/
theorem switchIsOn_eq_iff {p : SplitPolicy}
    (hp : read (.record [("include_64_bit_libs", .text (Text.trim s))]) = Checked.ok p) :
    switchIsOn s = p.include64Bit ↔ Text.trim s ∉ ["t", "T", "y", "Y"] := by
  have hwords : ∀ b, ∀ w ∈ flagWords b,
      (decide (w ∈ switchWords) = b ↔ w ∉ ["t", "y"]) := by decide
  have hletters : ∀ w ∈ ["t", "y"], Text.IsPlain w := by decide
  obtain ⟨w, hw, hcase⟩ := SplitPolicy.read_switch_eq_ok_iff.1 hp
  -- All that counts is the word, and there are only twelve of them.
  have hplain := isPlain_of_mem_flagWords _ w hw
  have hon : switchIsOn s = decide (w ∈ switchWords) := by
    rw [Bool.eq_iff_iff, decide_eq_true_iff, switchIsOn_iff,
      hcase.exists_mem_iff hplain isPlain_of_mem_switchWords]
  rw [hon, hwords _ w hw, ← exists_inAnyCase_t_y_iff, hcase.exists_mem_iff hplain hletters]

/-- On these letters the switch is off. -/
theorem switchIsOn_eq_false_of_mem (h : Text.trim s ∈ ["t", "T", "y", "Y"]) :
    switchIsOn s = false := by
  have hunknown : ∀ w ∈ ["t", "y"], Text.IsPlain w ∧ w ∉ switchWords := by decide
  obtain ⟨w, hw, hcase⟩ := exists_inAnyCase_t_y_iff.2 h
  obtain ⟨hplain, hnot⟩ := hunknown w hw
  rw [← Bool.not_eq_true, switchIsOn_iff, hcase.exists_mem_iff hplain isPlain_of_mem_switchWords]
  exact hnot

/-- The record takes every text that turns the switch on. -/
theorem read_of_switchIsOn (h : switchIsOn s = true) :
    read (.record [("include_64_bit_libs", .text (Text.trim s))]) =
      Checked.ok (⟨true⟩ : SplitPolicy) := by
  have hwords : ∀ w ∈ switchWords, w ∈ flagWords true := by decide
  obtain ⟨w, hw, hcase⟩ := switchIsOn_iff.1 h
  exact SplitPolicy.read_switch_eq_ok_iff.2 ⟨w, hwords w hw, hcase⟩

theorem switchIsOn_iff_of_lowercased {word : String} (hword : Text.Lowercased (Text.trim s) word) :
    switchIsOn s = true ↔ word ∈ switchWords := by
  rw [switchIsOn_iff_lower, Text.lower_mem_iff hword]
  exact fun w hw => (isPlain_of_mem_switchWords w hw).inAscii

theorem policy_of_config (hc : env.config = .ok c) (hset : env.include64Bit = some s) :
    c.policy = ⟨switchIsOn s⟩ := by
  rw [(config_eq_ok_iff.1 hc).2, policy, hset]

end Environment

end DeviceSplit
