import DeviceSplit.Failure

set_option autoImplicit false

/-! # Chains of causes

The text of a failure is put together from the inside out: each report is handed the finished text
of its cause, and a setting to blame goes in front of all of that. Read from the outside in, it is
nevertheless one segment for each failure of the chain, whatever kinds of failure the chain mixes,
and the lead of a report stands directly in front of its own message. The main statement is
`Failure.text_eq_segments`. -/

namespace DeviceSplit

/-! ## The segment of a report -/

namespace Report

/-- The lead of a report: the setting to blame, exactly where there is one and its dimension is
not empty. -/
def lead (r : Report) : String :=
  match r.setting with
  | some s =>
    if s.dimension.isTruthy then
      "[" ++ s.dimension.show ++ "] policy '" ++ s.policy.show ++ "': "
    else ""
  | none => ""

/-- The context of a report, exactly where it is not empty. -/
def contextPart (r : Report) : String :=
  match r.context with
  | [] => ""
  | context@(_ :: _) => " | context: " ++ context.literal

/-- What a report says by itself, without its cause. -/
def segment (r : Report) : String := r.lead ++ r.message.show ++ r.contextPart

theorem body_eq (r : Report) (cause : Option String) :
    r.body cause = r.message.show ++ r.contextPart ++
      cause.elim "" fun c => " | caused by: " ++ c := by
  cases h : r.context with
  | nil => simp [body, contextPart, h]
  | cons fact facts => simp [body, contextPart, h]

/-- Whether or not there is a lead, it stands in front of the message and the cause behind the
context. -/
theorem text_eq_lead_append (r : Report) (cause : Option String) :
    r.text cause = r.lead ++ r.body cause := by
  cases h : r.setting with
  | none => simp [text, lead, h]
  | some s =>
    by_cases known : s.dimension.isTruthy = true
    · simp [text, lead, h, known]
    · simp [text, lead, h, known]

theorem text_none (r : Report) : r.text none = r.segment := by
  simp [text_eq_lead_append, body_eq, segment, String.append_assoc]

theorem text_some (r : Report) (cause : String) :
    r.text (some cause) = r.segment ++ " | caused by: " ++ cause := by
  simp [text_eq_lead_append, body_eq, segment, String.append_assoc]

end Report

/-! ## The chain -/

namespace Failure

/-- A failure, its cause, the cause of that, and so on, to a report without a cause or a foreign
failure. -/
def chain : Failure → List Failure
  | foreign kind message => [foreign kind message]
  | report r => [report r]
  | caused r cause => caused r cause :: cause.chain

/-- What a failure says by itself: the text of its kind for a foreign one, even if that is
empty. -/
def segment : Failure → String
  | foreign kind message => kind.text message
  | report r | caused r _ => r.segment

theorem chain_ne_nil (f : Failure) : f.chain ≠ [] := by
  cases f <;> simp [chain]

/-- The text of a failure is that of all failures of its chain, in their order. -/
theorem text_eq_segments (f : Failure) :
    f.text = " | caused by: ".intercalate (f.chain.map segment) := by
  induction f with
  | foreign kind message => simp [text, chain, segment]
  | report r => simp [text, chain, segment, Report.text_none]
  | caused r cause ih =>
    have hne : cause.chain.map segment ≠ [] := by simpa using cause.chain_ne_nil
    calc (caused r cause).text
        = r.segment ++ " | caused by: " ++ cause.text := r.text_some cause.text
      _ = r.segment ++ " | caused by: " ++
            " | caused by: ".intercalate (cause.chain.map segment) := by rw [ih]
      _ = " | caused by: ".intercalate ((caused r cause).chain.map segment) := by
          rw [chain, List.map_cons, String.intercalate_cons_of_ne_nil hne, segment]

/-- A lead, a context, a hidden policy and a foreign failure that says nothing. -/
example :
    (caused ⟨.text "none", [(.text "of", .int 2)], some ⟨.text "ABI", .text "all"⟩⟩
      (caused ⟨.text "split", [], some ⟨.text "", .text "any"⟩⟩
        (foreign .unfitValue (.text "")))).text =
      "[ABI] policy 'all': none | context: \x7b'of': 2\x7d | caused by: split | caused by: " := by
  decide

end Failure

end DeviceSplit
