import DeviceSplit.AbiSplit.Event
import DeviceSplit.Refusal

set_option autoImplicit false

/-! # Passes

A pass computes a value, or is refused, and reports events while it runs. A refusal ends it: what
was reported before stays reported, and nothing is reported after. A pass runs at the level of a
log, and an event below that level is not kept. -/

namespace DeviceSplit

/-- What comes out of a pass at each level of the log, and the events that the log keeps, in
order. -/
structure Pass (α : Type) where
  run : Severity → Except Refusal α × List SplitEvent

namespace Pass

variable {α β : Type}

/-- What comes out of a pass whose log keeps everything. -/
def outcome (p : Pass α) : Except Refusal α := (p.run .debug).1

/-- The events of a pass whose log keeps everything. -/
def events (p : Pass α) : List SplitEvent := (p.run .debug).2

/-- Go on with the value of a pass, if there is one. -/
def andThen (p : Pass α) (f : α → Pass β) : Pass β where
  run level :=
    match p.run level with
    | (.ok a, events) => (((f a).run level).1, events ++ ((f a).run level).2)
    | (.error refusal, events) => (.error refusal, events)

instance : Monad Pass where
  pure a := ⟨fun _ => (.ok a, [])⟩
  bind := andThen

def report (e : SplitEvent) : Pass Unit :=
  ⟨fun level => (.ok (), if level.passes e.severity then [e] else [])⟩

def refuse (r : Refusal) : Pass α := ⟨fun _ => (.error r, [])⟩

/-- A checked value of a record of some kind, if it has no faults. -/
def demand (schema : Schema) (x : Checked α) : Pass α := ⟨fun _ => (x.orRefuse schema, [])⟩

/-! ## Laws -/

theorem ext {p q : Pass α} (h : ∀ level, p.run level = q.run level) : p = q := by
  cases p; cases q
  exact congrArg Pass.mk (funext h)

theorem run_pure (a : α) (level : Severity) : (pure a : Pass α).run level = (.ok a, []) := rfl

theorem run_bind_ok {p : Pass α} {level : Severity} {a : α} {events : List SplitEvent}
    (h : p.run level = (.ok a, events)) (f : α → Pass β) :
    (p >>= f).run level = (((f a).run level).1, events ++ ((f a).run level).2) := by
  show (p.andThen f).run level = _
  simp only [andThen, h]

theorem run_bind_error {p : Pass α} {level : Severity} {refusal : Refusal}
    {events : List SplitEvent} (h : p.run level = (.error refusal, events)) (f : α → Pass β) :
    (p >>= f).run level = (.error refusal, events) := by
  show (p.andThen f).run level = _
  simp only [andThen, h]

@[simp] theorem demand_ok (schema : Schema) (a : α) :
    demand schema (.ok a) = (pure a : Pass α) := rfl

protected theorem bind_assoc {γ : Type} (p : Pass α) (f : α → Pass β) (g : β → Pass γ) :
    p >>= f >>= g = p >>= fun a => f a >>= g := by
  refine ext fun level => ?_
  match hp : p.run level with
  | (.error r, events) =>
    rw [run_bind_error hp, run_bind_error (run_bind_error hp f)]
  | (.ok a, events) =>
    rw [run_bind_ok hp]
    match hf : (f a).run level with
    | (.error r, events') =>
      rw [run_bind_error hf, run_bind_error ((run_bind_ok hp f).trans (by rw [hf]))]
    | (.ok b, events') =>
      rw [run_bind_ok hf, run_bind_ok ((run_bind_ok hp f).trans (by rw [hf])),
        List.append_assoc]

protected theorem bind_pure (p : Pass α) : p >>= pure = p := by
  refine ext fun level => ?_
  match hp : p.run level with
  | (.error r, events) => rw [run_bind_error hp]
  | (.ok a, events) => rw [run_bind_ok hp, run_pure, List.append_nil]

instance : LawfulMonad Pass :=
  LawfulMonad.mk' Pass Pass.bind_pure (fun _ _ => rfl) Pass.bind_assoc

end Pass

end DeviceSplit
