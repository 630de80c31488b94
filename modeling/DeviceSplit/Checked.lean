import DeviceSplit.Fault

set_option autoImplicit false

/-! # Checked results

A `Checked` result is a value, or all the faults that stand in its way. Independent results are
put together as an applicative functor: if both are faulty, the faults of both are kept, in order.
`andThen` is for a check that makes sense only on a value without faults. -/

namespace DeviceSplit

/-- A value or the faults found in its place. -/
inductive Checked (α : Type) where
  | ok (a : α)
  | faulty (faults : List Fault)
deriving DecidableEq

namespace Checked

variable {α β γ : Type}

/-- Fail with one problem, found right here. -/
def reject (p : Problem) : Checked α := .faulty [⟨[], p⟩]

def map (f : α → β) : Checked α → Checked β
  | .ok a => .ok (f a)
  | .faulty e => .faulty e

/-- Apply a checked function to a checked argument, keeping the faults of both. -/
def seq (f : Checked (α → β)) (a : Checked α) : Checked β :=
  match f, a with
  | .ok f, .ok a => .ok (f a)
  | .ok _, .faulty e => .faulty e
  | .faulty e, .ok _ => .faulty e
  | .faulty e, .faulty e' => .faulty (e ++ e')

instance : Applicative Checked where
  pure := .ok
  map := map
  seq f a := seq f (a ())

/-- Go on with a value, if there is one. -/
def andThen (a : Checked α) (f : α → Checked β) : Checked β :=
  match a with
  | .ok a => f a
  | .faulty e => .faulty e

/-- The result as seen from one step further out. -/
def below (s : Step) : Checked α → Checked α
  | .ok a => .ok a
  | .faulty e => .faulty (e.map (Fault.below s))

@[simp] theorem map_ok (f : α → β) (a : α) : f <$> (Checked.ok a) = .ok (f a) := rfl

@[simp] theorem map_faulty (f : α → β) (e : List Fault) :
    f <$> (Checked.faulty e) = .faulty e := rfl

@[simp] theorem seq_ok (f : α → β) (a : Checked α) : Checked.ok f <*> a = f <$> a := by
  cases a <;> rfl

@[simp] theorem andThen_ok (a : α) (f : α → Checked β) : (Checked.ok a).andThen f = f a := rfl

@[simp] theorem andThen_faulty (e : List Fault) (f : α → Checked β) :
    (Checked.faulty e).andThen f = .faulty e := rfl

@[simp] theorem below_ok (s : Step) (a : α) : (Checked.ok a).below s = .ok a := rfl

theorem reject_ne_ok (p : Problem) (a : α) : reject p ≠ .ok a := by simp [reject]

theorem below_eq_ok {s : Step} {x : Checked α} {a : α} : x.below s = .ok a ↔ x = .ok a := by
  cases x <;> simp [below]

theorem map_eq_ok {f : α → β} {x : Checked α} {b : β} :
    f <$> x = .ok b ↔ ∃ a, x = .ok a ∧ f a = b := by
  cases x <;> simp

theorem seq_eq_ok {f : Checked (α → β)} {x : Checked α} {b : β} :
    f <*> x = .ok b ↔ ∃ g a, f = .ok g ∧ x = .ok a ∧ g a = b := by
  cases f with
  | ok g => simp [map_eq_ok]
  | faulty e => cases x <;> simp [Seq.seq, seq]

/-- Six results put together are a value exactly if each of them is one. -/
theorem map₆_eq_ok {α₁ α₂ α₃ α₄ α₅ α₆ : Type} {f : α₁ → α₂ → α₃ → α₄ → α₅ → α₆ → β}
    {x₁ : Checked α₁} {x₂ : Checked α₂} {x₃ : Checked α₃} {x₄ : Checked α₄} {x₅ : Checked α₅}
    {x₆ : Checked α₆} {b : β} :
    f <$> x₁ <*> x₂ <*> x₃ <*> x₄ <*> x₅ <*> x₆ = .ok b ↔ ∃ a₁ a₂ a₃ a₄ a₅ a₆, x₁ = .ok a₁ ∧
      x₂ = .ok a₂ ∧ x₃ = .ok a₃ ∧ x₄ = .ok a₄ ∧ x₅ = .ok a₅ ∧ x₆ = .ok a₆ ∧
        f a₁ a₂ a₃ a₄ a₅ a₆ = b := by
  constructor
  · intro h
    obtain ⟨_, a₆, h₅, hx₆, rfl⟩ := seq_eq_ok.1 h
    obtain ⟨_, a₅, h₄, hx₅, rfl⟩ := seq_eq_ok.1 h₅
    obtain ⟨_, a₄, h₃, hx₄, rfl⟩ := seq_eq_ok.1 h₄
    obtain ⟨_, a₃, h₂, hx₃, rfl⟩ := seq_eq_ok.1 h₃
    obtain ⟨_, a₂, h₁, hx₂, rfl⟩ := seq_eq_ok.1 h₂
    obtain ⟨a₁, hx₁, rfl⟩ := map_eq_ok.1 h₁
    exact ⟨a₁, a₂, a₃, a₄, a₅, a₆, hx₁, hx₂, hx₃, hx₄, hx₅, hx₆, rfl⟩
  · rintro ⟨a₁, a₂, a₃, a₄, a₅, a₆, rfl, rfl, rfl, rfl, rfl, rfl, rfl⟩
    rfl

theorem andThen_eq_ok {x : Checked α} {f : α → Checked β} {b : β} :
    x.andThen f = .ok b ↔ ∃ a, x = .ok a ∧ f a = .ok b := by
  cases x <;> simp

end Checked

end DeviceSplit
