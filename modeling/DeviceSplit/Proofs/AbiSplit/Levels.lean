import DeviceSplit.AbiSplit.Basic

set_option autoImplicit false

/-! # Passes at every level of the log

A pass runs at the level of a log, and could do different things at different levels. It never does:
what comes out is the same at every level, and what the log keeps is the full log without the events
below its level (`Pass.Steady`). Passes that are put together of steady ones are steady, and so is
dividing a module (`steady_splitByAbi`). -/

namespace DeviceSplit

namespace Pass

variable {α β : Type}

/-! ## Passes with a known outcome -/

/-- The pass with a known outcome that reports some events. -/
def reporting (outcome : Except Refusal α) (events : List SplitEvent) : Pass α :=
  ⟨fun level => (outcome, events.filter fun e => level.passes e.severity)⟩

theorem pure_eq (a : α) : (pure a : Pass α) = reporting (.ok a) [] := rfl

theorem refuse_eq (r : Refusal) : (refuse r : Pass α) = reporting (.error r) [] := rfl

theorem report_eq (e : SplitEvent) : report e = reporting (.ok ()) [e] := by
  refine ext fun level => ?_
  simp [report, reporting, List.filter_cons]

theorem outcome_reporting (outcome : Except Refusal α) (events : List SplitEvent) :
    (reporting outcome events).outcome = outcome := rfl

theorem events_reporting (outcome : Except Refusal α) (events : List SplitEvent) :
    (reporting outcome events).events = events :=
  List.filter_eq_self.2 fun e _ => Severity.passes_debug e.severity

/-- A pass that goes on reports its own events after those before it. -/
theorem reporting_bind {f : α → Pass β} {a : α} {outcome : Except Refusal β}
    {events : List SplitEvent} (hf : f a = reporting outcome events) (before : List SplitEvent) :
    reporting (.ok a) before >>= f = reporting outcome (before ++ events) := by
  refine ext fun level => ?_
  rw [run_bind_ok rfl, hf]
  simp only [reporting, List.filter_append]

/-- A pass that ends with a report. -/
theorem report_bind_pure (e : SplitEvent) (a : α) :
    (report e >>= fun _ => pure a) = reporting (.ok a) [e] := by
  rw [report_eq]
  exact reporting_bind (pure_eq a) [e]

/-- Passes that are all known to succeed, one for each member of a list. -/
theorem mapM_ok {f : α → Pass β} {g : α → β} {event : α → SplitEvent} {l : List α}
    (h : ∀ a ∈ l, f a = reporting (.ok (g a)) [event a]) :
    l.mapM f = reporting (.ok (l.map g)) (l.map event) := by
  induction l with
  | nil => rfl
  | cons a r ih =>
    have hhead := h a List.mem_cons_self
    have htail := ih fun b hb => h b (List.mem_cons_of_mem a hb)
    have hrest : (r.mapM f >>= fun bs => pure (g a :: bs)) =
        reporting (.ok (g a :: r.map g)) (r.map event ++ []) := by
      rw [htail]
      exact reporting_bind (pure_eq _) _
    rw [List.append_nil] at hrest
    rw [List.mapM_cons, hhead]
    exact reporting_bind hrest [event a]

/-! ## Passes that do the same at every level -/

/-- What comes out does not depend on the level, and the log of a level is the full log without the
events that are below it. -/
def Steady (p : Pass α) : Prop :=
  ∀ level, p.run level = (p.outcome, p.events.filter fun e => level.passes e.severity)

theorem steady_iff {p : Pass α} :
    p.Steady ↔ ∃ outcome events, p = reporting outcome events := by
  constructor
  · exact fun hp => ⟨p.outcome, p.events, ext hp⟩
  · rintro ⟨outcome, events, rfl⟩ level
    rw [events_reporting]
    rfl

theorem steady_reporting (outcome : Except Refusal α) (events : List SplitEvent) :
    (reporting outcome events).Steady :=
  steady_iff.2 ⟨outcome, events, rfl⟩

theorem steady_pure (a : α) : (pure a : Pass α).Steady := steady_reporting (.ok a) []

theorem steady_refuse (r : Refusal) : (refuse r : Pass α).Steady := steady_reporting (.error r) []

theorem steady_demand (schema : Schema) (x : Checked α) : (demand schema x).Steady :=
  steady_reporting (x.orRefuse schema) []

theorem steady_report (e : SplitEvent) : (report e).Steady :=
  report_eq e ▸ steady_reporting (.ok ()) [e]

/-- Going on keeps a pass steady. -/
theorem Steady.bind {p : Pass α} {f : α → Pass β} (hp : p.Steady) (hf : ∀ a, (f a).Steady) :
    (p >>= f).Steady := by
  obtain ⟨outcome, events, rfl⟩ := steady_iff.1 hp
  cases outcome with
  | error r => exact steady_reporting (.error r) events
  | ok a =>
    obtain ⟨outcome, after, hfa⟩ := steady_iff.1 (hf a)
    rw [reporting_bind hfa]
    exact steady_reporting outcome (events ++ after)

theorem steady_mapM {f : α → Pass β} (hf : ∀ a, (f a).Steady) (l : List α) :
    (l.mapM f).Steady := by
  induction l with
  | nil => exact steady_pure []
  | cons a r ih =>
    rw [List.mapM_cons]
    exact (hf a).bind fun b => ih.bind fun bs => steady_pure (b :: bs)

end Pass

/-! ## Dividing a module -/

namespace ModuleSplit

open Pass

variable (m : ModuleSplit) (n : NativeLibraries) (policy : SplitPolicy)

theorem steady_makeAbiSplit (generated : SortedSet Abi) (a : Abi) (es : List ModuleEntry) :
    (m.makeAbiSplit generated a es).Steady := by
  unfold makeAbiSplit
  refine (steady_demand _ _).bind fun targeting => ?_
  refine (steady_demand _ _).bind fun split => ?_
  exact (steady_report _).bind fun _ => steady_pure split

theorem steady_reportDropped : (n.reportDropped policy).Steady := by
  unfold NativeLibraries.reportDropped
  split
  · exact steady_pure ()
  · exact steady_report _

theorem steady_makeLeftOver (es : List ModuleEntry) : (m.makeLeftOver es).Steady := by
  unfold makeLeftOver
  split
  · exact steady_pure []
  · exact (steady_demand _ _).bind fun split => steady_pure [split]

theorem steady_divide : (m.divide n policy).Steady := by
  unfold divide
  dsimp only
  refine Steady.bind (steady_mapM (fun c => ?_) _) fun abiSplits => ?_
  · exact m.steady_makeAbiSplit _ c.1 c.2
  refine (steady_reportDropped n policy).bind fun _ => ?_
  refine (m.steady_makeLeftOver _).bind fun rest => ?_
  exact (steady_report _).bind fun _ => steady_pure (abiSplits ++ rest)

/-- Dividing a module does the same at every level of the log. -/
theorem steady_splitByAbi : (m.splitByAbi policy).Steady := by
  unfold splitByAbi
  split
  · exact (steady_report _).bind fun _ => steady_pure [m]
  · split
    · exact (steady_report _).bind fun _ => steady_refuse _
    · exact m.steady_divide _ policy

end ModuleSplit

end DeviceSplit
