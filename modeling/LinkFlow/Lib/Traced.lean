/-
Computations that leave a trace of effects and may stop early with a reason.
What was done before a stop stays done.
-/
import Mathlib.Data.List.Basic

universe u v

/-- The effects in the order they took place, and a value or a reason to
stop. -/
structure Traced (E : Type u) (R : Type v) (α : Type) where
  trace : List E
  outcome : Except R α

namespace Traced

variable {E : Type u} {R : Type v} {S : Type v} {α β : Type}

instance : Monad (Traced E R) where
  pure value := ⟨[], .ok value⟩
  bind first next :=
    match first.outcome with
    | .error reason => ⟨first.trace, .error reason⟩
    | .ok value => ⟨first.trace ++ (next value).trace, (next value).outcome⟩

def stop (reason : R) : Traced E R α := ⟨[], .error reason⟩

def emit (effect : E) : Traced E R Unit := ⟨[effect], .ok ()⟩

/-- A value or a reason, without effects. -/
def lift (outcome : Except R α) : Traced E R α := ⟨[], outcome⟩

/-- Restate the reason. -/
def mapStop (f : R → S) (run : Traced E R α) : Traced E S α :=
  ⟨run.trace, run.outcome.mapError f⟩

@[simp] theorem trace_pure (value : α) :
    (pure value : Traced E R α).trace = [] := rfl

@[simp] theorem outcome_pure (value : α) :
    (pure value : Traced E R α).outcome = .ok value := rfl

@[simp] theorem trace_stop (reason : R) :
    (stop reason : Traced E R α).trace = [] := rfl

@[simp] theorem outcome_stop (reason : R) :
    (stop reason : Traced E R α).outcome = .error reason := rfl

@[simp] theorem trace_emit (effect : E) :
    (emit effect : Traced E R Unit).trace = [effect] := rfl

@[simp] theorem outcome_emit (effect : E) :
    (emit effect : Traced E R Unit).outcome = .ok () := rfl

@[simp] theorem trace_lift (outcome : Except R α) :
    (lift outcome : Traced E R α).trace = [] := rfl

@[simp] theorem outcome_lift (outcome : Except R α) :
    (lift outcome : Traced E R α).outcome = outcome := rfl

@[simp] theorem trace_mapStop (f : R → S) (run : Traced E R α) :
    (run.mapStop f).trace = run.trace := rfl

@[simp] theorem outcome_mapStop_eq_ok {f : R → S} {run : Traced E R α}
    {value : α} :
    (run.mapStop f).outcome = .ok value ↔ run.outcome = .ok value := by
  change run.outcome.mapError f = .ok value ↔ _
  cases run.outcome <;> simp [Except.mapError]

@[simp] theorem trace_map (f : α → β) (run : Traced E R α) :
    (f <$> run).trace = run.trace := by
  obtain ⟨trace, outcome⟩ := run
  cases outcome with
  | error reason => rfl
  | ok value => exact List.append_nil trace

@[simp] theorem outcome_map (f : α → β) (run : Traced E R α) :
    (f <$> run).outcome = run.outcome.map f := by
  obtain ⟨trace, outcome⟩ := run
  cases outcome <;> rfl

theorem outcome_bind_eq_ok {first : Traced E R α} {next : α → Traced E R β}
    {result : β} :
    (first >>= next).outcome = .ok result ↔
      ∃ value, first.outcome = .ok value ∧
        (next value).outcome = .ok result := by
  obtain ⟨trace, outcome⟩ := first
  cases outcome <;> simp [bind]

theorem mapStop_bind {f : R → S} {first : Traced E R α}
    {next : α → Traced E R β} :
    (first >>= next).mapStop f =
      first.mapStop f >>= fun value => (next value).mapStop f := by
  obtain ⟨trace, outcome⟩ := first
  cases outcome <;> rfl

theorem trace_bind_of_ok {first : Traced E R α} {next : α → Traced E R β}
    {value : α} (hok : first.outcome = .ok value) :
    (first >>= next).trace = first.trace ++ (next value).trace := by
  obtain ⟨trace, outcome⟩ := first
  cases hok
  rfl

theorem mem_trace_bind {first : Traced E R α} {next : α → Traced E R β}
    {effect : E} :
    effect ∈ (first >>= next).trace ↔
      effect ∈ first.trace ∨
        ∃ value, first.outcome = .ok value ∧ effect ∈ (next value).trace := by
  obtain ⟨trace, outcome⟩ := first
  cases outcome <;> simp [bind]

end Traced
