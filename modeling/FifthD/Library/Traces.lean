import FifthD.Library.Machine
import Mathlib.Data.List.ReduceOption

/-!
Traces of a machine whose steps may be silent: a step that is seen gives an event, and the
trace of a run is the list of its events. A machine that can answer every step of another
with steps of its own, under a relation of the states, has every trace of the other.
-/
namespace FifthD.Library.Machine

variable {σ τ ι κ ε : Type*}

/-- A list of events that some run shows. -/
def Trace (step : σ → ι → Option (σ × Option ε)) (s : σ) (events : List ε) : Prop :=
  ∃ inputs final outs, run step s inputs = some (final, outs) ∧ outs.reduceOption = events

/-- Inputs that take a machine from one state to another and show at most one event. -/
def Answers (step : σ → ι → Option (σ × Option ε)) (s final : σ) (seen : Option ε) : Prop :=
  ∃ inputs outs, run step s inputs = some (final, outs) ∧ outs.reduceOption = seen.toList

variable {step : σ → ι → Option (σ × Option ε)}

/-- No step at all. -/
theorem Answers.refl (s : σ) : Answers step s s none := ⟨[], [], rfl, rfl⟩

/-- One step. -/
theorem Answers.one {s final : σ} {i : ι} {seen : Option ε}
    (stepped : step s i = some (final, seen)) : Answers step s final seen := by
  refine ⟨[i], [seen], run_singleton_iff.mpr ⟨seen, stepped, rfl⟩, ?_⟩
  cases seen with
  | none => rfl
  | some event => rfl

/-- A silent step before others. -/
theorem Answers.silently {s middle final : σ} {i : ι} {seen : Option ε}
    (stepped : step s i = some (middle, none)) (later : Answers step middle final seen) :
    Answers step s final seen := by
  obtain ⟨inputs, outs, ran, shown⟩ := later
  refine ⟨i :: inputs, none :: outs, run_cons_iff.mpr ⟨_, _, _, stepped, ran, rfl⟩, ?_⟩
  rw [List.reduceOption_cons_of_none, shown]

/-- Silent steps before others. -/
theorem Answers.trans {s middle final : σ} {seen : Option ε}
    (first : Answers step s middle none) (second : Answers step middle final seen) :
    Answers step s final seen := by
  obtain ⟨early, outs, ran, shown⟩ := first
  obtain ⟨late, outs', ran', shown'⟩ := second
  refine ⟨early ++ late, outs ++ outs', (run_append_of_run ran).mpr ran', ?_⟩
  rw [List.reduceOption_append, shown, shown']
  rfl

/-- The simulation rule. -/
theorem Trace.simulated {step' : τ → κ → Option (τ × Option ε)} (rel : σ → τ → Prop)
    (answered : ∀ {s t i next seen}, rel s t → step s i = some (next, seen) →
      ∃ next', Answers step' t next' seen ∧ rel next next')
    {s : σ} {t : τ} (start : rel s t) {events : List ε} (trace : Trace step s events) :
    Trace step' t events := by
  obtain ⟨inputs, final, outs, ran, rfl⟩ := trace
  induction inputs generalizing s t outs with
  | nil =>
    cases ran
    exact ⟨[], t, [], rfl, rfl⟩
  | cons i rest ih =>
    obtain ⟨next, seen, later, stepped, ran', rfl⟩ := run_cons_iff.mp ran
    obtain ⟨next', ⟨early, outs', first, shown⟩, kept⟩ := answered start stepped
    obtain ⟨inputs', final', outs'', second, shown'⟩ := ih kept later ran'
    refine ⟨early ++ inputs', final', outs' ++ outs'', (run_append_of_run first).mpr second, ?_⟩
    rw [List.reduceOption_append, shown, shown']
    cases seen with
    | none => rfl
    | some event => rfl

end FifthD.Library.Machine
