import FifthD.Library.Machine
import Mathlib.Algebra.Ring.Nat
import Mathlib.Data.List.Basic

/-!
The potential method: what a machine gains in a run is paid by what it stores at the start
and what its steps are given. Nothing here names a particular program.
-/
namespace FifthD.Library.Machine

variable {σ ι ω : Type*}

/-- A quantity of the steps of a run, added up. -/
def total (amount : ι → ω → Nat) (inputs : List ι) (outs : List ω) : Nat :=
  (List.zipWith amount inputs outs).sum

theorem total_cons (amount : ι → ω → Nat) (i : ι) (inputs : List ι) (out : ω) (outs : List ω) :
    total amount (i :: inputs) (out :: outs) = amount i out + total amount inputs outs := by
  simp only [total, List.zipWith_cons_cons, List.sum_cons]

/-- Quantities of the inputs and of the outputs add up separately. -/
theorem total_of_run {step : σ → ι → Option (σ × ω)} (ofInput : ι → Nat) (ofOutput : ω → Nat)
    {s final : σ} {inputs : List ι} {outs : List ω}
    (ran : run step s inputs = some (final, outs)) :
    total (fun i out => ofInput i + ofOutput out) inputs outs =
      (inputs.map ofInput).sum + (outs.map ofOutput).sum := by
  induction inputs generalizing s outs with
  | nil =>
    cases ran
    rfl
  | cons i rest ih =>
    obtain ⟨next, out, later, _, tail, rfl⟩ := run_cons_iff.mp ran
    rw [total_cons, ih tail, List.map_cons, List.map_cons, List.sum_cons, List.sum_cons]
    omega

/-- One for every step. -/
theorem total_one_of_run {step : σ → ι → Option (σ × ω)} {s final : σ} {inputs : List ι}
    {outs : List ω} (ran : run step s inputs = some (final, outs)) :
    total (fun _ _ => 1) inputs outs = inputs.length := by
  induction inputs generalizing s outs with
  | nil =>
    cases ran
    rfl
  | cons i rest ih =>
    obtain ⟨next, out, later, _, tail, rfl⟩ := run_cons_iff.mp ran
    rw [total_cons, ih tail, List.length_cons]
    omega

/-- When every step stores and gains no more than was stored and it is given, so does
every run. -/
theorem run_pays {step : σ → ι → Option (σ × ω)} {inv : σ → Prop} (potential : σ → Nat)
    (gain given : ι → ω → Nat)
    (pays : ∀ {s i next out}, inv s → step s i = some (next, out) →
      inv next ∧ potential next + gain i out ≤ potential s + given i out)
    {s final : σ} {inputs : List ι} {outs : List ω} (start : inv s)
    (ran : run step s inputs = some (final, outs)) :
    potential final + total gain inputs outs ≤ potential s + total given inputs outs := by
  induction inputs generalizing s outs with
  | nil =>
    cases ran
    exact Nat.le_refl _
  | cons i rest ih =>
    obtain ⟨next, out, later, first, tail, rfl⟩ := run_cons_iff.mp ran
    obtain ⟨kept, once⟩ := pays start first
    have rest := ih kept tail
    rw [total_cons, total_cons]
    omega

end FifthD.Library.Machine
