import Mathlib.Data.List.Basic
import Mathlib.Data.List.Induction

/-!
Partial Mealy machines: a step reads one input and either returns the next state
with one output, or never returns (`none`: the call blocks or the process dies).
A run feeds a finite list of inputs. Nothing here names a particular program.
-/
namespace FifthD.Library.Machine

variable {σ ι ω : Type*}

/-- Run a step function over a list of inputs, collecting the outputs in order. -/
def run (step : σ → ι → Option (σ × ω)) : σ → List ι → Option (σ × List ω)
  | s, [] => some (s, [])
  | s, i :: rest =>
    match step s i with
    | none => none
    | some (next, out) =>
      match run step next rest with
      | none => none
      | some (final, outs) => some (final, out :: outs)

theorem run_cons_iff {step : σ → ι → Option (σ × ω)} {s final : σ} {i : ι}
    {rest : List ι} {outs : List ω} :
    run step s (i :: rest) = some (final, outs) ↔
      ∃ next out later, step s i = some (next, out) ∧
        run step next rest = some (final, later) ∧ outs = out :: later := by
  simp only [run]
  cases hs : step s i with
  | none => simp
  | some pair =>
    rcases pair with ⟨next, out⟩
    cases hr : run step next rest with
    | none => simp [hr]
    | some result =>
      rcases result with ⟨last, later⟩
      simp [hr, eq_comm]

/-- A run over an append is a run to the middle followed by a run from it. -/
theorem run_append_iff {step : σ → ι → Option (σ × ω)} {s final : σ}
    {first second : List ι} {outs : List ω} :
    run step s (first ++ second) = some (final, outs) ↔
      ∃ middle early late, run step s first = some (middle, early) ∧
        run step middle second = some (final, late) ∧ outs = early ++ late := by
  induction first generalizing s outs with
  | nil => simp [run, eq_comm]
  | cons i rest ih =>
    rw [List.cons_append, run_cons_iff]
    constructor
    · rintro ⟨next, out, later, hstep, hrest, rfl⟩
      obtain ⟨middle, early, late, hfirst, hsecond, rfl⟩ := ih.mp hrest
      exact ⟨middle, out :: early, late,
        run_cons_iff.mpr ⟨next, out, early, hstep, hfirst, rfl⟩, hsecond, rfl⟩
    · rintro ⟨middle, early, late, hfirst, hsecond, rfl⟩
      obtain ⟨next, out, later, hstep, hrest, rfl⟩ := run_cons_iff.mp hfirst
      have tail := ih.mpr ⟨middle, later, late, hrest, hsecond, rfl⟩
      exact ⟨next, out, later ++ late, hstep, tail, rfl⟩

/-- After a run that is known, what follows is a run from where it ended. -/
theorem run_append_of_run {step : σ → ι → Option (σ × ω)} {s middle final : σ}
    {first second : List ι} {early late : List ω} (ran : run step s first = some (middle, early)) :
    run step s (first ++ second) = some (final, early ++ late) ↔
      run step middle second = some (final, late) := by
  rw [run_append_iff]
  constructor
  · rintro ⟨middle', early', late', ran', next, outs⟩
    cases ran.symm.trans ran'
    rw [List.append_cancel_left outs]
    exact next
  · intro next
    exact ⟨middle, early, late, ran, next, rfl⟩

theorem run_singleton_iff {step : σ → ι → Option (σ × ω)} {s final : σ} {i : ι}
    {outs : List ω} :
    run step s [i] = some (final, outs) ↔
      ∃ out, step s i = some (final, out) ∧ outs = [out] := by
  rw [run_cons_iff]
  constructor
  · rintro ⟨next, out, later, hstep, hrest, rfl⟩
    simp only [run, Option.some.injEq, Prod.mk.injEq] at hrest
    obtain ⟨rfl, rfl⟩ := hrest
    exact ⟨out, hstep, rfl⟩
  · rintro ⟨out, hstep, rfl⟩
    exact ⟨final, out, [], hstep, rfl, rfl⟩

/-- The progress rule with a history: a step that returns from every state and outputs so
far that satisfy the invariant, and keeps it, makes every run return. -/
theorem run_returns_keeping {step : σ → ι → Option (σ × ω)} (inv : σ → List ω → Prop)
    (progress : ∀ s outs i, inv s outs →
      ∃ next out, step s i = some (next, out) ∧ inv next (outs ++ [out]))
    {s : σ} {past : List ω} (inputs : List ι) (start : inv s past) :
    ∃ final outs, run step s inputs = some (final, outs) ∧ inv final (past ++ outs) := by
  induction inputs generalizing s past with
  | nil => exact ⟨s, [], rfl, (List.append_nil past).symm ▸ start⟩
  | cons i rest ih =>
    obtain ⟨next, out, hstep, kept⟩ := progress s past i start
    obtain ⟨final, outs, hrun, last⟩ := ih kept
    rw [List.append_assoc] at last
    exact ⟨final, out :: outs, run_cons_iff.mpr ⟨next, out, outs, hstep, hrun, rfl⟩, last⟩

/-- The progress rule: a step that returns from every invariant state, and keeps
the invariant, makes every run return. -/
theorem run_returns {step : σ → ι → Option (σ × ω)} (inv : σ → Prop)
    (progress : ∀ s i, inv s → ∃ next out, step s i = some (next, out) ∧ inv next)
    {s : σ} (inputs : List ι) (start : inv s) :
    ∃ final outs, run step s inputs = some (final, outs) ∧ inv final :=
  @run_returns_keeping σ ι ω step (fun s _ => inv s) (fun s _ => progress s) s [] inputs start

/-- Two machines side by side on the same inputs: steps that both return and keep a relation
of the states and the outputs so far make both runs return, with outputs that agree one by
one. -/
theorem runs_returns_keeping {τ ω' : Type*} {step : σ → ι → Option (σ × ω)}
    {step' : τ → ι → Option (τ × ω')} (rel : σ → List ω → τ → List ω' → Prop)
    {agree : ω → ω' → Prop}
    (progress : ∀ s outs t outs' i, rel s outs t outs' →
      ∃ next out next' out', step s i = some (next, out) ∧ step' t i = some (next', out') ∧
        agree out out' ∧ rel next (outs ++ [out]) next' (outs' ++ [out']))
    {s : σ} {past : List ω} {t : τ} {past' : List ω'} (inputs : List ι)
    (start : rel s past t past') :
    ∃ final outs final' outs', run step s inputs = some (final, outs) ∧
      run step' t inputs = some (final', outs') ∧ List.Forall₂ agree outs outs' := by
  induction inputs generalizing s past t past' with
  | nil => exact ⟨s, [], t, [], rfl, rfl, .nil⟩
  | cons i rest ih =>
    obtain ⟨next, out, next', out', first, first', same, kept⟩ := progress s past t past' i start
    obtain ⟨final, outs, final', outs', later, later', agrees⟩ := ih kept
    exact ⟨final, out :: outs, final', out' :: outs',
      run_cons_iff.mpr ⟨next, out, outs, first, later, rfl⟩,
      run_cons_iff.mpr ⟨next', out', outs', first', later', rfl⟩, .cons same agrees⟩

/-! ## What holds at every return -/

/-- A property of the state and the outputs so far that holds at the start and
after every call of a run that returns, also of one that later blocks. -/
def AtEveryReturn (step : σ → ι → Option (σ × ω)) (P : σ → List ω → Prop) (s : σ)
    (inputs : List ι) : Prop :=
  ∀ past later final outs, inputs = past ++ later → run step s past = some (final, outs) →
    P final outs

theorem atEveryReturn_nil {step : σ → ι → Option (σ × ω)} {P : σ → List ω → Prop} {s : σ} :
    AtEveryReturn step P s [] ↔ P s [] := by
  constructor
  · intro always
    exact always [] [] s [] rfl rfl
  · intro start past later final outs split h
    obtain ⟨rfl, _⟩ := List.append_eq_nil_iff.mp split.symm
    cases h
    exact start

/-- A first call that never returns ends the run where it is. -/
theorem atEveryReturn_blocked {step : σ → ι → Option (σ × ω)} {P : σ → List ω → Prop} {s : σ}
    {i : ι} {rest : List ι} (blocked : step s i = none) :
    AtEveryReturn step P s (i :: rest) ↔ P s [] := by
  constructor
  · intro always
    exact always [] (i :: rest) s [] rfl rfl
  · intro start past later final outs split h
    cases past with
    | nil =>
      cases h
      exact start
    | cons first past =>
      obtain ⟨rfl, _⟩ := List.cons.inj split
      obtain ⟨_, _, _, returned, _⟩ := run_cons_iff.mp h
      rw [blocked] at returned
      cases returned

/-- A first call that returns, and the run behind it. -/
theorem atEveryReturn_cons {step : σ → ι → Option (σ × ω)} {P : σ → List ω → Prop} {s next : σ}
    {i : ι} {out : ω} {rest : List ι} (returned : step s i = some (next, out)) :
    AtEveryReturn step P s (i :: rest) ↔
      P s [] ∧ AtEveryReturn step (fun final outs => P final (out :: outs)) next rest := by
  constructor
  · intro always
    refine ⟨always [] (i :: rest) s [] rfl rfl, ?_⟩
    intro past later final outs split h
    apply always (i :: past) later final (out :: outs)
    · rw [split, List.cons_append]
    · exact run_cons_iff.mpr ⟨next, out, outs, returned, h, rfl⟩
  · rintro ⟨start, tail⟩ past later final outs split h
    cases past with
    | nil =>
      cases h
      exact start
    | cons first past =>
      obtain ⟨rfl, splitTail⟩ := List.cons.inj split
      obtain ⟨_, _, outs', returned', h', rfl⟩ := run_cons_iff.mp h
      rw [returned] at returned'
      cases returned'
      exact tail past later final outs' splitTail h'

/-- What holds at every return of a run holds at its start. -/
theorem AtEveryReturn.start {step : σ → ι → Option (σ × ω)} {P : σ → List ω → Prop} {s : σ}
    {inputs : List ι} (always : AtEveryReturn step P s inputs) : P s [] :=
  always [] inputs s [] rfl rfl

/-- What the history of outputs and the state satisfy together, when every step keeps it,
holds after a run. -/
theorem run_keeps {step : σ → ι → Option (σ × ω)} {inv : σ → List ω → Prop}
    (kept : ∀ {s outs i next out}, inv s outs → step s i = some (next, out) →
      inv next (outs ++ [out]))
    {s final : σ} {past outs : List ω} {inputs : List ι} (start : inv s past)
    (ran : run step s inputs = some (final, outs)) : inv final (past ++ outs) := by
  induction inputs generalizing s past outs with
  | nil =>
    cases ran
    rwa [List.append_nil]
  | cons i rest ih =>
    obtain ⟨next, out, later, hstep, hrest, rfl⟩ := run_cons_iff.mp ran
    have last := ih (kept start hstep) hrest
    rwa [List.append_assoc] at last

/-- An invariant of the history and the state holds at every return. -/
theorem atEveryReturn_of_kept {step : σ → ι → Option (σ × ω)} (inv : σ → List ω → Prop)
    {P : σ → List ω → Prop}
    (kept : ∀ {s outs i next out}, inv s outs → step s i = some (next, out) →
      inv next (outs ++ [out]))
    (implies : ∀ {s outs}, inv s outs → P s outs) {s : σ} (start : inv s []) (inputs : List ι) :
    AtEveryReturn step P s inputs := by
  intro past later final outs _ ran
  exact implies (run_keeps kept start ran)

/-! ## What holds at every step -/

/-- A property of each step and the state before it, also of a last one that never returns. -/
def AtEveryStep (step : σ → ι → Option (σ × ω)) (P : σ → ι → Prop) (s : σ) (inputs : List ι) :
    Prop :=
  ∀ past i later middle outs, inputs = past ++ i :: later →
    run step s past = some (middle, outs) → P middle i

theorem AtEveryStep.left {step : σ → ι → Option (σ × ω)} {P : σ → ι → Prop} {s : σ}
    {first second : List ι} (always : AtEveryStep step P s (first ++ second)) :
    AtEveryStep step P s first := by
  intro past i later middle outs split ran
  refine always past i (later ++ second) middle outs ?_ ran
  rw [split, List.append_assoc, List.cons_append]

/-- An invariant that is kept by steps with a property holds after a run of these. -/
theorem AtEveryStep.keeps {step : σ → ι → Option (σ × ω)} {P : σ → ι → Prop} {inv : σ → Prop}
    (kept : ∀ {s i next out}, inv s → P s i → step s i = some (next, out) → inv next)
    {start final : σ} {inputs : List ι} {outs : List ω} (always : AtEveryStep step P start inputs)
    (holds : inv start) (ran : run step start inputs = some (final, outs)) : inv final := by
  induction inputs using List.reverseRecOn generalizing final outs with
  | nil =>
    cases ran
    exact holds
  | append_singleton before last ih =>
    obtain ⟨middle, early, late, first, second, rfl⟩ := run_append_iff.mp ran
    obtain ⟨out, stepped, rfl⟩ := run_singleton_iff.mp second
    exact kept (ih always.left first) (always before last [] middle early rfl first) stepped

/-- Where two properties of a step agree on an invariant that the steps keep, they hold of
the same runs. -/
theorem AtEveryStep.imp {step : σ → ι → Option (σ × ω)} {P Q : σ → ι → Prop} {inv : σ → Prop}
    (kept : ∀ {s i next out}, inv s → P s i → step s i = some (next, out) → inv next)
    (implies : ∀ {s i}, inv s → P s i → Q s i) {s : σ} {inputs : List ι}
    (always : AtEveryStep step P s inputs) (holds : inv s) : AtEveryStep step Q s inputs := by
  intro past i later middle outs split ran
  have before : AtEveryStep step P s past := by
    rw [split] at always
    exact always.left
  exact implies (before.keeps kept holds ran) (always past i later middle outs split ran)

end FifthD.Library.Machine
