import FifthD.Library.Mutex
import Mathlib.Algebra.BigOperators.Group.Finset.Basic
import Mathlib.Algebra.Order.BigOperators.Group.Finset

/-!
Calls under a mutex come to an end. Whoever holds the mutex can go on, so somebody can as long
as a call is open; and since no program reads and writes without end, the steps of a run are
bounded by its calls.
-/
namespace FifthD.Library

/-- How many questions a program asks in its run. -/
def Prog.length {σ Op α : Type*} {Reply : Op → Type*} (handler : σ → (op : Op) → σ × Reply op) :
    σ → Prog Op Reply α → Nat
  | _, .ret _ => 0
  | s, .call op next => Prog.length handler (handler s op).1 (next (handler s op).2) + 1

namespace Mutex

variable {σ P Call Res Op : Type*} {Reply : Op → Type*} [DecidableEq P]
  {code : Code Call Res Op Reply} {handler : σ → (op : Op) → σ × Reply op}

namespace Guarded

/-- The caller in the mutex is in a call that takes it. -/
def Inside (code : Code Call Res Op Reply) (s : Guarded σ P Call Res Op Reply) : Prop :=
  ∀ p rest, s.holder = some (p, rest) →
    ∃ c, s.object.callers p = .invoked c ∧ code.early c = none

variable {s next : Guarded σ P Call Res Op Reply} {m : GuardedMove P Call}
  {seen : Option (Event P Call Res)}

/-- A caller outside the mutex goes on. -/
theorem Inside.move (inside : Inside code s) {p : P}
    (outside : ∀ c, s.object.callers p = .invoked c → code.early c ≠ none)
    (caller : Caller Call Res) : Inside code ⟨s.object.move p caller, s.holder⟩ := by
  intro q rest holds
  obtain ⟨c, called, late⟩ := inside q rest holds
  have apart : q ≠ p := by
    rintro rfl
    exact outside c called late
  refine ⟨c, ?_, late⟩
  rw [← called]
  exact Function.update_of_ne apart _ _

theorem Inside.step (inside : Inside code s) (moved : Moves code handler s m next seen) :
    Inside code next := by
  cases moved with
  | invoke idle => exact inside.move (fun c called => nomatch idle.symm.trans called) _
  | leave called left =>
    refine inside.move (fun c called' => ?_) _
    cases called.symm.trans called'
    rw [left]
    nofun
  | lock called late free =>
    intro q rest holds
    cases holds
    exact ⟨_, called, late⟩
  | access before =>
    intro q rest holds
    cases holds
    exact inside _ _ before
  | unlock before => nofun
  | abort before => exact inside
  | respond leaving => exact inside.move (fun c called => nomatch leaving.symm.trans called) _

/-- What a caller has left to do, when no program asks more than `k` questions. -/
def duty (handler : σ → (op : Op) → σ × Reply op) (k : Nat) (s : Guarded σ P Call Res Op Reply)
    (p : P) : Nat :=
  match s.object.callers p with
  | .idle => 0
  | .leaving _ => 1
  | .invoked _ =>
    match s.holder with
    | none => k + 3
    | some (q, rest) =>
      if q = p then Prog.length handler s.object.shared rest + 2 else k + 3

/-- What all callers have left to do while the process is up. -/
def work [Fintype P] (handler : σ → (op : Op) → σ × Reply op) (k : Nat)
    (s : Guarded σ P Call Res Op Reply) : Nat :=
  if s.object.alive then ∑ p, duty handler k s p else 0

section Duty

variable {k : Nat} {p q : P}

/-- A call outside the mutex has all to do. -/
theorem duty_waiting {c : Call} (called : s.object.callers p = .invoked c)
    (outside : ∀ q rest, s.holder = some (q, rest) → q ≠ p) : duty handler k s p = k + 3 := by
  unfold duty
  rw [called]
  dsimp only
  split
  case h_1 => rfl
  case h_2 q rest holds => exact if_neg (outside q rest holds)

variable (handler k s) in
theorem duty_inside {c : Call} {rest : Prog Op Reply (Option Res)}
    (called : s.object.callers p = .invoked c) (holds : s.holder = some (p, rest)) :
    duty handler k s p = Prog.length handler s.object.shared rest + 2 := by
  unfold duty
  rw [called, holds]
  exact if_pos rfl

theorem duty_idle (idle : s.object.callers p = .idle) : duty handler k s p = 0 := by
  unfold duty
  rw [idle]

theorem duty_leaving {r : Res} (leaving : s.object.callers p = .leaving r) :
    duty handler k s p = 1 := by
  unfold duty
  rw [leaving]

/-- What one caller does with the mutex changes no duty of another. -/
theorem duty_other (other : q ≠ p) (same : next.object.callers q = s.object.callers q)
    (alone : ∀ o rest, s.holder = some (o, rest) → o = p)
    (alone' : ∀ o rest, next.holder = some (o, rest) → o = p) :
    duty handler k next q = duty handler k s q := by
  cases caller : s.object.callers q with
  | idle => rw [duty_idle caller, duty_idle (same.trans caller)]
  | leaving r => rw [duty_leaving caller, duty_leaving (same.trans caller)]
  | invoked c =>
    rw [duty_waiting caller, duty_waiting (same.trans caller)]
    · exact fun o rest holds => alone' o rest holds ▸ other.symm
    · exact fun o rest holds => alone o rest holds ▸ other.symm

end Duty

/-- The duty of one caller changes. -/
theorem sum_changes [Fintype P] {before after : P → Nat} {p : P} {given : Nat}
    (others : ∀ q, q ≠ p → after q = before q) (own : after p + 1 ≤ before p + given) :
    (∑ q, after q) + 1 ≤ (∑ q, before q) + given := by
  have same : ∑ q ∈ Finset.univ.erase p, after q = ∑ q ∈ Finset.univ.erase p, before q :=
    Finset.sum_congr rfl fun q member => others q (Finset.ne_of_mem_erase member)
  have split := Finset.add_sum_erase Finset.univ (fun q => before q) (Finset.mem_univ p)
  have split' := Finset.add_sum_erase Finset.univ (fun q => after q) (Finset.mem_univ p)
  omega

/-- What one invocation gives to do, with the step it takes. -/
def given (k : Nat) : Option (Event P Call Res) → Nat
  | some (.invoked _ _) => k + 4
  | _ => 0

variable [Fintype P] {k : Nat}

/-- A caller outside the mutex goes on and has a new duty. -/
theorem sum_move (p : P) (caller : Caller Call Res) {gained : Nat}
    (own : duty handler k ⟨s.object.move p caller, s.holder⟩ p + 1 ≤ duty handler k s p + gained) :
    (∑ q, duty handler k ⟨s.object.move p caller, s.holder⟩ q) + 1 ≤
      (∑ q, duty handler k s q) + gained := by
  refine sum_changes (p := p) (fun q other => ?_) own
  simp only [duty, Object.move, Function.update_of_ne other]

/-- Every step that keeps the process up takes a part of the duty of one caller. -/
theorem sum_step (bound : ∀ s c, Prog.length handler s (code.body c) ≤ k)
    (inside : Inside code s) (moved : Moves code handler s m next seen)
    (stays : next.object.alive = true) :
    (∑ q, duty handler k next q) + 1 ≤ (∑ q, duty handler k s q) + given k seen := by
  have outside {p : P} (differs : ∀ c, s.object.callers p = .invoked c → code.early c ≠ none) :
      ∀ q rest, s.holder = some (q, rest) → q ≠ p := by
    rintro q rest holds rfl
    obtain ⟨c, called, late⟩ := inside q rest holds
    exact differs c called late
  cases moved with
  | @invoke p c idle =>
    refine sum_move p _ ?_
    rw [duty_idle idle, duty_waiting (c := c) (Function.update_self _ _ _)]
    · exact (by omega : k + 3 + 1 ≤ 0 + (k + 4))
    · exact outside fun c called => nomatch idle.symm.trans called
  | @leave p c r called left =>
    refine sum_move p _ ?_
    rw [duty_leaving (r := r) (Function.update_self _ _ _), duty_waiting called]
    · exact (by omega : 1 + 1 ≤ k + 3 + 0)
    · refine outside fun c' called' => ?_
      cases called.symm.trans called'
      rw [left]
      nofun
  | @lock p c called late free =>
    have short := bound s.object.shared c
    refine sum_changes (p := p) (fun q other => duty_other other rfl ?_ ?_) ?_
    · exact fun o rest holds => nomatch free.symm.trans holds
    · rintro o rest ⟨⟩
      rfl
    · rw [duty_inside handler ⟨s.object, some (p, code.body c)⟩ k called rfl, duty_waiting called]
      · change Prog.length handler s.object.shared (code.body c) + 2 + 1 ≤ k + 3 + 0
        omega
      · exact fun o rest holds => nomatch free.symm.trans holds
  | @access p op rest before =>
    obtain ⟨c, called, late⟩ := inside p _ before
    refine sum_changes (p := p) (fun q other => duty_other other rfl ?_ ?_) ?_
    · intro o rest holds
      cases before.symm.trans holds
      rfl
    · rintro o rest ⟨⟩
      rfl
    · have after := duty_inside handler
        ⟨s.object.after (handler s.object.shared op).1,
          some (p, rest (handler s.object.shared op).2)⟩ k called rfl
      rw [duty_inside handler s k called before, after]
      exact (by omega : ∀ n, n + 2 + 1 ≤ n + 1 + 2 + 0) _
  | @unlock p r before =>
    obtain ⟨c, called, late⟩ := inside p _ before
    refine sum_changes (p := p) (fun q other => duty_other other ?_ ?_ nofun) ?_
    · exact Function.update_of_ne other _ _
    · intro o rest holds
      cases before.symm.trans holds
      rfl
    · rw [duty_inside handler s k called before, duty_leaving (r := r) (Function.update_self _ _ _)]
      exact (by omega : 1 + 1 ≤ 0 + 2 + 0)
  | abort => cases stays
  | @respond p r leaving =>
    refine sum_move p _ ?_
    rw [duty_leaving leaving, duty_idle (Function.update_self _ _ _)]
    rfl

/-- Every step does a part of the work. -/
theorem work_step (bound : ∀ s c, Prog.length handler s (code.body c) ≤ k)
    (inside : Inside code s) (stepped : s.step code handler m = some (next, seen)) :
    work handler k next + 1 ≤ work handler k s + given k seen := by
  obtain ⟨up, moved⟩ := step_iff.mp stepped
  unfold work
  rw [if_pos up]
  by_cases stays : next.object.alive = true
  · rw [if_pos stays]
    exact sum_step bound inside moved stays
  · rw [if_neg stays]
    cases moved with
    | @abort p before =>
      obtain ⟨c, called, late⟩ := inside p _ before
      have own := Finset.single_le_sum (fun q _ => Nat.zero_le (duty handler k s q))
        (Finset.mem_univ p)
      rw [duty_inside handler s k called before] at own
      omega
    | _ => exact absurd up stays

/-- The calls that a run has seen invoked. -/
def calls (outs : List (Option (Event P Call Res))) : Nat :=
  outs.countP fun
    | some (.invoked _ _) => true
    | _ => false

omit [DecidableEq P] [Fintype P] in
theorem calls_snoc (outs : List (Option (Event P Call Res))) :
    (k + 4) * calls (outs ++ [seen]) = (k + 4) * calls outs + given k seen := by
  unfold calls given
  rw [List.countP_append, List.countP_singleton, Nat.mul_add]
  cases seen with
  | none => simp
  | some event => cases event <;> simp

/-- Somebody can go on by itself. -/
def GoesOn (code : Code Call Res Op Reply) (handler : σ → (op : Op) → σ × Reply op)
    (s : Guarded σ P Call Res Op Reply) : Prop :=
  ∃ m, (∀ p c, m ≠ .invoke p c) ∧ s.step code handler m ≠ none

omit [Fintype P] in
/-- A process with an open call is down, or somebody can go on. -/
theorem goes_on (up : s.object.alive = true) {p : P} (opened : s.object.callers p ≠ .idle) :
    GoesOn code handler s := by
  have able {m : GuardedMove P Call} {next : Guarded σ P Call Res Op Reply}
      {seen : Option (Event P Call Res)} (moved : Moves code handler s m next seen)
      (own : ∀ p c, m ≠ .invoke p c) : GoesOn code handler s := by
    refine ⟨m, own, ?_⟩
    rw [step_iff.mpr ⟨up, moved⟩]
    nofun
  cases holds : s.holder with
  | some holder =>
    obtain ⟨q, rest⟩ := holder
    cases rest with
    | call op later => exact able (.access holds) nofun
    | ret value =>
      cases value with
      | some r => exact able (.unlock holds) nofun
      | none => exact able (.abort holds) nofun
  | none =>
    cases caller : s.object.callers p with
    | idle => exact absurd caller opened
    | leaving r => exact able (.respond caller) nofun
    | invoked c =>
      cases early : code.early c with
      | none => exact able (.lock caller early holds) nofun
      | some r => exact able (.leave caller early) nofun

/-- Of a run from the start: the steps are at most as many for each call as the longest program
asks questions, and four; and in the end the process is down, nobody is in a call, or somebody
can go on by itself. -/
theorem runs_end (bound : ∀ s c, Prog.length handler s (code.body c) ≤ k) (shared : σ)
    (moves : List (GuardedMove P Call)) :
    Machine.AtEveryReturn (Guarded.step code handler)
      (fun s outs => outs.length ≤ (k + 4) * calls outs ∧
        (s.object.alive = false ∨ (∀ p, s.object.callers p = .idle) ∨ GoesOn code handler s))
      (Guarded.start shared) moves := by
  refine Machine.atEveryReturn_of_kept (fun s outs => Inside code s ∧
    work handler k s + outs.length ≤ (k + 4) * calls outs) ?_ ?_ ?_ moves
  · rintro s outs m next seen ⟨inside, enough⟩ stepped
    have part := work_step bound inside stepped
    refine ⟨inside.step (step_iff.mp stepped).2, ?_⟩
    rw [calls_snoc, List.length_append, List.length_singleton]
    omega
  · rintro s outs ⟨_, enough⟩
    refine ⟨by omega, ?_⟩
    cases up : s.object.alive with
    | false => exact .inl rfl
    | true =>
      by_cases all : ∀ p, s.object.callers p = .idle
      · exact .inr (.inl all)
      · obtain ⟨p, opened⟩ := not_forall.mp all
        exact .inr (.inr (goes_on up opened))
  · refine ⟨nofun, ?_⟩
    simp [work, duty, Guarded.start, Object.start, calls]

end Guarded

end Mutex

end FifthD.Library
