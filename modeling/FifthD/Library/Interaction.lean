import Mathlib.Logic.Function.Basic
import Mathlib.Logic.Relation

/-!
Programs that ask an environment: a program is a value, or a question with a program
for each answer. A handler answers questions and changes a shared state. One program
runs against it to the end; many programs run against it in any order, one question at
a time, where a question can be held up until the shared state lets it through. Many
programs are verified one at a time: each point of a program has an assertion that the
others cannot make false, over the shared state and a ghost value that no program reads.
-/
namespace FifthD.Library

universe w

inductive Prog (Op : Type*) (Reply : Op → Type*) (α : Type*) where
  | ret (value : α)
  | call (op : Op) (next : Reply op → Prog Op Reply α)

namespace Prog

variable {Op : Type*} {Reply : Op → Type*} {α β σ P : Type*}

def bind : Prog Op Reply α → (α → Prog Op Reply β) → Prog Op Reply β
  | .ret value, next => next value
  | .call op first, next => .call op fun reply => (first reply).bind next

instance : Monad (Prog Op Reply) where
  pure := .ret
  bind := bind

/-- The program that asks one question. -/
def ask (op : Op) : Prog Op Reply (Reply op) := .call op .ret

/-- The same questions among others. -/
def within {Op' : Type*} {Reply' : Op' → Type*} (f : Op → Op') :
    Prog Op (fun op => Reply' (f op)) α → Prog Op' Reply' α
  | .ret value => .ret value
  | .call op next => .call (f op) fun reply => (next reply).within f

/-- The value of a program that asks no more. -/
def returned : Prog Op Reply α → Option α
  | .ret value => some value
  | .call _ _ => none

/-! ## One program -/

/-- Run a program to its value. -/
def run (handler : σ → (op : Op) → σ × Reply op) : σ → Prog Op Reply α → σ × α
  | s, .ret value => (s, value)
  | s, .call op next => run handler (handler s op).1 (next (handler s op).2)

@[simp] theorem run_pure (handler : σ → (op : Op) → σ × Reply op) (s : σ) (value : α) :
    run handler s (pure value) = (s, value) := rfl

/-- Programs in sequence run one after the other. -/
theorem run_bind {α β : Type w} (handler : σ → (op : Op) → σ × Reply op) (s : σ)
    (program : Prog Op Reply α) (rest : α → Prog Op Reply β) :
    run handler s (program >>= rest) =
      run handler (run handler s program).1 (rest (run handler s program).2) := by
  change run handler s (program.bind rest) = _
  induction program generalizing s with
  | ret value => rfl
  | call op next ih => exact ih _ _

/-- A question and what follows its answer. -/
theorem run_ask_bind {Reply : Op → Type w} {β : Type w} {handler : σ → (op : Op) → σ × Reply op}
    {s t : σ} {op : Op} {reply : Reply op} (answers : handler s op = (t, reply))
    (rest : Reply op → Prog Op Reply β) :
    run handler s (ask op >>= rest) = run handler t (rest reply) := by
  rw [run_bind]
  change run handler (handler s op).1 (rest (handler s op).2) = _
  rw [answers]

/-- Every value the program can end with satisfies `P`, whatever it is answered. -/
def Yields (P : α → Prop) : Prog Op Reply α → Prop
  | .ret value => P value
  | .call _ next => ∀ reply, (next reply).Yields P

theorem yields_pure {P : α → Prop} {value : α} (holds : P value) :
    Yields P (pure value : Prog Op Reply α) := holds

theorem Yields.ask_bind {Reply : Op → Type w} {β : Type w} {P : β → Prop} {op : Op}
    {rest : Reply op → Prog Op Reply β} (rests : ∀ reply, (rest reply).Yields P) :
    Yields P (ask op >>= rest) := rests

/-- A run ends with a value that the program can end with. -/
theorem Yields.run {P : α → Prop} {program : Prog Op Reply α} (yields : program.Yields P)
    (handler : σ → (op : Op) → σ × Reply op) (s : σ) : P (Prog.run handler s program).2 := by
  induction program generalizing s with
  | ret value => exact yields
  | call op next ih => exact ih (handler s op).2 (yields _) (handler s op).1

/-- What every answer keeps, a run keeps. -/
theorem run_keeps {handler : σ → (op : Op) → σ × Reply op} {inv : σ → Prop}
    (kept : ∀ s op, inv s → inv (handler s op).1) {s : σ} (start : inv s)
    (program : Prog Op Reply α) : inv (run handler s program).1 := by
  induction program generalizing s with
  | ret value => exact start
  | call op next ih => exact ih (handler s op).2 (kept s op start)

/-! ## Many programs -/

/-- The programs of many parties and the state they share. -/
structure System (σ P : Type*) (Op : Type*) (Reply : Op → Type*) (α : Type*) where
  shared : σ
  programs : P → Prog Op Reply α

variable [DecidableEq P]

/-- One party asks its next question and is let through. -/
inductive Step (enabled : P → σ → Op → Prop) (handler : P → σ → (op : Op) → σ × Reply op) :
    System σ P Op Reply α → System σ P Op Reply α → Prop
  | call (s : System σ P Op Reply α) (p : P) (op : Op) (next : Reply op → Prog Op Reply α)
      (asks : s.programs p = .call op next) (through : enabled p s.shared op) :
      Step enabled handler s
        ⟨(handler p s.shared op).1,
          Function.update s.programs p (next (handler p s.shared op).2)⟩

/-- Any number of steps, in any order. -/
def Reaches (enabled : P → σ → Op → Prop) (handler : P → σ → (op : Op) → σ × Reply op) :
    System σ P Op Reply α → System σ P Op Reply α → Prop :=
  Relation.ReflTransGen (Step enabled handler)

/-- The next question of one party is answered. -/
def System.advance (handler : P → σ → (op : Op) → σ × Reply op) (s : System σ P Op Reply α)
    (p : P) : System σ P Op Reply α :=
  match s.programs p with
  | .ret _ => s
  | .call op next =>
    ⟨(handler p s.shared op).1,
      Function.update s.programs p (next (handler p s.shared op).2)⟩

/-- A schedule whose questions all pass a check. -/
def passes (check : P → σ → Op → Bool) (handler : P → σ → (op : Op) → σ × Reply op) :
    System σ P Op Reply α → List P → Bool
  | _, [] => true
  | s, p :: later =>
    (match s.programs p with
      | .ret _ => true
      | .call op _ => check p s.shared op) && passes check handler (s.advance handler p) later

/-- A schedule that passes is a run. -/
theorem reaches_of_passes {enabled : P → σ → Op → Prop}
    {handler : P → σ → (op : Op) → σ × Reply op} {check : P → σ → Op → Bool}
    (sound : ∀ p s op, check p s op = true → enabled p s op) {schedule : List P}
    {s : System σ P Op Reply α} (pass : passes check handler s schedule = true) :
    Reaches enabled handler s (schedule.foldl (System.advance handler) s) := by
  induction schedule generalizing s with
  | nil => exact .refl
  | cons p later ih =>
    obtain ⟨through, rest⟩ := Bool.and_eq_true_iff.mp pass
    have first : Reaches enabled handler s (s.advance handler p) := by
      unfold System.advance
      cases asks : s.programs p with
      | ret value => exact .refl
      | call op next =>
        rw [asks] at through
        exact .single (.call s p op next asks (sound p s.shared op through))
    exact first.trans (ih rest)

/-- What every step keeps, every run keeps. -/
theorem Reaches.keeps {enabled : P → σ → Op → Prop}
    {handler : P → σ → (op : Op) → σ × Reply op} {s t : System σ P Op Reply α}
    (run : Reaches enabled handler s t) (inv : System σ P Op Reply α → Prop)
    (kept : ∀ s t, inv s → Step enabled handler s t → inv t) (start : inv s) : inv t := by
  induction run with
  | refl => exact start
  | tail _ step ih => exact kept _ _ ih step

/-! ## One program among many -/

/-- What the parties rely on: an invariant of the shared state and the ghost value, and
what one party may do to both. -/
structure Contract (σ γ P : Type*) where
  inv : σ → γ → Prop
  moves : P → σ → γ → σ → γ → Prop

variable {γ : Type*} (enabled : P → σ → Op → Prop) (handler : P → σ → (op : Op) → σ × Reply op)
  (contract : Contract σ γ P)

/-- Nothing the others do makes the assertion false. -/
def Stable (contract : Contract σ γ P) (p : P) (A : σ → γ → Prop) : Prop :=
  ∀ q s g t k, q ≠ p → contract.moves q s g t k → A s g → A t k

omit [DecidableEq P] in
/-- Two assertions that others keep. -/
theorem Stable.and {contract : Contract σ γ P} {p : P} {A B : σ → γ → Prop}
    (first : Stable contract p A) (second : Stable contract p B) :
    Stable contract p fun s g => A s g ∧ B s g :=
  fun q s g t k other move holds =>
    ⟨first q s g t k other move holds.1, second q s g t k other move holds.2⟩

/-- A program with stable assertions at each point: from there every call it makes is a
move of its party that keeps the invariant, and every value it returns is allowed. -/
def Safe (p : P) (post : α → σ → γ → Prop) : Prog Op Reply α → σ → γ → Prop
  | .ret value, s, g =>
    ∃ A, Stable contract p A ∧ A s g ∧ ∀ t k, contract.inv t k → A t k → post value t k
  | .call op next, s, g =>
    ∃ A, Stable contract p A ∧ A s g ∧ ∀ t k, contract.inv t k → A t k → enabled p t op →
      ∃ k', contract.moves p t k (handler p t op).1 k' ∧ contract.inv (handler p t op).1 k' ∧
        Safe p post (next (handler p t op).2) (handler p t op).1 k'

variable {enabled handler contract} {p : P} {post : α → σ → γ → Prop}

omit [DecidableEq P] in
/-- What the others do leaves a program safe. -/
theorem Safe.stable {program : Prog Op Reply α} : 
    Stable contract p (Safe enabled handler contract p post program) := by
  intro q s g t k other move safe
  cases program with
  | ret value =>
    obtain ⟨A, stable, now, allowed⟩ := safe
    exact ⟨A, stable, stable q s g t k other move now, allowed⟩
  | call op next =>
    obtain ⟨A, stable, now, steps⟩ := safe
    exact ⟨A, stable, stable q s g t k other move now, steps⟩

omit [DecidableEq P] in
/-- A value that is returned under a stable assertion. -/
theorem Safe.pure {value : α} {s : σ} {g : γ} (A : σ → γ → Prop) (stable : Stable contract p A)
    (now : A s g) (allowed : ∀ t k, contract.inv t k → A t k → post value t k) :
    Safe enabled handler contract p post (pure value) s g :=
  ⟨A, stable, now, allowed⟩

omit [DecidableEq P] in
/-- A question that is asked under a stable assertion, and what follows its answer. -/
theorem Safe.ask_bind {Reply : Op → Type w} {β : Type w}
    {handler : P → σ → (op : Op) → σ × Reply op} {post : β → σ → γ → Prop} {op : Op}
    {rest : Reply op → Prog Op Reply β} {s : σ} {g : γ} (A : σ → γ → Prop)
    (stable : Stable contract p A) (now : A s g)
    (steps : ∀ t k, contract.inv t k → A t k → enabled p t op →
      ∃ u reply k', handler p t op = (u, reply) ∧ contract.moves p t k u k' ∧
        contract.inv u k' ∧ Safe enabled handler contract p post (rest reply) u k') :
    Safe enabled handler contract p post (ask op >>= rest) s g := by
  refine ⟨A, stable, now, ?_⟩
  intro t k inv holds through
  obtain ⟨u, reply, k', answers, moved, kept, safe⟩ := steps t k inv holds through
  refine ⟨k', ?_⟩
  rw [answers]
  exact ⟨moved, kept, safe⟩

omit [DecidableEq P] in
/-- Two programs in sequence. -/
theorem Safe.bind {middle : α → σ → γ → Prop} {post : β → σ → γ → Prop}
    {program : Prog Op Reply α} {rest : α → Prog Op Reply β} {s : σ} {g : γ}
    (inv : contract.inv s g) (first : Safe enabled handler contract p middle program s g)
    (second : ∀ value t k, contract.inv t k → middle value t k →
      Safe enabled handler contract p post (rest value) t k) :
    Safe enabled handler contract p post (program.bind rest) s g := by
  induction program generalizing s g with
  | ret value =>
    obtain ⟨A, _, now, allowed⟩ := first
    exact second value s g inv (allowed s g inv now)
  | call op next ih =>
    obtain ⟨A, stable, now, steps⟩ := first
    refine ⟨A, stable, now, ?_⟩
    intro t k inv' now' through
    obtain ⟨k', moved, kept, safe⟩ := steps t k inv' now' through
    exact ⟨k', moved, kept, ih _ kept safe⟩

/-- The rule of the whole system: when every program is safe at the start, then after any
run the invariant holds, every program is safe, and what no move makes false is kept. -/
theorem Reaches.safe {post : P → α → σ → γ → Prop} {s t : System σ P Op Reply α} {g : γ}
    (run : Reaches enabled handler s t) (inv : contract.inv s.shared g)
    (safe : ∀ p, Safe enabled handler contract p (post p) (s.programs p) s.shared g)
    (A : σ → γ → Prop) (now : A s.shared g)
    (kept : ∀ p s g t k, contract.moves p s g t k → A s g → A t k) :
    ∃ k, contract.inv t.shared k ∧ A t.shared k ∧
      ∀ p, Safe enabled handler contract p (post p) (t.programs p) t.shared k := by
  refine run.keeps (fun t => ∃ k, contract.inv t.shared k ∧ A t.shared k ∧
    ∀ p, Safe enabled handler contract p (post p) (t.programs p) t.shared k) ?_ ⟨g, inv, now, safe⟩
  rintro s t ⟨k, inv, now, safe⟩ step
  cases step with
  | call q op next asks through =>
    have own := safe q
    rw [asks] at own
    obtain ⟨B, _, holds, steps⟩ := own
    obtain ⟨k', moved, inv', rest⟩ := steps _ _ inv holds through
    refine ⟨k', inv', kept q _ _ _ _ moved now, ?_⟩
    intro p
    by_cases same : p = q
    · subst same
      simpa using rest
    · simp only [Function.update_of_ne same]
      exact Safe.stable q _ _ _ _ (Ne.symm same) moved (safe p)

end Prog

end FifthD.Library
