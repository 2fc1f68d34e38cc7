import Mathlib.Data.Fintype.Card
import Mathlib.Data.List.Iterate

/-!
Stack allocation of a finite set of cells, and free lists threaded through the
cells by a successor function. `alloc` and `free` say what such an allocator is
for; `Threads` ties the stack to a head cell, a successor function, a usage flag
per cell and a usage counter. A successor is meaningful for free cells only, so
the chain is read for exactly as many steps as there are free cells.
-/
namespace FifthD.Library.FreeList

variable {α : Type*}

/-- Push a cell back. Freeing a cell that is free already fails. -/
def free [DecidableEq α] (stack : List α) (cell : α) : Bool × List α :=
  if cell ∈ stack then (false, stack) else (true, cell :: stack)

/-- Redirecting the successor of a cell off the chain leaves the chain alone. -/
theorem iterate_update_of_notMem [DecidableEq α] (next : α → α) (cell target : α) (head : α)
    (n : Nat) (off : cell ∉ List.iterate next head n) :
    List.iterate (Function.update next cell target) head n = List.iterate next head n := by
  induction n generalizing head with
  | zero => rfl
  | succ n ih =>
    simp only [List.iterate, List.mem_cons, not_or] at off ⊢
    rw [Function.update_of_ne (Ne.symm off.1), ih (next head) off.2]

/-! ## Owners of cells -/

/-- The cells off the stack are those that have an owner, each just one. -/
structure Owners {θ : Type*} (stack : List α) (cell : θ → Option α) (owners : Finset θ) :
    Prop where
  free : ∀ c, c ∈ stack ↔ ∀ p, cell p ≠ some c
  apart : ∀ p q c, cell p = some c → cell q = some c → p = q
  members : ∀ p, p ∈ owners ↔ cell p ≠ none

namespace Owners

variable {θ : Type*} [DecidableEq θ] {stack : List α} {cell : θ → Option α} {owners : Finset θ}
  {p q : θ} {c d : α}

/-- Where a cell is after a change at one owner. -/
theorem update_eq_some {new : Option α} (has : Function.update cell p new q = some d) :
    q = p ∧ new = some d ∨ q ≠ p ∧ cell q = some d := by
  by_cases same : q = p
  · subst same
    rw [Function.update_self] at has
    exact .inl ⟨rfl, has⟩
  · rw [Function.update_of_ne same] at has
    exact .inr ⟨same, has⟩

/-- The top cell gets an owner. -/
theorem take (o : Owners (c :: stack) cell owners) (top : c ∉ stack) (without : cell p = none) :
    Owners stack (Function.update cell p (some c)) (insert p owners) := by
  have unowned := (o.free c).mp List.mem_cons_self
  constructor
  · intro d
    constructor
    · intro free q has
      rcases update_eq_some has with ⟨_, same⟩ | ⟨_, has⟩
      · cases same
        exact top free
      · exact (o.free d).mp (List.mem_cons_of_mem c free) q has
    · intro none
      have before : d ∈ c :: stack := by
        rw [o.free d]
        intro q has
        by_cases same : q = p
        · rw [same, without] at has
          cases has
        · exact none q ((Function.update_of_ne same _ cell).trans has)
      rcases List.mem_cons.mp before with rfl | free
      · exact absurd (Function.update_self p _ cell) (none p)
      · exact free
  · intro q r d first second
    rcases update_eq_some first with ⟨here, same⟩ | ⟨_, before⟩
    · rcases update_eq_some second with ⟨there, _⟩ | ⟨_, before⟩
      · exact here.trans there.symm
      · cases same
        exact absurd before (unowned r)
    · rcases update_eq_some second with ⟨_, same⟩ | ⟨_, before'⟩
      · cases same
        exact absurd before (unowned q)
      · exact o.apart q r d before before'
  · intro q
    by_cases same : q = p
    · subst same
      simp
    · rw [Function.update_of_ne same, Finset.mem_insert, or_iff_right same]
      exact o.members q

/-- An owner gives its cell back. -/
theorem give (o : Owners stack cell owners) (has : cell p = some c) :
    Owners (c :: stack) (Function.update cell p none) (owners.erase p) := by
  constructor
  · intro d
    constructor
    · intro free q owned
      rcases update_eq_some owned with ⟨_, nothing⟩ | ⟨other, owned⟩
      · cases nothing
      · rcases List.mem_cons.mp free with rfl | free
        · exact other (o.apart q p d owned has)
        · exact (o.free d).mp free q owned
    · intro none
      by_cases same : d = c
      · exact same ▸ List.mem_cons_self
      · refine List.mem_cons_of_mem c ((o.free d).mpr fun q owned => ?_)
        by_cases this : q = p
        · rw [this, has] at owned
          exact same (Option.some.inj owned).symm
        · exact none q ((Function.update_of_ne this _ cell).trans owned)
  · intro q r d first second
    rcases update_eq_some first with ⟨_, nothing⟩ | ⟨_, before⟩
    · cases nothing
    · rcases update_eq_some second with ⟨_, nothing⟩ | ⟨_, before'⟩
      · cases nothing
      · exact o.apart q r d before before'
  · intro q
    by_cases same : q = p
    · subst same
      simp
    · rw [Function.update_of_ne same, Finset.mem_erase, and_iff_right same]
      exact o.members q

/-- An owner is one of the owners, so with a cell less there is one owner less. -/
theorem card_give (o : Owners stack cell owners) (has : cell p = some c) :
    (owners.erase p).card + 1 = owners.card := by
  have member : p ∈ owners := (o.members p).mpr (has ▸ Option.some_ne_none c)
  exact Finset.card_erase_add_one member

theorem card_take (o : Owners stack cell owners) (without : cell p = none) :
    (insert p owners).card = owners.card + 1 :=
  Finset.card_insert_of_notMem fun member => (o.members p).mp member without

end Owners

variable [Fintype α]

/-- The free cells, top first, read off a head, a successor function, a usage
flag and the number of cells in use. -/
structure Threads (next : α → α) (head : α) (used : α → Bool) (usedCount : Nat)
    (stack : List α) : Prop where
  chain : List.iterate next head stack.length = stack
  idle : ∀ cell, cell ∈ stack ↔ used cell = false
  nodup : stack.Nodup
  count : stack.length + usedCount = Fintype.card α

namespace Threads

variable {next : α → α} {head : α} {used : α → Bool} {usedCount : Nat} {stack : List α}

theorem head_eq (t : Threads next head used usedCount stack) {cell : α} {rest : List α}
    (h : stack = cell :: rest) : head = cell := by
  have chain := t.chain
  rw [h] at chain
  exact (List.cons.inj chain).1

theorem full_iff (t : Threads next head used usedCount stack) :
    usedCount = Fintype.card α ↔ stack = [] := by
  rw [← t.count, ← List.length_eq_zero_iff]
  omega

variable [DecidableEq α]

/-- Taking the head cell: its successor becomes the head and its flag is set. -/
theorem take (t : Threads next head used usedCount stack) {cell : α} {rest : List α}
    (h : stack = cell :: rest) :
    Threads next (next head) (Function.update used cell true) (usedCount + 1) rest := by
  subst h
  have chain := t.chain
  have count := t.count
  have nodup := List.nodup_cons.mp t.nodup
  simp only [List.length_cons, List.iterate, List.cons.injEq] at chain count
  refine ⟨chain.2, ?_, nodup.2, by omega⟩
  intro other
  by_cases equal : other = cell
  · subst equal
    simp [nodup.1]
  · rw [Function.update_of_ne equal, ← t.idle other]
    simp [equal]

/-- Giving back a cell in use: it becomes the head, in front of the old one. -/
theorem give (t : Threads next head used usedCount stack) {cell : α}
    (busy : used cell = true) :
    Threads (Function.update next cell head) cell (Function.update used cell false)
      (usedCount - 1) (cell :: stack) := by
  have off : cell ∉ stack := by simp [t.idle cell, busy]
  have positive : stack.length < Fintype.card α := by
    have bound := (List.nodup_cons.mpr ⟨off, t.nodup⟩).length_le_card
    exact bound
  refine ⟨?_, ?_, List.nodup_cons.mpr ⟨off, t.nodup⟩, ?_⟩
  · simp only [List.length_cons, List.iterate, Function.update_self]
    rw [iterate_update_of_notMem next cell head head stack.length (by rw [t.chain]; exact off),
      t.chain]
  · intro other
    by_cases equal : other = cell
    · subst equal
      simp
    · rw [Function.update_of_ne equal, ← t.idle other]
      simp [equal]
  · have count := t.count
    simp only [List.length_cons]
    omega

end Threads

end FifthD.Library.FreeList
