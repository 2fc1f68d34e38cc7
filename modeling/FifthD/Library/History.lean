import Mathlib.Data.List.Induction

/-!
Histories of steps: what has happened at some step, and what held at every step, given the
steps before it. Nothing here names a particular program.
-/
namespace FifthD.Library

variable {α : Type*}

/-- At some step of the history `P` held of the past and of the step. -/
def Happened (P : List α → α → Prop) (history : List α) : Prop :=
  ∃ past x later, history = past ++ x :: later ∧ P past x

theorem not_happened_nil (P : List α → α → Prop) : ¬ Happened P [] := by
  intro happened
  obtain ⟨past, x, later, split, _⟩ := happened
  exact List.append_ne_nil_of_right_ne_nil past (List.cons_ne_nil x later) split.symm

/-- What has happened after one more step happened before, or at this step. -/
theorem happened_snoc (P : List α → α → Prop) (history : List α) (x : α) :
    Happened P (history ++ [x]) ↔ Happened P history ∨ P history x := by
  constructor
  · intro happened
    obtain ⟨past, step, later, split, holds⟩ := happened
    induction later using List.reverseRecOn with
    | nil =>
      obtain ⟨rfl, last⟩ := List.append_inj' split rfl
      obtain rfl : x = step := List.head_eq_of_cons_eq last
      exact .inr holds
    | append_singleton later last _ =>
      rw [← List.cons_append, ← List.append_assoc] at split
      obtain ⟨rfl, _⟩ := List.append_inj' split rfl
      exact .inl ⟨past, step, later, rfl, holds⟩
  · intro either
    rcases either with happened | now
    · obtain ⟨past, step, later, split, holds⟩ := happened
      exact ⟨past, step, later ++ [x], by rw [split, List.append_assoc, List.cons_append], holds⟩
    · exact ⟨history, x, [], rfl, now⟩

/-- What has happened stays so when the history goes on. -/
theorem Happened.append {P : List α → α → Prop} {history : List α} (happened : Happened P history)
    (later : List α) : Happened P (history ++ later) := by
  obtain ⟨past, x, rest, split, holds⟩ := happened
  exact ⟨past, x, rest ++ later, by rw [split, List.append_assoc, List.cons_append], holds⟩

/-! ## What held at every step -/

/-- At every step of the history `P` held of the past and of the step. -/
def Throughout (P : List α → α → Prop) (history : List α) : Prop :=
  ∀ past x later, history = past ++ x :: later → P past x

theorem throughout_iff_not_happened (P : List α → α → Prop) (history : List α) :
    Throughout P history ↔ ¬ Happened (fun past x => ¬ P past x) history := by
  constructor
  · rintro always ⟨past, x, later, split, fails⟩
    exact fails (always past x later split)
  · intro never past x later split
    by_contra fails
    exact never ⟨past, x, later, split, fails⟩

theorem throughout_nil (P : List α → α → Prop) : Throughout P [] :=
  (throughout_iff_not_happened P []).mpr (not_happened_nil _)

/-- What holds throughout one step more held throughout before, and holds at this step. -/
theorem throughout_snoc (P : List α → α → Prop) (history : List α) (x : α) :
    Throughout P (history ++ [x]) ↔ Throughout P history ∧ P history x := by
  rw [throughout_iff_not_happened, throughout_iff_not_happened, happened_snoc, not_or, not_not]

/-! ## The last value -/

variable {β : Type*}

/-- The value of the last step that has one. -/
def latest (value : α → Option β) (history : List α) : Option β := history.reverse.findSome? value

@[simp] theorem latest_nil (value : α → Option β) : latest value [] = none := rfl

theorem latest_snoc (value : α → Option β) (history : List α) (x : α) :
    latest value (history ++ [x]) = (value x).or (latest value history) := by
  unfold latest
  rw [List.reverse_append, List.reverse_singleton, List.singleton_append, List.findSome?_cons]
  cases value x <;> rfl

/-- A step has it, and none after it has any. -/
theorem latest_eq_some_iff (value : α → Option β) (history : List α) (v : β) :
    latest value history = some v ↔
      ∃ past x later, history = past ++ x :: later ∧ value x = some v ∧
        ∀ y ∈ later, value y = none := by
  unfold latest
  rw [List.findSome?_eq_some_iff]
  constructor
  · rintro ⟨later, x, past, split, spoke, silent⟩
    refine ⟨past.reverse, x, later.reverse, ?_, spoke, fun y member => silent y ?_⟩
    · rw [← List.reverse_reverse history, split]
      simp
    · exact List.mem_reverse.mp member
  · rintro ⟨past, x, later, rfl, spoke, silent⟩
    refine ⟨later.reverse, x, past.reverse, by simp, spoke, fun y member => silent y ?_⟩
    exact List.mem_reverse.mp member

end FifthD.Library
