import Mathlib.Logic.Function.Basic

/-!
A database shared by connections, with at most one of them changing it. A connection
that has begun a transaction becomes the writer with its first change; until it commits
or gives up, only it sees its changes, and nobody else can become the writer. Without a
transaction a change is committed at once.
-/
namespace FifthD.Library

/-- What is committed, who has begun a transaction, and the writer with what it sees. -/
structure TxStore (P D : Type*) where
  committed : D
  begun : P → Bool
  writer : Option (P × D)
  owned : ∀ p d, writer = some (p, d) → begun p = true

namespace TxStore

variable {P D : Type*} [DecidableEq P]

/-- No transaction is open. -/
def fresh (d : D) : TxStore P D := ⟨d, fun _ => false, none, fun _ _ absent => nomatch absent⟩

/-- What a connection sees. -/
def view (s : TxStore P D) (p : P) : D :=
  match s.writer with
  | some (q, d) => if q = p then d else s.committed
  | none => s.committed

/-- Nobody else is the writer. -/
def CanWrite (s : TxStore P D) (p : P) : Prop := ∀ q d, s.writer = some (q, d) → q = p

theorem view_of_writer {s : TxStore P D} {p : P} {d : D} (writes : s.writer = some (p, d)) :
    s.view p = d := by
  simp [view, writes]

theorem view_of_not_writer {s : TxStore P D} {p : P} (reads : ∀ d, s.writer ≠ some (p, d)) :
    s.view p = s.committed := by
  unfold view
  split
  · next q d writes =>
    split
    · next same => exact absurd (same ▸ writes) (reads d)
    · rfl
  · rfl

omit [DecidableEq P] in
/-- Who has not begun a transaction is not the writer. -/
theorem not_writer_of_not_begun {s : TxStore P D} {p : P} (idle : s.begun p = false) (d : D) :
    s.writer ≠ some (p, d) := by
  intro writes
  rw [s.owned p d writes] at idle
  cases idle

/-! ## The operations -/

/-- `BEGIN`; `none` inside a transaction. -/
def start (s : TxStore P D) (p : P) : Option (TxStore P D) :=
  if s.begun p then none
  else
    some
      { s with
        begun := Function.update s.begun p true
        owned := by
          intro q d writes
          by_cases same : q = p
          · rw [same, Function.update_self]
          · rw [Function.update_of_ne same, s.owned q d writes] }

/-- A change by a connection that can write. -/
def write (s : TxStore P D) (p : P) (d : D) : TxStore P D :=
  if open_ : s.begun p = true then
    { s with
      writer := some (p, d)
      owned := by
        intro q d' writes
        cases writes
        exact open_ }
  else { s with committed := d }

/-- The end of a connection's transaction, its changes discarded. -/
def discard (s : TxStore P D) (p : P) : TxStore P D where
  committed := s.committed
  begun := Function.update s.begun p false
  writer := s.writer.filter fun writer => writer.1 ≠ p
  owned := by
    intro q d writes
    obtain ⟨writes, other⟩ := Option.filter_eq_some_iff.mp writes
    have different : q ≠ p := by simpa using other
    rw [Function.update_of_ne different, s.owned q d writes]

/-- `ROLLBACK`; `none` outside a transaction. -/
def rollback (s : TxStore P D) (p : P) : Option (TxStore P D) :=
  if s.begun p then some (s.discard p) else none

/-- `COMMIT`; `none` outside a transaction. -/
def commit (s : TxStore P D) (p : P) : Option (TxStore P D) :=
  if s.begun p then some { s.discard p with committed := s.view p } else none

theorem start_of_not_begun {s : TxStore P D} {p : P} (idle : s.begun p = false) :
    ∃ t, s.start p = some t ∧ t.begun p = true ∧ t.committed = s.committed ∧
      t.writer = s.writer := by
  unfold start
  rw [if_neg (by simp [idle])]
  exact ⟨_, rfl, Function.update_self _ _ _, rfl, rfl⟩

omit [DecidableEq P] in
theorem write_of_begun {s : TxStore P D} {p : P} (opened : s.begun p = true) (d : D) :
    (s.write p d).writer = some (p, d) ∧ (s.write p d).begun = s.begun ∧
      (s.write p d).committed = s.committed := by
  unfold write
  rw [dif_pos opened]
  exact ⟨rfl, rfl, rfl⟩

theorem commit_of_begun {s : TxStore P D} {p : P} (opened : s.begun p = true) :
    ∃ t, s.commit p = some t ∧ t.begun p = false ∧ t.committed = s.view p := by
  unfold commit
  rw [if_pos opened]
  exact ⟨_, rfl, Function.update_self _ _ _, rfl⟩

theorem rollback_of_begun {s : TxStore P D} {p : P} (opened : s.begun p = true) :
    s.rollback p = some (s.discard p) := by
  unfold rollback
  rw [if_pos opened]

@[simp] theorem discard_committed (s : TxStore P D) (p : P) :
    (s.discard p).committed = s.committed := rfl

/-! ## What the others see -/

/-- The others keep their transactions and what they have written. -/
structure Apart (p : P) (s t : TxStore P D) : Prop where
  begun : ∀ q, q ≠ p → t.begun q = s.begun q
  writer : ∀ q d, q ≠ p → (t.writer = some (q, d) ↔ s.writer = some (q, d))

omit [DecidableEq P] in
theorem apart_refl (p : P) (s : TxStore P D) : Apart p s s :=
  ⟨fun _ _ => rfl, fun _ _ _ => Iff.rfl⟩

theorem apart_start {s t : TxStore P D} {p : P} (ran : s.start p = some t) : Apart p s t := by
  unfold start at ran
  split at ran
  · cases ran
  · cases ran
    exact ⟨fun _ other => Function.update_of_ne other _ _, fun _ _ _ => Iff.rfl⟩

omit [DecidableEq P] in
theorem apart_write {s : TxStore P D} {p : P} (can : s.CanWrite p) (d : D) :
    Apart p s (s.write p d) := by
  unfold write
  split
  · refine ⟨fun _ _ => rfl, ?_⟩
    intro q d' other
    constructor
    · intro writes
      cases writes
      exact absurd rfl other
    · intro writes
      exact absurd (can q d' writes) other
  · exact ⟨fun _ _ => rfl, fun _ _ _ => Iff.rfl⟩

theorem apart_discard (s : TxStore P D) (p : P) : Apart p s (s.discard p) := by
  refine ⟨fun _ other => Function.update_of_ne other _ _, ?_⟩
  intro q d other
  simp only [discard, Option.filter_eq_some_iff]
  constructor
  · exact And.left
  · intro writes
    exact ⟨writes, by simpa using other⟩

theorem apart_commit {s t : TxStore P D} {p : P} (ran : s.commit p = some t) : Apart p s t := by
  unfold commit at ran
  split at ran
  · cases ran
    obtain ⟨begun, writer⟩ := apart_discard s p
    exact ⟨begun, writer⟩
  · cases ran

/-! ## One connection among others -/

section Only

variable {s : TxStore Unit D}

/-- A connection's store where nobody else has begun a transaction. -/
def only (p : P) (s : TxStore Unit D) : TxStore P D where
  committed := s.committed
  begun := Function.update (fun _ => false) p (s.begun ())
  writer := s.writer.map fun writer => (p, writer.2)
  owned := by
    intro q d writes
    obtain ⟨writer, own, same⟩ := Option.map_eq_some_iff.mp writes
    cases same
    rw [Function.update_self]
    exact s.owned () writer.2 own

omit [DecidableEq P] in
private theorem eq_of_fields {s t : TxStore P D} (committed : s.committed = t.committed)
    (begun : s.begun = t.begun) (writer : s.writer = t.writer) : s = t := by
  cases s
  cases t
  cases committed
  cases begun
  cases writer
  rfl

@[simp] theorem only_committed (p : P) (s : TxStore Unit D) :
    (s.only p).committed = s.committed := rfl

@[simp] theorem only_begun (p : P) (s : TxStore Unit D) : (s.only p).begun p = s.begun () := by
  change Function.update (fun _ => false) p (s.begun ()) p = s.begun ()
  rw [Function.update_self]

/-- Without a transaction it is nobody's. -/
theorem only_fresh (p : P) (d : D) : (fresh d).only p = (fresh d : TxStore P D) := by
  refine eq_of_fields rfl ?_ rfl
  exact Function.update_eq_self p _

theorem only_view (p : P) (s : TxStore Unit D) : (s.only p).view p = s.view () := by
  cases own : s.writer with
  | none =>
    have nobody : (s.only p).writer = none := congrArg (Option.map _) own
    simp only [view, nobody, own, only_committed]
  | some writer =>
    have mine : (s.only p).writer = some (p, writer.2) := congrArg (Option.map _) own
    rw [view_of_writer mine, view_of_writer own]

theorem only_start (p : P) (s : TxStore Unit D) :
    (s.only p).start p = (s.start ()).map (only p) := by
  unfold start
  rw [only_begun]
  split
  · rfl
  · refine congrArg some (eq_of_fields rfl ?_ rfl)
    exact Function.update_idem _ _ _

theorem only_write (p : P) (s : TxStore Unit D) (d : D) :
    (s.only p).write p d = (s.write () d).only p := by
  unfold write
  by_cases opened : s.begun () = true
  · rw [dif_pos opened, dif_pos ((only_begun p s).trans opened)]
    exact eq_of_fields rfl rfl rfl
  · rw [dif_neg opened, dif_neg (fun own => opened ((only_begun p s).symm.trans own))]
    exact eq_of_fields rfl rfl rfl

theorem only_discard (p : P) (s : TxStore Unit D) :
    (s.only p).discard p = (s.discard ()).only p := by
  refine eq_of_fields rfl ?_ ?_
  · exact Function.update_idem _ _ _
  · change (s.writer.map fun writer => (p, writer.2)).filter _ = (s.writer.filter _).map _
    cases s.writer with
    | none => rfl
    | some writer => simp [Option.filter]

theorem only_rollback (p : P) (s : TxStore Unit D) :
    (s.only p).rollback p = (s.rollback ()).map (only p) := by
  unfold rollback
  rw [only_begun, only_discard]
  split
  · rfl
  · rfl

theorem only_commit (p : P) (s : TxStore Unit D) :
    (s.only p).commit p = (s.commit ()).map (only p) := by
  unfold commit
  rw [only_begun, only_discard, only_view]
  split
  · exact congrArg some (eq_of_fields rfl rfl rfl)
  · rfl

end Only

end TxStore

end FifthD.Library
