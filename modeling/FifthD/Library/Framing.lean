import Mathlib.Data.List.Induction

/-!
Streams of frames that carry a "more follows" flag, and the messages they make
up: frames are joined until one comes without the flag. The frames after the
last complete message are the open message.
-/
namespace FifthD.Library.Framing

variable {α : Type*}

/-- One frame joins the open message, or completes it. -/
def push (state : List (List α) × List α) (frame : α × Bool) : List (List α) × List α :=
  if frame.2 then (state.1, state.2 ++ [frame.1])
  else (state.1 ++ [state.2 ++ [frame.1]], [])

/-- The complete messages of a stream, and its open message. -/
def assemble (stream : List (α × Bool)) : List (List α) × List α := stream.foldl push ([], [])

def messages (stream : List (α × Bool)) : List (List α) := (assemble stream).1

def openPart (stream : List (α × Bool)) : List α := (assemble stream).2

/-- Complete messages in front of the fold do not change what it adds. -/
theorem foldl_push_done (stream : List (α × Bool)) (done : List (List α)) (pending : List α) :
    stream.foldl push (done, pending) =
      (done ++ (stream.foldl push ([], pending)).1, (stream.foldl push ([], pending)).2) := by
  induction stream generalizing done pending with
  | nil => simp
  | cons frame rest ih =>
    rcases frame with ⟨content, more⟩
    cases more with
    | true =>
      simp only [List.foldl_cons, push, if_true]
      exact ih done (pending ++ [content])
    | false =>
      simp only [List.foldl_cons, push, Bool.false_eq_true, if_false, List.nil_append]
      rw [ih (done ++ [pending ++ [content]]) [], ih [pending ++ [content]] []]
      simp [List.append_assoc]

@[simp] theorem messages_nil : messages ([] : List (α × Bool)) = [] := rfl

@[simp] theorem openPart_nil : openPart ([] : List (α × Bool)) = [] := rfl

/-- Behind a stream with no open message the frames form messages of their own. -/
theorem messages_append {first second : List (α × Bool)} (closed : openPart first = []) :
    messages (first ++ second) = messages first ++ messages second := by
  have split := foldl_push_done second (messages first) []
  unfold messages assemble
  rw [List.foldl_append]
  rw [show first.foldl push ([], []) = (messages first, openPart first) from rfl, closed, split]

theorem openPart_append {first second : List (α × Bool)} (closed : openPart first = []) :
    openPart (first ++ second) = openPart second := by
  have split := foldl_push_done second (messages first) []
  unfold openPart assemble
  rw [List.foldl_append]
  rw [show first.foldl push ([], []) = (messages first, openPart first) from rfl, closed, split]

/-- Frames that all promise more stay open. -/
theorem assemble_more (contents : List α) :
    assemble (contents.map fun content => (content, true)) = ([], contents) := by
  induction contents using List.reverseRecOn with
  | nil => rfl
  | append_singleton before content ih =>
    unfold assemble at ih ⊢
    rw [List.map_append, List.foldl_append, ih]
    simp [push]

/-- One frame without the flag turns all open frames into one message. -/
theorem assemble_complete (contents : List α) (last : α) :
    assemble ((contents.map fun content => (content, true)) ++ [(last, false)]) =
      ([contents ++ [last]], []) := by
  have before := assemble_more contents
  unfold assemble at before ⊢
  rw [List.foldl_append, before]
  simp [push]

/-- A stream has no open message exactly when its last frame, if any, came
without the flag. -/
theorem openPart_eq_nil_iff (stream : List (α × Bool)) :
    openPart stream = [] ↔ ∀ frame, stream.getLast? = some frame → frame.2 = false := by
  induction stream using List.reverseRecOn with
  | nil => simp
  | append_singleton before frame _ =>
    rcases frame with ⟨content, more⟩
    simp only [List.getLast?_append, List.getLast?_singleton, Option.some_or, Option.some.injEq,
      forall_eq']
    cases more <;> simp [openPart, assemble, push]

/-- No frame is lost: the messages and the open message are all frames of the stream. -/
theorem flatten_messages (stream : List (α × Bool)) :
    (messages stream).flatten ++ openPart stream = stream.map Prod.fst := by
  induction stream using List.reverseRecOn with
  | nil => rfl
  | append_singleton before frame ih =>
    unfold messages openPart at ih ⊢
    have last : assemble (before ++ [frame]) = push (assemble before) frame := by
      unfold assemble
      rw [List.foldl_append]
      rfl
    rw [last, List.map_append, ← ih]
    rcases frame with ⟨content, more⟩
    cases more with
    | true => simp [push]
    | false => simp [push]

/-- A stream without messages has no frames. -/
theorem eq_nil_of_messages {stream : List (α × Bool)} (none_done : messages stream = [])
    (closed : openPart stream = []) : stream = [] := by
  have frames := flatten_messages stream
  rw [none_done, closed] at frames
  exact List.map_eq_nil_iff.mp frames.symm

/-! ## A sender that stops at its first failure -/

/-- The frames a sender gets through: those before the first failed send. Sends
beyond the listed outcomes succeed. -/
def accepted : List Bool → List α → List α
  | _, [] => []
  | outcomes, frame :: later =>
    if outcomes.headD true then frame :: accepted outcomes.tail later else []

/-- None of the first `n` sends fails. -/
def Succeed (outcomes : List Bool) (n : Nat) : Prop := false ∉ outcomes.take n

instance (outcomes : List Bool) (n : Nat) : Decidable (Succeed outcomes n) :=
  inferInstanceAs (Decidable (false ∉ outcomes.take n))

@[simp] theorem succeed_zero (outcomes : List Bool) : Succeed outcomes 0 := by
  simp [Succeed]

theorem succeed_succ (outcomes : List Bool) (n : Nat) :
    Succeed outcomes (n + 1) ↔ outcomes.headD true = true ∧ Succeed outcomes.tail n := by
  unfold Succeed
  cases outcomes with
  | nil => simp
  | cons outcome later => simp

theorem accepted_map {β : Type*} (f : α → β) (outcomes : List Bool) (frames : List α) :
    accepted outcomes (frames.map f) = (accepted outcomes frames).map f := by
  induction frames generalizing outcomes with
  | nil => rfl
  | cons frame later ih =>
    simp only [List.map_cons, accepted, ih]
    split
    · rw [List.map_cons]
    · rfl

theorem accepted_eq_nil_iff (outcomes : List Bool) (frames : List α) :
    accepted outcomes frames = [] ↔ frames = [] ∨ outcomes.headD true = false := by
  cases frames with
  | nil => simp [accepted]
  | cons frame later => simp [accepted]

/-- With no failure everything gets through. -/
theorem accepted_all {outcomes : List Bool} {frames : List α}
    (succeed : Succeed outcomes frames.length) : accepted outcomes frames = frames := by
  induction frames generalizing outcomes with
  | nil => rfl
  | cons frame later ih =>
    obtain ⟨first, rest⟩ := (succeed_succ _ _).mp succeed
    rw [accepted, if_pos first, ih rest]

/-- The first failure is behind `k` sends: no more than these get through. -/
theorem accepted_fail {outcomes : List Bool} {frames : List α} {k : Nat}
    (succeed : Succeed outcomes k) (fails : outcomes[k]? = some false) :
    accepted outcomes frames = frames.take k := by
  induction frames generalizing outcomes k with
  | nil => rw [accepted, List.take_nil]
  | cons frame later ih =>
    obtain ⟨outcome, rest, rfl⟩ : ∃ outcome rest, outcomes = outcome :: rest := by
      cases outcomes with
      | nil => cases fails
      | cons outcome rest => exact ⟨outcome, rest, rfl⟩
    cases k with
    | zero =>
      cases fails
      rfl
    | succ k =>
      obtain ⟨first, tail⟩ := (succeed_succ _ _).mp succeed
      rw [accepted, if_pos first, List.take_succ_cons, ih tail fails]

/-- A failure among the first `n` sends. -/
theorem not_succeed_of_fail {outcomes : List Bool} {k n : Nat} (fails : outcomes[k]? = some false)
    (early : k < n) : ¬ Succeed outcomes n := by
  have kept : (outcomes.take n)[k]? = some false := by rw [List.getElem?_take_of_lt early, fails]
  exact fun succeed => succeed (List.mem_of_getElem? kept)

/-- With a failure the last frame does not get through. -/
theorem accepted_cut {outcomes : List Bool} {before : List α}
    (fails : ¬ Succeed outcomes (before.length + 1)) (last : α) :
    accepted outcomes (before ++ [last]) = accepted outcomes before := by
  induction before generalizing outcomes with
  | nil =>
    have first : outcomes.headD true ≠ true := by
      intro ok
      exact fails ((succeed_succ _ _).mpr ⟨ok, succeed_zero _⟩)
    exact (accepted_eq_nil_iff _ _).mpr (Or.inr (Bool.eq_false_iff.mpr first))
  | cons frame later ih =>
    simp only [List.cons_append, accepted]
    split
    · next first =>
      rw [ih]
      intro rest
      exact fails ((succeed_succ _ _).mpr ⟨first, rest⟩)
    · rfl

/-- Of one message, sent frame by frame, nothing is left open exactly when it was
never begun or completed. -/
theorem openPart_accepted_iff (outcomes : List Bool) (contents : List α) (last : α) :
    openPart (accepted outcomes ((contents.map fun content => (content, true)) ++ [(last, false)]))
        = [] ↔
      outcomes.headD true = false ∨ Succeed outcomes (contents.length + 1) := by
  by_cases succeed : Succeed outcomes (contents.length + 1)
  · have whole := assemble_complete contents last
    rw [accepted_all (by simpa using succeed)]
    simp [openPart, whole, succeed]
  · have before := assemble_more (accepted outcomes contents)
    rw [accepted_cut (by simpa using succeed), accepted_map]
    simp only [openPart, before, accepted_eq_nil_iff, succeed, or_false]
    constructor
    · rintro (rfl | fails)
      · by_contra ok
        exact succeed ((succeed_succ _ _).mpr ⟨by simpa using ok, succeed_zero _⟩)
      · exact fails
    · exact Or.inr

end FifthD.Library.Framing
