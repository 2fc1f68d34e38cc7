import FifthD.Library.Interaction
import FifthD.Library.Traces

/-!
Calls under one mutex, from any number of callers. The code of a call is a program of reads
and writes of what the callers share, run while the mutex is held; a call may also return
before it takes the mutex, and a program that ends without a value takes the process down.
Of the two machines here, one takes the mutex, reads and writes step by step and gives it
back, and the other does a whole call in one step.
-/
namespace FifthD.Library.Mutex

variable {σ P Call Res Op : Type*} {Reply : Op → Type*}

/-- What is seen of the calls. -/
inductive Event (P Call Res : Type*) where
  | invoked (p : P) (c : Call)
  | returned (p : P) (r : Res)
  | aborted (p : P)
  deriving DecidableEq

/-- Where a caller is: in no call, in a call that has not had its effect, or in one that has. -/
inductive Caller (Call Res : Type*) where
  | idle
  | invoked (c : Call)
  | leaving (r : Res)

/-- What the callers share, where each of them is, and whether the process is up. -/
structure Object (σ P Call Res : Type*) where
  shared : σ
  callers : P → Caller Call Res
  alive : Bool

/-- A move of a machine whose calls are single steps. -/
inductive ObjectMove (P Call : Type*) where
  | invoke (p : P) (c : Call)
  | execute (p : P)
  | respond (p : P)

variable [DecidableEq P]

namespace Object

/-- Nobody has called yet. -/
def start (s : σ) : Object σ P Call Res := ⟨s, fun _ => .idle, true⟩

/-- One caller goes on. -/
def move (s : Object σ P Call Res) (p : P) (caller : Caller Call Res) : Object σ P Call Res :=
  { s with callers := Function.update s.callers p caller }

/-- What is shared has changed. -/
def after (s : Object σ P Call Res) (shared : σ) : Object σ P Call Res := { s with shared }

def invoke (s : Object σ P Call Res) (p : P) (c : Call) :
    Option (Object σ P Call Res × Option (Event P Call Res)) :=
  match s.callers p with
  | .idle => some (s.move p (.invoked c), some (.invoked p c))
  | _ => none

def respond (s : Object σ P Call Res) (p : P) :
    Option (Object σ P Call Res × Option (Event P Call Res)) :=
  match s.callers p with
  | .leaving r => some (s.move p .idle, some (.returned p r))
  | _ => none

/-- The effect of a call, or the end of the process. -/
def finish (s : Object σ P Call Res) (p : P) :
    Option (σ × Res) → Object σ P Call Res × Option (Event P Call Res)
  | some (next, r) => ((s.after next).move p (.leaving r), none)
  | none => ({ s with alive := false }, some (.aborted p))

/-- One move, while the process is up. -/
def step (call : σ → Call → Option (σ × Res)) (s : Object σ P Call Res) (m : ObjectMove P Call) :
    Option (Object σ P Call Res × Option (Event P Call Res)) :=
  if s.alive then
    match m with
    | .invoke p c => s.invoke p c
    | .execute p =>
      match s.callers p with
      | .invoked c => some (s.finish p (call s.shared c))
      | _ => none
    | .respond p => s.respond p
  else none

variable {s : Object σ P Call Res} {p : P} {c : Call}
  {went : Object σ P Call Res × Option (Event P Call Res)}

theorem invoke_some (invoked : s.invoke p c = some went) :
    s.callers p = .idle ∧ went = (s.move p (.invoked c), some (.invoked p c)) := by
  unfold invoke at invoked
  split at invoked
  case h_1 idle => exact ⟨idle, (Option.some.inj invoked).symm⟩
  case h_2 => cases invoked

theorem respond_some (responded : s.respond p = some went) :
    ∃ r, s.callers p = .leaving r ∧ went = (s.move p .idle, some (.returned p r)) := by
  unfold respond at responded
  split at responded
  case h_1 r leaving => exact ⟨r, leaving, (Option.some.inj responded).symm⟩
  case h_2 => cases responded

variable {call : σ → Call → Option (σ × Res)}

theorem step_invoke (up : s.alive = true) (idle : s.callers p = .idle) :
    s.step call (.invoke p c) = some (s.move p (.invoked c), some (.invoked p c)) := by
  simp only [step, up, if_true, invoke, idle]

theorem step_execute (up : s.alive = true) (invoked : s.callers p = .invoked c) :
    s.step call (.execute p) = some (s.finish p (call s.shared c)) := by
  simp only [step, up, if_true, invoked]

theorem step_respond (up : s.alive = true) {r : Res} (leaving : s.callers p = .leaving r) :
    s.step call (.respond p) = some (s.move p .idle, some (.returned p r)) := by
  simp only [step, up, if_true, respond, leaving]

/-- What a step can be. -/
theorem step_cases {m : ObjectMove P Call} (stepped : s.step call m = some went) :
    s.alive = true ∧
      ((∃ p c, m = .invoke p c ∧ s.callers p = .idle ∧
          went = (s.move p (.invoked c), some (.invoked p c))) ∨
        (∃ p c, m = .execute p ∧ s.callers p = .invoked c ∧
          went = s.finish p (call s.shared c)) ∨
        ∃ p r, m = .respond p ∧ s.callers p = .leaving r ∧
          went = (s.move p .idle, some (.returned p r))) := by
  obtain ⟨up, moved⟩ := Option.ite_none_right_eq_some.mp stepped
  refine ⟨up, ?_⟩
  cases m with
  | invoke p c => exact .inl ⟨p, c, rfl, invoke_some moved⟩
  | execute p =>
    dsimp only at moved
    split at moved
    case h_1 c invoked => exact .inr (.inl ⟨p, c, rfl, invoked, (Option.some.inj moved).symm⟩)
    case h_2 => cases moved
  | respond p =>
    obtain ⟨r, leaving, same⟩ := respond_some moved
    exact .inr (.inr ⟨p, r, rfl, leaving, same⟩)

end Object

/-- The code of the calls: what a call returns before it takes the mutex, if it does, and its
program under the mutex. -/
structure Code (Call Res Op : Type*) (Reply : Op → Type*) where
  early : Call → Option Res
  body : Call → Prog Op Reply (Option Res)

/-- The callers, and the one in the mutex with what is left of its program. -/
structure Guarded (σ P Call Res Op : Type*) (Reply : Op → Type*) where
  object : Object σ P Call Res
  holder : Option (P × Prog Op Reply (Option Res))

/-- A move of a machine whose calls take the mutex. -/
inductive GuardedMove (P Call : Type*) where
  | invoke (p : P) (c : Call)
  | leave (p : P)
  | lock (p : P)
  | access
  | unlock
  | abort
  | respond (p : P)

namespace Guarded

def start (s : σ) : Guarded σ P Call Res Op Reply := ⟨Object.start s, none⟩

/-- The callers go on, and the mutex is as it was. -/
def follow (s : Guarded σ P Call Res Op Reply)
    (went : Object σ P Call Res × Option (Event P Call Res)) :
    Guarded σ P Call Res Op Reply × Option (Event P Call Res) :=
  (⟨went.1, s.holder⟩, went.2)

/-- One move, while the process is up. -/
def step (code : Code Call Res Op Reply) (handler : σ → (op : Op) → σ × Reply op)
    (s : Guarded σ P Call Res Op Reply) (m : GuardedMove P Call) :
    Option (Guarded σ P Call Res Op Reply × Option (Event P Call Res)) :=
  if s.object.alive then
    match m with
    | .invoke p c => (s.object.invoke p c).map s.follow
    | .leave p =>
      match s.object.callers p with
      | .invoked c => (code.early c).map fun r => s.follow (s.object.move p (.leaving r), none)
      | _ => none
    | .lock p =>
      match s.object.callers p, s.holder with
      | .invoked c, none =>
        match code.early c with
        | none => some (⟨s.object, some (p, code.body c)⟩, none)
        | some _ => none
      | _, _ => none
    | .access =>
      match s.holder with
      | some (p, .call op next) =>
        some (⟨s.object.after (handler s.object.shared op).1,
          some (p, next (handler s.object.shared op).2)⟩, none)
      | _ => none
    | .unlock =>
      match s.holder with
      | some (p, .ret (some r)) => some (⟨s.object.move p (.leaving r), none⟩, none)
      | _ => none
    | .abort =>
      match s.holder with
      | some (p, .ret none) => some (s.follow ({ s.object with alive := false }, some (.aborted p)))
      | _ => none
    | .respond p => (s.object.respond p).map s.follow
  else none

variable {code : Code Call Res Op Reply} {handler : σ → (op : Op) → σ × Reply op}
  {s next : Guarded σ P Call Res Op Reply} {seen : Option (Event P Call Res)}

/-- What a step can be. -/
inductive Moves (code : Code Call Res Op Reply) (handler : σ → (op : Op) → σ × Reply op)
    (s : Guarded σ P Call Res Op Reply) :
    GuardedMove P Call → Guarded σ P Call Res Op Reply → Option (Event P Call Res) → Prop
  | invoke {p : P} {c : Call} (idle : s.object.callers p = .idle) :
      Moves code handler s (.invoke p c) ⟨s.object.move p (.invoked c), s.holder⟩
        (some (.invoked p c))
  | leave {p : P} {c : Call} {r : Res} (called : s.object.callers p = .invoked c)
      (left : code.early c = some r) :
      Moves code handler s (.leave p) ⟨s.object.move p (.leaving r), s.holder⟩ none
  | lock {p : P} {c : Call} (called : s.object.callers p = .invoked c)
      (late : code.early c = none) (free : s.holder = none) :
      Moves code handler s (.lock p) ⟨s.object, some (p, code.body c)⟩ none
  | access {p : P} {op : Op} {rest : Reply op → Prog Op Reply (Option Res)}
      (inside : s.holder = some (p, .call op rest)) :
      Moves code handler s .access ⟨s.object.after (handler s.object.shared op).1,
        some (p, rest (handler s.object.shared op).2)⟩ none
  | unlock {p : P} {r : Res} (inside : s.holder = some (p, .ret (some r))) :
      Moves code handler s .unlock ⟨s.object.move p (.leaving r), none⟩ none
  | abort {p : P} (inside : s.holder = some (p, .ret none)) :
      Moves code handler s .abort ⟨{ s.object with alive := false }, s.holder⟩ (some (.aborted p))
  | respond {p : P} {r : Res} (leaving : s.object.callers p = .leaving r) :
      Moves code handler s (.respond p) ⟨s.object.move p .idle, s.holder⟩ (some (.returned p r))

theorem step_iff {m : GuardedMove P Call} : s.step code handler m = some (next, seen) ↔
    s.object.alive = true ∧ Moves code handler s m next seen := by
  constructor
  · intro stepped
    obtain ⟨up, moved⟩ := Option.ite_none_right_eq_some.mp stepped
    refine ⟨up, ?_⟩
    cases m with
    | invoke p c =>
      obtain ⟨went, invoked, same⟩ := Option.map_eq_some_iff.mp moved
      obtain ⟨idle, rfl⟩ := Object.invoke_some invoked
      cases same
      exact .invoke idle
    | respond p =>
      obtain ⟨went, responded, same⟩ := Option.map_eq_some_iff.mp moved
      obtain ⟨r, leaving, rfl⟩ := Object.respond_some responded
      cases same
      exact .respond leaving
    | leave p =>
      dsimp only at moved
      split at moved
      case h_1 c called =>
        obtain ⟨r, left, same⟩ := Option.map_eq_some_iff.mp moved
        cases same
        exact .leave called left
      case h_2 => cases moved
    | lock p =>
      dsimp only at moved
      split at moved
      case h_1 c called free =>
        split at moved
        case h_1 late =>
          cases moved
          exact .lock called late free
        case h_2 => cases moved
      case h_2 => cases moved
    | access =>
      dsimp only at moved
      split at moved
      case h_1 inside =>
        cases moved
        exact .access inside
      case h_2 => cases moved
    | unlock =>
      dsimp only at moved
      split at moved
      case h_1 inside =>
        cases moved
        exact .unlock inside
      case h_2 => cases moved
    | abort =>
      dsimp only at moved
      split at moved
      case h_1 inside =>
        cases moved
        exact .abort inside
      case h_2 => cases moved
  · rintro ⟨up, moved⟩
    cases moved with
    | invoke idle => simp [step, up, Object.invoke, idle, follow]
    | respond leaving => simp [step, up, Object.respond, leaving, follow]
    | leave called left => simp [step, up, called, left, follow]
    | lock called late free => simp [step, up, called, late, free]
    | access inside => simp [step, up, inside]
    | unlock inside => simp [step, up, inside]
    | abort inside => simp [step, up, inside, follow]

end Guarded

/-- A whole call at once. -/
def perform (code : Code Call Res Op Reply) (handler : σ → (op : Op) → σ × Reply op) (s : σ)
    (c : Call) : Option (σ × Res) :=
  match code.early c with
  | some r => some (s, r)
  | none =>
    let (next, value) := Prog.run handler s (code.body c)
    value.map fun r => (next, r)

end FifthD.Library.Mutex
