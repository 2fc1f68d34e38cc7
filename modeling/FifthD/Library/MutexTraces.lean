import FifthD.Library.Mutex

/-!
The machine whose calls take the mutex and the machine whose calls are single steps show
each what the other shows, and so do two objects whose calls return the same.
-/
namespace FifthD.Library.Mutex

variable {σ τ P Call Res Op : Type*} {Reply : Op → Type*} [DecidableEq P]

variable {code : Code Call Res Op Reply} {handler : σ → (op : Op) → σ × Reply op}

/-- The caller in the mutex is in a call without an effect so far; what is left of its program
does to what is shared now what the whole program does to what was shared before it. -/
structure Tracks (code : Code Call Res Op Reply) (handler : σ → (op : Op) → σ × Reply op)
    (s : Guarded σ P Call Res Op Reply) (t : Object σ P Call Res) : Prop where
  callers : s.object.callers = t.callers
  alive : s.object.alive = t.alive
  free : s.holder = none → s.object.shared = t.shared
  held : ∀ p rest, s.holder = some (p, rest) → ∃ c, t.callers p = .invoked c ∧
    code.early c = none ∧
    Prog.run handler s.object.shared rest = Prog.run handler t.shared (code.body c)

/-- A caller outside the mutex goes on in both. -/
theorem Tracks.move {s : Guarded σ P Call Res Op Reply} {t : Object σ P Call Res}
    (tracks : Tracks code handler s t) {p : P}
    (outside : ∀ c, t.callers p = .invoked c → code.early c ≠ none) (caller : Caller Call Res) :
    Tracks code handler ⟨s.object.move p caller, s.holder⟩ (t.move p caller) := by
  refine ⟨?_, tracks.alive, tracks.free, ?_⟩
  · exact congrArg (fun callers => Function.update callers p caller) tracks.callers
  · intro q rest holds
    obtain ⟨c, called, late, same⟩ := tracks.held q rest holds
    have apart : q ≠ p := by
      rintro rfl
      exact outside c called late
    refine ⟨c, ?_, late, same⟩
    rw [← called]
    exact Function.update_of_ne apart _ _

section Steps

variable {s next : Guarded σ P Call Res Op Reply} {t : Object σ P Call Res}
  {seen : Option (Event P Call Res)} {p : P}

private theorem answered_invoke (tracks : Tracks code handler s t) (up : t.alive = true) {c : Call}
    (idle : t.callers p = .idle) :
    ∃ after, Machine.Answers (Object.step (perform code handler)) t after
        (some (Event.invoked p c)) ∧
      Tracks code handler ⟨s.object.move p (.invoked c), s.holder⟩ after := by
  refine ⟨t.move p (.invoked c), .one (Object.step_invoke up idle), tracks.move ?_ _⟩
  intro c' called
  cases idle.symm.trans called

private theorem answered_respond (tracks : Tracks code handler s t) (up : t.alive = true) {r : Res}
    (leaving : t.callers p = .leaving r) :
    ∃ after, Machine.Answers (Object.step (perform code handler)) t after
        (some (Event.returned p r)) ∧
      Tracks code handler ⟨s.object.move p .idle, s.holder⟩ after := by
  refine ⟨t.move p .idle, .one (Object.step_respond up leaving), tracks.move ?_ _⟩
  intro c called
  cases leaving.symm.trans called

/-- A call that returns before it takes the mutex is a whole call. -/
private theorem answered_leave (tracks : Tracks code handler s t) (up : t.alive = true) {c : Call}
    (called : t.callers p = .invoked c) {r : Res} (left : code.early c = some r) :
    ∃ after, Machine.Answers (Object.step (perform code handler)) t after none ∧
      Tracks code handler ⟨s.object.move p (.leaving r), s.holder⟩ after := by
  have result : perform code handler t.shared c = some (t.shared, r) := by
    simp only [perform, left]
  refine ⟨t.move p (.leaving r), .one (i := .execute p) ?_, tracks.move ?_ _⟩
  · rw [Object.step_execute up called, result]
    rfl
  · intro c' called'
    cases called.symm.trans called'
    rw [left]
    nofun

omit [DecidableEq P] in
/-- To take the mutex is no step of the other machine. -/
private theorem answered_lock (tracks : Tracks code handler s t) (free : s.holder = none) {c : Call}
    (called : t.callers p = .invoked c) (late : code.early c = none) :
    Tracks code handler ⟨s.object, some (p, code.body c)⟩ t := by
  refine ⟨tracks.callers, tracks.alive, nofun, ?_⟩
  intro q rest holds
  cases holds
  exact ⟨c, called, late, by rw [tracks.free free]⟩

omit [DecidableEq P] in
/-- Nor is a read or a write. -/
private theorem answered_access (tracks : Tracks code handler s t) {op : Op}
    {rest : Reply op → Prog Op Reply (Option Res)} (inside : s.holder = some (p, .call op rest)) :
    Tracks code handler ⟨s.object.after (handler s.object.shared op).1,
      some (p, rest (handler s.object.shared op).2)⟩ t := by
  refine ⟨tracks.callers, tracks.alive, nofun, ?_⟩
  intro q program holds
  cases holds
  obtain ⟨c, called, late, same⟩ := tracks.held p _ inside
  exact ⟨c, called, late, same⟩

/-- A call has its whole effect when it gives the mutex back. -/
private theorem answered_unlock (tracks : Tracks code handler s t) (up : t.alive = true) {r : Res}
    (inside : s.holder = some (p, .ret (some r))) :
    ∃ after, Machine.Answers (Object.step (perform code handler)) t after none ∧
      Tracks code handler ⟨s.object.move p (.leaving r), none⟩ after := by
  obtain ⟨c, called, late, same⟩ := tracks.held p _ inside
  have result : perform code handler t.shared c = some (s.object.shared, r) := by
    simp only [perform, late, ← same]
    rfl
  refine ⟨(t.after s.object.shared).move p (.leaving r), .one (i := .execute p) ?_,
    ⟨?_, tracks.alive, fun _ => rfl, nofun⟩⟩
  · rw [Object.step_execute up called, result]
    rfl
  · exact congrArg (fun callers => Function.update callers p (.leaving r)) tracks.callers

private theorem answered_abort (tracks : Tracks code handler s t) (up : t.alive = true)
    (inside : s.holder = some (p, .ret none)) :
    ∃ after, Machine.Answers (Object.step (perform code handler)) t after (some (.aborted p)) ∧
      Tracks code handler ⟨{ s.object with alive := false }, s.holder⟩ after := by
  obtain ⟨c, called, late, same⟩ := tracks.held p _ inside
  have result : perform code handler t.shared c = none := by
    simp only [perform, late, ← same]
    rfl
  refine ⟨{ t with alive := false }, .one (i := .execute p) ?_,
    ⟨tracks.callers, rfl, tracks.free, tracks.held⟩⟩
  rw [Object.step_execute up called, result]
  rfl

/-- Each step with the mutex is a step of the machine of single steps, or none. -/
theorem Tracks.answered (tracks : Tracks code handler s t) {m : GuardedMove P Call}
    (stepped : s.step code handler m = some (next, seen)) :
    ∃ after, Machine.Answers (Object.step (perform code handler)) t after seen ∧
      Tracks code handler next after := by
  obtain ⟨up, moved⟩ := Guarded.step_iff.mp stepped
  rw [tracks.alive] at up
  cases moved with
  | invoke idle => exact answered_invoke tracks up (tracks.callers ▸ idle)
  | leave called left => exact answered_leave tracks up (tracks.callers ▸ called) left
  | lock called late free =>
    exact ⟨t, .refl t, answered_lock tracks free (tracks.callers ▸ called) late⟩
  | access inside => exact ⟨t, .refl t, answered_access tracks inside⟩
  | unlock inside => exact answered_unlock tracks up inside
  | abort inside => exact answered_abort tracks up inside
  | respond leaving => exact answered_respond tracks up (tracks.callers ▸ leaving)

end Steps

/-- The caller in the mutex can run its program to the end while nobody else moves. -/
theorem runs_inside {o : Object σ P Call Res} (up : o.alive = true) (p : P)
    (program : Prog Op Reply (Option Res)) :
    Machine.Answers (Guarded.step code handler) ⟨o, some (p, program)⟩
      ⟨o.after (Prog.run handler o.shared program).1,
        some (p, .ret (Prog.run handler o.shared program).2)⟩ none := by
  induction program generalizing o with
  | ret value => exact .refl _
  | call op next ih =>
    refine .silently (i := .access) ?_ (ih (handler o.shared op).2
      (o := o.after (handler o.shared op).1) up)
    exact Guarded.step_iff.mpr ⟨up, .access rfl⟩

/-- Each single step is a run with the mutex, which is free before it, and after it as long
as the process is up. -/
theorem Object.answered {t next : Object σ P Call Res} {m : ObjectMove P Call}
    {seen : Option (Event P Call Res)}
    (stepped : t.step (perform code handler) m = some (next, seen)) :
    ∃ after, Machine.Answers (Guarded.step code handler) ⟨t, none⟩ after seen ∧
      (next.alive = true → after = ⟨next, none⟩) := by
  obtain ⟨up, ⟨p, c, rfl, idle, same⟩ | ⟨p, c, rfl, called, finished⟩ |
    ⟨p, r, rfl, leaving, same⟩⟩ := Object.step_cases stepped
  · cases same
    exact ⟨_, .one (Guarded.step_iff.mpr ⟨up, .invoke idle⟩), fun _ => rfl⟩
  · cases late : code.early c with
    | some r =>
      have result : perform code handler t.shared c = some (t.shared, r) := by
        simp only [perform, late]
      rw [result] at finished
      cases finished
      exact ⟨_, .one (Guarded.step_iff.mpr ⟨up, .leave called late⟩), fun _ => rfl⟩
    | none =>
      have locked : (⟨t, none⟩ : Guarded σ P Call Res Op Reply).step code handler (.lock p) =
          some (⟨t, some (p, code.body c)⟩, none) :=
        Guarded.step_iff.mpr ⟨up, .lock called late rfl⟩
      have inside := @runs_inside σ P Call Res Op Reply _ code handler t up p (code.body c)
      have result : perform code handler t.shared c =
          (Prog.run handler t.shared (code.body c)).2.map fun r =>
            ((Prog.run handler t.shared (code.body c)).1, r) := by
        simp only [perform, late]
      rw [result] at finished
      generalize Prog.run handler t.shared (code.body c) = out at inside finished
      obtain ⟨shared, value⟩ := out
      cases value with
      | some r =>
        have unlocked :
            Guarded.step code handler ⟨t.after shared, some (p, .ret (some r))⟩ .unlock =
              some (⟨(t.after shared).move p (.leaving r), none⟩, none) :=
          Guarded.step_iff.mpr ⟨up, .unlock rfl⟩
        cases finished
        exact ⟨_, .silently locked (inside.trans (.one unlocked)), fun _ => rfl⟩
      | none =>
        have aborted : Guarded.step code handler ⟨t.after shared, some (p, .ret none)⟩ .abort =
            some (⟨{ t.after shared with alive := false }, some (p, .ret none)⟩,
              some (.aborted p)) :=
          Guarded.step_iff.mpr ⟨up, .abort rfl⟩
        cases finished
        exact ⟨_, .silently locked (inside.trans (.one aborted)), nofun⟩
  · cases same
    exact ⟨_, .one (Guarded.step_iff.mpr ⟨up, .respond leaving⟩), fun _ => rfl⟩

/-- The traces of the two machines are the same. -/
theorem trace_iff (code : Code Call Res Op Reply) (handler : σ → (op : Op) → σ × Reply op) (s : σ)
    (events : List (Event P Call Res)) :
    Machine.Trace (Guarded.step code handler) (Guarded.start s) events ↔
      Machine.Trace (Object.step (perform code handler)) (Object.start s) events := by
  constructor
  · refine Machine.Trace.simulated (Tracks code handler) (fun tracks stepped => ?_) ?_
    · exact tracks.answered stepped
    · exact ⟨rfl, rfl, fun _ => rfl, nofun⟩
  · refine Machine.Trace.simulated (fun t s => t.alive = true → s = ⟨t, none⟩) ?_ fun _ => rfl
    intro t s m next seen same stepped
    obtain rfl := same (Object.step_cases stepped).1
    exact Object.answered stepped

/-! ## Objects with the same results -/

/-- Two objects whose calls return the same and keep a relation show the same. -/
theorem Object.simulated {call : σ → Call → Option (σ × Res)} {call' : τ → Call → Option (τ × Res)}
    (rel : σ → τ → Prop)
    (same : ∀ s t c, rel s t →
      Option.Rel (fun a b => rel a.1 b.1 ∧ a.2 = b.2) (call s c) (call' t c))
    {s : σ} {t : τ} (start : rel s t) {events : List (Event P Call Res)}
    (trace : Machine.Trace (Object.step call) (Object.start s) events) :
    Machine.Trace (Object.step call') (Object.start t) events := by
  refine trace.simulated (fun s t => s.callers = t.callers ∧ s.alive = t.alive ∧
    (s.alive = true → rel s.shared t.shared)) ?_ ⟨rfl, rfl, fun _ => start⟩
  rintro s t m next seen ⟨callers, alive, related⟩ stepped
  have update (p : P) (caller : Caller Call Res) :
      Function.update s.callers p caller = Function.update t.callers p caller := by
    rw [callers]
  obtain ⟨up, ⟨p, c, rfl, idle, went⟩ | ⟨p, c, rfl, called, went⟩ | ⟨p, r, rfl, leaving, went⟩⟩ :=
    Object.step_cases stepped
  all_goals have up' : t.alive = true := alive.symm.trans up
  · cases went
    rw [callers] at idle
    exact ⟨_, .one (Object.step_invoke up' idle), update p _, alive, related⟩
  · rw [callers] at called
    have executed : t.step call' (.execute p) = some (t.finish p (call' t.shared c)) :=
      Object.step_execute up' called
    have results := same _ _ c (related up)
    generalize call s.shared c = out at went results
    generalize call' t.shared c = out' at executed results
    refine ⟨(t.finish p out').1, ?_⟩
    cases results with
    | none =>
      cases went
      exact ⟨.one executed, callers, rfl, nofun⟩
    | @some effect effect' both =>
      obtain ⟨next, r⟩ := effect
      obtain ⟨next', r'⟩ := effect'
      obtain ⟨related', rfl⟩ : rel next next' ∧ r = r' := both
      cases went
      exact ⟨.one executed, update p _, alive, fun _ => related'⟩
  · cases went
    rw [callers] at leaving
    exact ⟨_, .one (Object.step_respond up' leaving), update p _, alive, related⟩

/-- Objects whose calls return the same and keep a relation have the same traces. -/
theorem Object.trace_iff {call : σ → Call → Option (σ × Res)} {call' : τ → Call → Option (τ × Res)}
    (rel : σ → τ → Prop)
    (same : ∀ s t c, rel s t →
      Option.Rel (fun a b => rel a.1 b.1 ∧ a.2 = b.2) (call s c) (call' t c))
    {s : σ} {t : τ} (start : rel s t) (events : List (Event P Call Res)) :
    Machine.Trace (Object.step call) (Object.start s) events ↔
      Machine.Trace (Object.step call') (Object.start t) events := by
  constructor
  · exact Object.simulated rel same start
  · refine Object.simulated (fun t s => rel s t) ?_ start
    intro t s c related
    have results := same s t c related
    generalize call s c = out at results
    generalize call' t c = out' at results
    cases results with
    | some both => exact .some ⟨both.1, both.2.symm⟩
    | none => exact .none

end FifthD.Library.Mutex
