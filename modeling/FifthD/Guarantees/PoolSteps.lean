import FifthD.Source.ThreadPool

/-!
# What a step of the thread pool does

Each step that is possible, with what it needs and what it leaves: a worker goes to
another place, a task goes in or out of the queue, or the destructor goes on.
-/
namespace FifthD.Guarantees.PoolSteps

open FifthD.Source ThreadPool

variable {Task : Type*} {n : Nat}

@[simp] theorem setWorker_self (s : ThreadPool Task n) (w : Fin n) (worker : Worker Task) :
    (s.setWorker w worker).workers w = worker := Function.update_self _ _ _

theorem setWorker_other (s : ThreadPool Task n) {w v : Fin n} (worker : Worker Task)
    (different : v ≠ w) : (s.setWorker w worker).workers v = s.workers v :=
  Function.update_of_ne different _ _

theorem isBlocked_iff (worker : Worker Task) : worker.isBlocked = true ↔ worker = .blocked := by
  cases worker <;> simp [Worker.isBlocked]

/-- `notify_one` wakes a blocked worker, or there is none. -/
theorem notifyOne_cases {s next : ThreadPool Task n} {woken : Option (Fin n)}
    (notified : s.notifyOne woken = some next) :
    (∃ w, s.workers w = .blocked ∧ next = s.setWorker w .awake) ∨
      ((∀ w, s.workers w ≠ .blocked) ∧ next = s) := by
  unfold notifyOne at notified
  cases woken with
  | some w =>
    dsimp only at notified
    split at notified
    · next blocked =>
      cases notified
      exact .inl ⟨w, (isBlocked_iff _).mp blocked, rfl⟩
    · cases notified
  | none =>
    dsimp only at notified
    split at notified
    · next awake =>
      cases notified
      refine .inr ⟨fun w blocked => ?_, rfl⟩
      have notBlocked := awake w
      rw [(isBlocked_iff _).mpr blocked] at notBlocked
      cases notBlocked
    · cases notified

/-- The steps that are possible in a state. -/
inductive Fires (s : ThreadPool Task n) : ThreadPool Task n → PoolEvent Task → Prop where
  | block (w : Fin n) (awake : s.workers w = .awake) (running : s.stop = false)
      (empty : s.tasks = []) : Fires s (s.setWorker w .blocked) .silent
  | exit (w : Fin n) (awake : s.workers w = .awake) (stopped : s.stop = true)
      (empty : s.tasks = []) : Fires s (s.setWorker w .exited) .silent
  | take (w : Fin n) (task : Task) (rest : List Task) (awake : s.workers w = .awake)
      (queue : s.tasks = task :: rest) :
      Fires s { s.setWorker w (.running task false) with tasks := rest } (.taken task)
  | taskEnqueue (w : Fin n) (current task : Task) (running : s.workers w = .running current false) :
      Fires s ((s.setWorker w (.running current true)).emplace task) (.enqueued task)
  | taskNotify (w : Fin n) (current : Task) (woken : Option (Fin n)) (next : ThreadPool Task n)
      (running : s.workers w = .running current true)
      (notified : (s.setWorker w (.running current false)).notifyOne woken = some next) :
      Fires s next .silent
  | taskReturn (w : Fin n) (current : Task) (running : s.workers w = .running current false) :
      Fires s (s.setWorker w .awake) (.executed current)
  | enqueue (task : Task) (before : s.destructor = .notStarted) :
      Fires s ({ s with callers := s.callers + 1 }.emplace task) (.enqueued task)
  | notify (callers : Nat) (woken : Option (Fin n)) (next : ThreadPool Task n)
      (waiting : s.callers = callers + 1)
      (notified : { s with callers }.notifyOne woken = some next) : Fires s next .silent
  | setStop (before : s.destructor = .notStarted) (idle : s.callers = 0) :
      Fires s { s with stop := true, destructor := .stopSet } .silent
  | notifyAll (stopSet : s.destructor = .stopSet) :
      Fires s { s.notifyAll with destructor := .joining 0 } .silent
  | join (joined : Nat) (inside : joined < n) (joining : s.destructor = .joining joined)
      (exited : s.workers ⟨joined, inside⟩ = .exited) :
      Fires s { s with destructor := .joining (joined + 1) } .silent
  | wakeUp (w : Fin n) (blocked : s.workers w = .blocked) : Fires s (s.setWorker w .awake) .silent

/-- The locked section of a worker blocks, exits or takes a task. -/
theorem workerSection_fires {s : ThreadPool Task n} {w : Fin n} (awake : s.workers w = .awake) :
    Fires s (s.workerSection w).1 (s.workerSection w).2 := by
  unfold workerSection
  split
  · next waits => exact .block w awake waits.1 waits.2
  · next goes =>
    cases queue : s.tasks with
    | nil =>
      have stopped : s.stop = true := by
        by_contra running
        exact goes ⟨Bool.eq_false_of_not_eq_true running, queue⟩
      exact .exit w awake stopped queue
    | cons task rest => exact .take w task rest awake queue

/-- A step that is made is one of them. -/
theorem step_fires {s next : ThreadPool Task n} {step : PoolStep Task n} {event : PoolEvent Task}
    (stepped : s.step step = some (next, event)) : Fires s next event := by
  cases step with
  | worker w =>
    simp only [ThreadPool.step] at stepped
    split at stepped
    · next awake =>
      have fired := workerSection_fires awake
      rw [Option.some.inj stepped] at fired
      exact fired
    · cases stepped
  | taskEnqueue w task =>
    simp only [ThreadPool.step] at stepped
    split at stepped
    · next current running =>
      cases stepped
      exact .taskEnqueue w current task running
    · cases stepped
  | taskNotify w woken =>
    simp only [ThreadPool.step] at stepped
    split at stepped
    · next current running =>
      obtain ⟨_, notified, ended⟩ := Option.map_eq_some_iff.mp stepped
      cases ended
      exact .taskNotify w current woken _ running notified
    · cases stepped
  | taskReturn w =>
    simp only [ThreadPool.step] at stepped
    split at stepped
    · next current running =>
      cases stepped
      exact .taskReturn w current running
    · cases stepped
  | enqueue task =>
    simp only [ThreadPool.step] at stepped
    split at stepped
    · next before =>
      cases stepped
      exact .enqueue task before
    · cases stepped
  | notify woken =>
    simp only [ThreadPool.step] at stepped
    split at stepped
    · cases stepped
    · next callers waiting =>
      obtain ⟨_, notified, ended⟩ := Option.map_eq_some_iff.mp stepped
      cases ended
      exact .notify callers woken _ waiting notified
  | setStop =>
    simp only [ThreadPool.step] at stepped
    split at stepped
    · next before idle =>
      cases stepped
      exact .setStop before idle
    · cases stepped
  | notifyAll =>
    simp only [ThreadPool.step] at stepped
    split at stepped
    · next stopSet =>
      cases stepped
      exact .notifyAll stopSet
    · cases stepped
  | join =>
    simp only [ThreadPool.step] at stepped
    split at stepped
    · next joined joining =>
      split at stepped
      · next inside =>
        split at stepped
        · next exited =>
          cases stepped
          exact .join joined inside joining exited
        · cases stepped
      · cases stepped
    · cases stepped
  | wakeUp w =>
    simp only [ThreadPool.step] at stepped
    split at stepped
    · next blocked =>
      cases stepped
      exact .wakeUp w ((isBlocked_iff _).mp blocked)
    · cases stepped

end FifthD.Guarantees.PoolSteps
