import FifthD.Guarantees.PoolTasks
import FifthD.Library.Potential
import Mathlib.Algebra.Order.BigOperators.Group.Finset

/-!
# The thread pool finishes its work

Every step of a worker, of a notification and of the destructor uses up something that was
there before: a task in the queue, a task at a worker, a notification to come, a worker that
is awake, a thread still to be joined. Only a call of `enqueue` and a wake-up without a
notification add to it. So the pool stops by itself, and where it stops all tasks are done.
-/
namespace FifthD.Guarantees.PoolLiveness

open FifthD.Library FifthD.Source ThreadPool PoolSteps PoolWakeups PoolTasks

variable {Task : Type*} {n : Nat}

/-! ## What is left to do -/

/-- The steps a worker makes before it blocks or exits, with a notification it is to issue
and the worker this wakes. -/
def weight : Worker Task → Nat
  | .awake => 1
  | .blocked => 0
  | .running _ false => 2
  | .running _ true => 4
  | .exited => 0

/-- The steps of the destructor, and the workers that its `notify_all` wakes. -/
def duty (n : Nat) : Destructor → Nat
  | .notStarted => 2 * n + 2
  | .stopSet => 2 * n + 1
  | .joining joined => n - joined

def workload (s : ThreadPool Task n) : Nat :=
  (∑ w, weight (s.workers w)) + 2 * s.tasks.length + 2 * s.callers + duty n s.destructor

theorem weight_setWorker (s : ThreadPool Task n) (w : Fin n) (worker : Worker Task) :
    (∑ v, weight ((s.setWorker w worker).workers v)) + weight (s.workers w) =
      (∑ v, weight (s.workers v)) + weight worker := by
  have others : ∀ v ∈ Finset.univ.erase w,
      weight ((s.setWorker w worker).workers v) = weight (s.workers v) := by
    intro v member
    rw [setWorker_other s worker (Finset.ne_of_mem_erase member)]
  have after := Finset.add_sum_erase Finset.univ
    (fun v => weight ((s.setWorker w worker).workers v)) (Finset.mem_univ w)
  have before := Finset.add_sum_erase Finset.univ (fun v => weight (s.workers v))
    (Finset.mem_univ w)
  rw [Finset.sum_congr rfl others, setWorker_self] at after
  omega

/-- A worker that goes somewhere else, while the queue becomes another. -/
theorem workload_moved (s : ThreadPool Task n) (w : Fin n) (worker : Worker Task)
    (tasks : List Task) :
    workload { s.setWorker w worker with tasks } + weight (s.workers w) + 2 * s.tasks.length =
      workload s + weight worker + 2 * tasks.length := by
  have moved := weight_setWorker s w worker
  unfold workload
  simp only [setWorker] at moved ⊢
  omega

theorem workload_setWorker (s : ThreadPool Task n) (w : Fin n) (worker : Worker Task) :
    workload (s.setWorker w worker) + weight (s.workers w) = workload s + weight worker := by
  have moved := workload_moved s w worker s.tasks
  have same : workload { s.setWorker w worker with tasks := s.tasks } =
      workload (s.setWorker w worker) := rfl
  omega

/-- A worker whose place is known. -/
theorem workload_from {s : ThreadPool Task n} {w : Fin n} {place : Worker Task}
    (here : s.workers w = place) (worker : Worker Task) :
    workload (s.setWorker w worker) + weight place = workload s + weight worker := by
  rw [← here]
  exact workload_setWorker s w worker

/-! ## One step -/

/-- What a call of `enqueue` adds, and what a wake-up without a notification adds. -/
def enqueueCost : PoolEvent Task → Nat
  | .enqueued _ => 5
  | .taken _ | .executed _ | .silent => 0

def wakeUpCost : PoolStep Task n → Nat
  | .wakeUp _ => 2
  | _ => 0

/-- `notify_one` wakes at most one worker. -/
theorem notifyOne_workload {s next : ThreadPool Task n} {woken : Option (Fin n)}
    (notified : s.notifyOne woken = some next) : workload next ≤ workload s + 1 := by
  rcases notifyOne_cases notified with ⟨w, blocked, rfl⟩ | ⟨_, rfl⟩
  · have moved := workload_from blocked .awake
    simp only [weight] at moved
    omega
  · omega

/-- `notify_all` wakes all workers at most. -/
theorem notifyAll_weight (s : ThreadPool Task n) :
    ∑ w, weight (s.notifyAll.workers w) ≤ (∑ w, weight (s.workers w)) + n := by
  have each : ∀ w ∈ (Finset.univ : Finset (Fin n)),
      weight (s.notifyAll.workers w) ≤ weight (s.workers w) + 1 := by
    intro w _
    change weight (if (s.workers w).isBlocked then _ else _) ≤ _
    split
    · simp [weight]
    · omega
  have all := Finset.sum_le_sum each
  rw [Finset.sum_add_distrib] at all
  simpa using all

/-- The locked section of a worker is one step less to make. -/
theorem workerSection_workload {s : ThreadPool Task n} {w : Fin n} (awake : s.workers w = .awake) :
    workload (s.workerSection w).1 + 1 ≤ workload s := by
  unfold workerSection
  split
  · have moved := workload_from awake .blocked
    simp only [weight] at moved
    dsimp only
    omega
  · cases queue : s.tasks with
    | nil =>
      have moved := workload_from awake .exited
      simp only [weight] at moved
      dsimp only
      omega
    | cons task rest =>
      have moved := workload_moved s w (.running task false) rest
      rw [awake, queue, List.length_cons] at moved
      simp only [weight] at moved
      dsimp only
      omega

/-- Every step is paid for. -/
theorem step_pays {s next : ThreadPool Task n} {step : PoolStep Task n} {event : PoolEvent Task}
    (stepped : s.step step = some (next, event)) :
    workload next + 1 ≤ workload s + (wakeUpCost step + enqueueCost event) := by
  cases step with
  | worker w =>
    simp only [ThreadPool.step] at stepped
    split at stepped
    · next awake =>
      have less := workerSection_workload awake
      rw [Option.some.inj stepped] at less
      exact Nat.le_add_right_of_le less
    · cases stepped
  | taskEnqueue w task =>
    simp only [ThreadPool.step] at stepped
    split at stepped
    · next current running =>
      cases stepped
      have moved : workload ((s.setWorker w (.running current true)).emplace task) +
          weight (s.workers w) + 2 * s.tasks.length =
          workload s + weight (.running current true) + 2 * (s.tasks ++ [task]).length :=
        workload_moved s w (.running current true) (s.tasks ++ [task])
      rw [running, List.length_append, List.length_singleton] at moved
      simp only [weight] at moved
      simp only [wakeUpCost, enqueueCost]
      omega
    · cases stepped
  | taskNotify w woken =>
    simp only [ThreadPool.step] at stepped
    split at stepped
    · next current running =>
      obtain ⟨_, notified, ended⟩ := Option.map_eq_some_iff.mp stepped
      cases ended
      have moved := workload_from running (.running current false)
      have woke := notifyOne_workload notified
      simp only [weight] at moved
      omega
    · cases stepped
  | taskReturn w =>
    simp only [ThreadPool.step] at stepped
    split at stepped
    · next current running =>
      cases stepped
      have moved := workload_from running .awake
      simp only [weight] at moved
      omega
    · cases stepped
  | enqueue task =>
    simp only [ThreadPool.step] at stepped
    split at stepped
    · cases stepped
      simp only [workload, emplace, List.length_append, List.length_singleton, wakeUpCost,
        enqueueCost]
      omega
    · cases stepped
  | notify woken =>
    simp only [ThreadPool.step] at stepped
    split at stepped
    · cases stepped
    · next callers waiting =>
      obtain ⟨_, notified, ended⟩ := Option.map_eq_some_iff.mp stepped
      cases ended
      have woke := notifyOne_workload notified
      simp only [workload] at woke ⊢
      omega
  | setStop =>
    simp only [ThreadPool.step] at stepped
    split at stepped
    · next before idle =>
      cases stepped
      simp only [workload, duty, before]
      omega
    · cases stepped
  | notifyAll =>
    simp only [ThreadPool.step] at stepped
    split at stepped
    · next stopSet =>
      cases stepped
      have woken := notifyAll_weight s
      simp only [workload, ThreadPool.notifyAll, duty, stopSet] at woken ⊢
      omega
    · cases stepped
  | join =>
    simp only [ThreadPool.step] at stepped
    split at stepped
    · next joined joining =>
      split at stepped
      · next inside =>
        split at stepped
        · cases stepped
          simp only [workload, duty, joining]
          omega
        · cases stepped
      · cases stepped
    · cases stepped
  | wakeUp w =>
    simp only [ThreadPool.step] at stepped
    split at stepped
    · next blocked =>
      cases stepped
      have moved := workload_from ((isBlocked_iff _).mp blocked) .awake
      simp only [weight] at moved
      simp only [wakeUpCost, enqueueCost]
      omega
    · cases stepped

/-! ## Whole runs -/

/-- How often a run wakes a worker that nothing notified. -/
def wakeUps (steps : List (PoolStep Task n)) : Nat :=
  steps.countP fun
    | .wakeUp _ => true
    | _ => false

theorem sum_wakeUpCost (steps : List (PoolStep Task n)) :
    (steps.map wakeUpCost).sum = 2 * wakeUps steps := by
  induction steps with
  | nil => rfl
  | cons step rest ih =>
    unfold wakeUps at ih ⊢
    rw [List.map_cons, List.sum_cons, ih, List.countP_cons]
    cases step with
    | wakeUp w =>
      simp [wakeUpCost]
      omega
    | _ => simp [wakeUpCost]

theorem sum_enqueueCost (events : List (PoolEvent Task)) :
    (events.map enqueueCost).sum = 5 * (enqueuedIn events).length := by
  induction events with
  | nil => rfl
  | cons event rest ih =>
    unfold enqueuedIn at ih ⊢
    rw [List.map_cons, List.sum_cons, ih, List.filterMap_cons]
    cases event with
    | enqueued task =>
      simp [enqueueCost]
      omega
    | _ => simp [enqueueCost]

theorem start_workload : workload (start : ThreadPool Task n) = 3 * n + 2 := by
  simp [workload, start, weight, duty]
  omega

/-- Every run of a pool of `n` workers, the destructor's part included, makes at most
`3 * n + 2` steps, five for each task enqueued, and two for each wake-up that no notification
caused. -/
theorem pool_steps_bounded {steps : List (PoolStep Task n)} {s : ThreadPool Task n}
    {events : List (PoolEvent Task)}
    (ran : Machine.run ThreadPool.step start steps = some (s, events)) :
    steps.length ≤ 3 * n + 2 + 5 * (enqueuedIn events).length + 2 * wakeUps steps := by
  have pays : ∀ {s : ThreadPool Task n} {step : PoolStep Task n} {next : ThreadPool Task n}
      {event : PoolEvent Task}, True → s.step step = some (next, event) →
      True ∧ workload next + 1 ≤ workload s + (wakeUpCost step + enqueueCost event) :=
    fun _ stepped => ⟨trivial, step_pays stepped⟩
  have paid := Machine.run_pays workload (fun _ _ => 1)
    (fun step event => wakeUpCost step + enqueueCost event) pays trivial ran
  rw [Machine.total_one_of_run ran, Machine.total_of_run wakeUpCost enqueueCost ran,
    sum_wakeUpCost, sum_enqueueCost, start_workload] at paid
  omega

/-- Two workers with one task, from the start to the joins. -/
def twoWorkersRun : List (PoolStep Nat 2) :=
  [.worker 0, .worker 1, .enqueue 7, .notify (some 0), .worker 0, .taskReturn 0, .setStop,
    .notifyAll, .worker 0, .worker 1, .join, .join]

/-- They make 12 steps of at most 13. -/
theorem two_workers_bounded :
    ∃ s events, Machine.run ThreadPool.step start twoWorkersRun = some (s, events) ∧
      twoWorkersRun.length ≤
        3 * 2 + 2 + 5 * (enqueuedIn events).length + 2 * wakeUps twoWorkersRun := by
  have tasks : (Machine.run ThreadPool.step start twoWorkersRun).map
      (fun ended => enqueuedIn ended.2) = some [7] := by decide
  obtain ⟨⟨s, events⟩, ran, _⟩ := Option.map_eq_some_iff.mp tasks
  exact ⟨s, events, ran, pool_steps_bounded ran⟩

/-! ## Where the pool stops -/

/-- The steps the pool makes by itself: not those of outside callers, of a task's own code,
and wake-ups without a notification. -/
def Own : PoolStep Task n → Prop
  | .worker _ | .taskNotify _ _ | .taskReturn _ | .notify _ | .notifyAll | .join => True
  | .taskEnqueue _ _ | .enqueue _ | .setStop | .wakeUp _ => False

/-- `notify_one` is possible with one choice of the worker it wakes. -/
theorem notifyOne_possible (s : ThreadPool Task n) :
    ∃ woken next, s.notifyOne woken = some next := by
  by_cases blocked : ∃ w, (s.workers w).isBlocked = true
  · obtain ⟨w, blocked⟩ := blocked
    exact ⟨some w, _, if_pos blocked⟩
  · refine ⟨none, s, if_pos ?_⟩
    intro w
    by_contra asleep
    exact blocked ⟨w, Bool.eq_true_of_not_eq_false asleep⟩

/-- Nothing that the pool does by itself is possible. -/
def Settled (s : ThreadPool Task n) : Prop := ∀ step, Own step → s.step step = none

/-- A worker in a settled pool sleeps or has exited. -/
theorem Settled.worker {s : ThreadPool Task n} (settled : Settled s) (w : Fin n) :
    s.workers w = .blocked ∨ s.workers w = .exited := by
  cases place : s.workers w with
  | blocked => exact .inl rfl
  | exited => exact .inr rfl
  | awake =>
    have stuck := settled (.worker w) trivial
    simp [ThreadPool.step, place] at stuck
  | running task notifying =>
    cases notifying with
    | false =>
      have stuck := settled (.taskReturn w) trivial
      simp [ThreadPool.step, place] at stuck
    | true =>
      obtain ⟨woken, next, possible⟩ := notifyOne_possible (s.setWorker w (.running task false))
      have stuck := settled (.taskNotify w woken) trivial
      simp [ThreadPool.step, place, possible] at stuck

theorem Settled.callers {s : ThreadPool Task n} (settled : Settled s) : s.callers = 0 := by
  cases waiting : s.callers with
  | zero => rfl
  | succ callers =>
    obtain ⟨woken, next, possible⟩ := notifyOne_possible { s with callers }
    have stuck := settled (.notify woken) trivial
    simp [ThreadPool.step, waiting, possible] at stuck

/-- The destructor joins each worker once. -/
theorem fires_joined_le {s next : ThreadPool Task n} {event : PoolEvent Task}
    (bound : ∀ joined, s.destructor = .joining joined → joined ≤ n) (fires : Fires s next event) :
    ∀ joined, next.destructor = .joining joined → joined ≤ n := by
  cases fires with
  | taskNotify w current woken next running notified =>
    rcases notifyOne_cases notified with ⟨v, _, rfl⟩ | ⟨_, rfl⟩
    · exact bound
    · exact bound
  | notify callers woken next waiting notified =>
    rcases notifyOne_cases notified with ⟨v, _, rfl⟩ | ⟨_, rfl⟩
    · exact bound
    · exact bound
  | setStop before idle =>
    intro joined joining
    cases joining
  | notifyAll stopSet =>
    intro joined joining
    cases joining
    exact Nat.zero_le n
  | join joined inside joining exited =>
    intro later joining'
    cases joining'
    exact inside
  | block | exit | take | taskEnqueue | taskReturn | enqueue | wakeUp => exact bound

/-- Everything is done: the queue is empty, every task that came in has been executed once,
and the destructor has joined all workers or has not started, with all workers asleep. -/
structure AllDone (s : ThreadPool Task n) (events : List (PoolEvent Task)) : Prop where
  drained : s.tasks = []
  executed : (executedIn events).Perm (enqueuedIn events)
  stopped : s.destructor = .joining n ∨
    (s.destructor = .notStarted ∧ ∀ w, s.workers w = .blocked)

/-- A settled pool before its destructor, or behind all joins. -/
theorem Settled.stopped {s : ThreadPool Task n} (settled : Settled s) (inv : PoolInv s)
    (bound : ∀ joined, s.destructor = .joining joined → joined ≤ n) :
    s.destructor = .joining n ∨
      (s.destructor = .notStarted ∧ ∀ w, s.workers w = .blocked) := by
  cases phase : s.destructor with
  | notStarted =>
    refine .inr ⟨rfl, fun w => ?_⟩
    exact (settled.worker w).resolve_right (inv.phases.none_exited phase w)
  | stopSet =>
    have stuck := settled .notifyAll trivial
    simp [ThreadPool.step, phase] at stuck
  | joining joined =>
    left
    have most := bound joined phase
    by_cases all : joined = n
    · rw [all]
    · have inside : joined < n := by omega
      have exited : s.workers ⟨joined, inside⟩ = .exited :=
        (settled.worker _).resolve_left (inv.phases.unblocked joined phase _)
      have stuck := settled .join trivial
      simp [ThreadPool.step, phase, inside, exited] at stuck

theorem allDone_of_settled {s : ThreadPool Task n} {events : List (PoolEvent Task)}
    (settled : Settled s) (inv : PoolInv s) (accounts : Accounts s events)
    (bound : ∀ joined, s.destructor = .joining joined → joined ≤ n) : AllDone s events := by
  have stopped := settled.stopped inv bound
  have drained : s.tasks = [] := by
    by_contra filled
    rcases stopped with joined | ⟨before, asleep⟩
    · obtain ⟨w, alive⟩ := inv.served.staffed filled
      exact alive (all_exited inv.phases joined w)
    · rcases inv.served.noticed filled before with ⟨w, active⟩ | waiting
      · exact active.1 (asleep w)
      · exact waiting settled.callers
  have idle : held s = 0 := by
    apply Finset.sum_eq_zero
    intro w _
    rcases settled.worker w with blocked | exited
    · rw [blocked]
      rfl
    · rw [exited]
      rfl
  refine ⟨drained, ?_, stopped⟩
  have bag := accounts.bag
  rw [idle, add_zero] at bag
  rw [accounts.order, drained, List.append_nil]
  exact (Multiset.coe_eq_coe.mp bag).symm

/-- For every number of workers but none and every schedule: in every state reached either
the pool can make a step by itself, or the queue is empty, every task enqueued so far has
been executed exactly once, and the destructor has joined all workers or has not started. -/
theorem pool_goes_on_or_is_done (steps : List (PoolStep Task (n + 1))) :
    Machine.AtEveryReturn ThreadPool.step
      (fun s events => (∃ step, Own step ∧ s.step step ≠ none) ∨ AllDone s events) start steps := by
  have none_joined : ∀ joined, (start : ThreadPool Task (n + 1)).destructor = .joining joined →
      joined ≤ n + 1 := by
    intro joined joining
    cases joining
  refine Machine.atEveryReturn_of_kept
    (fun s events => PoolInv s ∧ Accounts s events ∧
      ∀ joined, s.destructor = .joining joined → joined ≤ n + 1) ?_ ?_
    ⟨start_inv, start_accounts, none_joined⟩ steps
  · intro s events step next event both stepped
    obtain ⟨inv, accounts, bound⟩ := both
    have fires := step_fires stepped
    exact ⟨fires_inv inv fires, accounts_step accounts (fires_moves fires),
      fires_joined_le bound fires⟩
  · intro s events both
    obtain ⟨inv, accounts, bound⟩ := both
    by_cases goes : ∃ step, Own step ∧ s.step step ≠ none
    · exact .inl goes
    · right
      refine allDone_of_settled ?_ inv accounts bound
      intro step own
      by_contra possible
      exact goes ⟨step, own, possible⟩

end FifthD.Guarantees.PoolLiveness
