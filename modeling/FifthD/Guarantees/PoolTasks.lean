import FifthD.Guarantees.PoolWakeups
import Mathlib.Algebra.BigOperators.Group.Finset.Basic
import Mathlib.Tactic.Abel

/-!
# Every task runs once, and the pool drains

Tasks against the history of a run: what was enqueued is what was taken, in that order,
and then the queue; what was taken is what was executed and what the workers are at. When
the destructor has joined all workers nothing is left in the queue or with a worker.
-/
namespace FifthD.Guarantees.PoolTasks

open FifthD.Library FifthD.Source ThreadPool PoolSteps PoolWakeups

variable {Task : Type*} {n : Nat}

/-! ## Histories -/

/-- The tasks enqueued, in order. -/
def enqueuedIn (events : List (PoolEvent Task)) : List Task :=
  events.filterMap fun
    | .enqueued task => some task
    | .taken _ | .executed _ | .silent => none

/-- The tasks taken from the queue, in order. -/
def takenIn (events : List (PoolEvent Task)) : List Task :=
  events.filterMap fun
    | .taken task => some task
    | .enqueued _ | .executed _ | .silent => none

/-- The tasks that have returned, in order. -/
def executedIn (events : List (PoolEvent Task)) : List Task :=
  events.filterMap fun
    | .executed task => some task
    | .enqueued _ | .taken _ | .silent => none

theorem enqueuedIn_append (events later : List (PoolEvent Task)) :
    enqueuedIn (events ++ later) = enqueuedIn events ++ enqueuedIn later := List.filterMap_append

theorem takenIn_append (events later : List (PoolEvent Task)) :
    takenIn (events ++ later) = takenIn events ++ takenIn later := List.filterMap_append

theorem executedIn_append (events later : List (PoolEvent Task)) :
    executedIn (events ++ later) = executedIn events ++ executedIn later := List.filterMap_append

/-! ## Tasks with the workers -/

/-- The task a worker is at. -/
def heldBy : Worker Task → Multiset Task
  | .running task _ => {task}
  | .awake | .blocked | .exited => 0

/-- The tasks all workers are at. -/
def held (s : ThreadPool Task n) : Multiset Task := ∑ w, heldBy (s.workers w)

/-- A worker that goes somewhere else puts down its task and takes up another. -/
theorem held_setWorker (s : ThreadPool Task n) (w : Fin n) (worker : Worker Task) :
    held (s.setWorker w worker) + heldBy (s.workers w) = held s + heldBy worker := by
  have others : ∑ v ∈ Finset.univ.erase w, heldBy ((s.setWorker w worker).workers v) =
      ∑ v ∈ Finset.univ.erase w, heldBy (s.workers v) := by
    apply Finset.sum_congr rfl
    intro v member
    rw [setWorker_other s worker (Finset.ne_of_mem_erase member)]
  have after := Finset.add_sum_erase Finset.univ
    (fun v => heldBy ((s.setWorker w worker).workers v)) (Finset.mem_univ w)
  have before := Finset.add_sum_erase Finset.univ (fun v => heldBy (s.workers v))
    (Finset.mem_univ w)
  rw [others, setWorker_self] at after
  unfold held
  rw [← after, ← before]
  abel

/-- A worker without a task that goes to a place without a task. -/
theorem held_setWorker_empty (s : ThreadPool Task n) {w : Fin n} {worker : Worker Task}
    (before : heldBy (s.workers w) = heldBy worker) : held (s.setWorker w worker) = held s := by
  have moved := held_setWorker s w worker
  rw [before] at moved
  exact add_right_cancel moved

/-- What a step does with the tasks, by its event. -/
def Moves (s next : ThreadPool Task n) : PoolEvent Task → Prop
  | .enqueued task => next.tasks = s.tasks ++ [task] ∧ held next = held s
  | .taken task => s.tasks = task :: next.tasks ∧ held next = held s + {task}
  | .executed task => next.tasks = s.tasks ∧ held s = held next + {task}
  | .silent => next.tasks = s.tasks ∧ held next = held s

theorem notifyOne_moves {s next : ThreadPool Task n} {woken : Option (Fin n)}
    (notified : s.notifyOne woken = some next) : Moves s next .silent := by
  rcases notifyOne_cases notified with ⟨w, blocked, rfl⟩ | ⟨_, rfl⟩
  · refine ⟨rfl, held_setWorker_empty s ?_⟩
    rw [blocked]
    rfl
  · exact ⟨rfl, rfl⟩

/-- `notify_all` moves workers without a task only. -/
theorem held_notifyAll (s : ThreadPool Task n) : held s.notifyAll = held s := by
  apply Finset.sum_congr rfl
  intro w _
  change heldBy (if (s.workers w).isBlocked then _ else _) = _
  split
  · next blocked =>
    rw [isBlocked_iff] at blocked
    rw [blocked]
    rfl
  · rfl

/-- Every step accounts for the tasks it touches. -/
theorem fires_moves {s next : ThreadPool Task n} {event : PoolEvent Task}
    (fires : Fires s next event) : Moves s next event := by
  cases fires with
  | block w awake running empty =>
    refine ⟨rfl, held_setWorker_empty s ?_⟩
    rw [awake]
    rfl
  | exit w awake stopped empty =>
    refine ⟨rfl, held_setWorker_empty s ?_⟩
    rw [awake]
    rfl
  | take w task rest awake queue =>
    have moved := held_setWorker s w (.running task false)
    rw [awake, heldBy, heldBy, add_zero] at moved
    exact ⟨queue, moved⟩
  | taskEnqueue w current task running =>
    refine ⟨rfl, held_setWorker_empty s ?_⟩
    rw [running]
    rfl
  | taskNotify w current woken next running notified =>
    obtain ⟨sameTasks, sameHeld⟩ := notifyOne_moves notified
    refine ⟨sameTasks, sameHeld.trans (held_setWorker_empty s ?_)⟩
    rw [running]
    rfl
  | taskReturn w current running =>
    have moved := held_setWorker s w .awake
    rw [running, heldBy, heldBy, add_zero] at moved
    exact ⟨rfl, moved.symm⟩
  | enqueue task before => exact ⟨rfl, rfl⟩
  | notify callers woken next waiting notified =>
    have moved := notifyOne_moves notified
    exact moved
  | setStop before idle => exact ⟨rfl, rfl⟩
  | notifyAll stopSet => exact ⟨rfl, held_notifyAll s⟩
  | join joined inside joining exited => exact ⟨rfl, rfl⟩
  | wakeUp w blocked =>
    refine ⟨rfl, held_setWorker_empty s ?_⟩
    rw [blocked]
    rfl

/-! ## Whole runs -/

/-- The tasks of a run so far: in order from the queue, and none lost. -/
structure Accounts (s : ThreadPool Task n) (events : List (PoolEvent Task)) : Prop where
  order : enqueuedIn events = takenIn events ++ s.tasks
  bag : (takenIn events : Multiset Task) = (executedIn events : Multiset Task) + held s

theorem accounts_step {s next : ThreadPool Task n} {events : List (PoolEvent Task)}
    {event : PoolEvent Task} (accounts : Accounts s events) (moves : Moves s next event) :
    Accounts next (events ++ [event]) := by
  obtain ⟨order, bag⟩ := accounts
  constructor
  · rw [enqueuedIn_append, takenIn_append, order]
    cases event with
    | enqueued task => simp [enqueuedIn, takenIn, moves.1]
    | taken task => simp [enqueuedIn, takenIn, moves.1]
    | executed task => simp [enqueuedIn, takenIn, moves.1]
    | silent => simp [enqueuedIn, takenIn, moves.1]
  · rw [takenIn_append, executedIn_append, ← Multiset.coe_add, ← Multiset.coe_add, bag]
    cases event with
    | enqueued task => simp [takenIn, executedIn, moves.2]
    | taken task => simp [takenIn, executedIn, moves.2, add_assoc]
    | executed task =>
      have returned : executedIn [PoolEvent.executed task] = [task] := rfl
      have noneTaken : takenIn [PoolEvent.executed task] = [] := rfl
      rw [moves.2, returned, noneTaken, Multiset.coe_nil, Multiset.coe_singleton]
      abel
    | silent => simp [takenIn, executedIn, moves.2]

theorem start_accounts : Accounts (start : ThreadPool Task n) [] := by
  constructor
  · rfl
  · have idle : held (start : ThreadPool Task n) = 0 := Finset.sum_const_zero
    rw [idle]
    rfl

/-- A joined pool has no worker left. -/
theorem all_exited {s : ThreadPool Task n} (phases : Phases s) (joined : s.destructor = .joining n)
    (w : Fin n) : s.workers w = .exited := phases.joined n joined w w.isLt

/-- Tasks have left the queue in the order in which they came in, each once; and when the
destructor has joined all workers the queue is empty and every task that came in has been
executed exactly once. -/
structure RunsOnce (s : ThreadPool Task n) (events : List (PoolEvent Task)) : Prop where
  fifo : enqueuedIn events = takenIn events ++ s.tasks
  drained : s.destructor = .joining n → s.tasks = []
  executed : s.destructor = .joining n → (executedIn events).Perm (enqueuedIn events)

theorem runsOnce_of_inv {s : ThreadPool Task n} {events : List (PoolEvent Task)}
    (inv : PoolInv s) (accounts : Accounts s events) : RunsOnce s events := by
  have drained : s.destructor = .joining n → s.tasks = [] := by
    intro joined
    by_contra filled
    obtain ⟨w, alive⟩ := inv.served.staffed filled
    exact alive (all_exited inv.phases joined w)
  refine ⟨accounts.order, drained, fun joined => ?_⟩
  have idle : held s = 0 := by
    apply Finset.sum_eq_zero
    intro w _
    rw [all_exited inv.phases joined w]
    rfl
  have bag := accounts.bag
  rw [idle, add_zero] at bag
  rw [accounts.order, drained joined, List.append_nil]
  exact (Multiset.coe_eq_coe.mp bag).symm

/-- For every number of workers but none and every schedule: in every state reached the
tasks taken are the first ones enqueued, in their order, and the others are in the queue;
and when the destructor has joined all workers the queue is empty and every task enqueued
has been executed exactly once. -/
theorem pool_runs_tasks_once (steps : List (PoolStep Task (n + 1))) :
    Machine.AtEveryReturn ThreadPool.step RunsOnce start steps := by
  refine Machine.atEveryReturn_of_kept (fun s events => PoolInv s ∧ Accounts s events) ?_ ?_
    ⟨start_inv, start_accounts⟩ steps
  · intro s events step next event both stepped
    have fires := step_fires stepped
    exact ⟨fires_inv both.1 fires, accounts_step both.2 (fires_moves fires)⟩
  · intro s events both
    exact runsOnce_of_inv both.1 both.2

/-- Two workers and two tasks, one of them enqueued by the other while it runs. -/
example :
    (Machine.run ThreadPool.step (start : ThreadPool Nat 2)
      [.worker 0, .enqueue 7, .notify (some 0), .worker 0, .taskEnqueue 0 9, .setStop, .notifyAll,
        .worker 1, .taskNotify 0 none, .taskReturn 0, .worker 0, .taskReturn 1, .worker 1, .join,
        .join]).map (fun ended => (ended.1.tasks, executedIn ended.2)) = some ([], [7, 9]) := by
  decide

end FifthD.Guarantees.PoolTasks
