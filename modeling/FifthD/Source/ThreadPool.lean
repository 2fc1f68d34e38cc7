import Mathlib.Data.Fintype.Basic
import Mathlib.Logic.Function.Basic

/-!
The thread pool: core/thread_pool.cpp:3-41. Each section of the code under `queueMutex`
is one step: of a worker, from the check of the predicate of `condition.wait` to the end
of the block; of `enqueue`, the push; of the destructor, the assignment of `stop`. A
notification is a step of its own. A task is a value; while it runs it may call `enqueue`
any number of times, and it returns. Calls of `enqueue` from outside are over before the
destructor starts. The scheduler picks the steps, the waiter that a `notify_one` wakes and
the wake-ups that no notification causes.
-/
namespace FifthD.Source

/-- Where a worker is: on its way to the mutex, in `condition.wait`, in a task (and there
between the push and the `notify_one` of a call of `enqueue`), or returned. -/
inductive Worker (Task : Type*) where
  | awake
  | blocked
  | running (task : Task) (notifying : Bool)
  | exited
  deriving DecidableEq

def Worker.isBlocked {Task : Type*} : Worker Task → Bool
  | .blocked => true
  | .awake | .running _ _ | .exited => false

/-- Where the destructor is. -/
inductive Destructor where
  | notStarted
  | stopSet
  | joining (joined : Nat)
  deriving DecidableEq

/-- A `ThreadPool` and the threads that use it. -/
structure ThreadPool (Task : Type*) (numThreads : Nat) where
  workers : Fin numThreads → Worker Task
  tasks : List Task
  stop : Bool
  /-- Outside calls of `enqueue` between their push and their `notify_one`. -/
  callers : Nat
  destructor : Destructor

/-- What a step did with a task. -/
inductive PoolEvent (Task : Type*) where
  | enqueued (task : Task)
  | taken (task : Task)
  | executed (task : Task)
  | silent
  deriving DecidableEq

/-- A step that the scheduler may pick. -/
inductive PoolStep (Task : Type*) (numThreads : Nat) where
  | worker (w : Fin numThreads)
  | taskEnqueue (w : Fin numThreads) (task : Task)
  | taskNotify (w : Fin numThreads) (woken : Option (Fin numThreads))
  | taskReturn (w : Fin numThreads)
  | enqueue (task : Task)
  | notify (woken : Option (Fin numThreads))
  | setStop
  | notifyAll
  | join
  | wakeUp (w : Fin numThreads)

namespace ThreadPool

variable {Task : Type*} {n : Nat}

/-- The pool after its constructor: every worker is on its way to the mutex. -/
def start : ThreadPool Task n := ⟨fun _ => .awake, [], false, 0, .notStarted⟩

/-- One worker is somewhere else. -/
def setWorker (s : ThreadPool Task n) (w : Fin n) (worker : Worker Task) : ThreadPool Task n :=
  { s with workers := Function.update s.workers w worker }

/-- The locked section of a worker's loop. -/
def workerSection (s : ThreadPool Task n) (w : Fin n) : ThreadPool Task n × PoolEvent Task :=
  if s.stop = false ∧ s.tasks = [] then (s.setWorker w .blocked, .silent)
  else
    match s.tasks with
    | [] => (s.setWorker w .exited, .silent)
    | task :: rest => ({ s.setWorker w (.running task false) with tasks := rest }, .taken task)

/-- `tasks.emplace`. -/
def emplace (s : ThreadPool Task n) (task : Task) : ThreadPool Task n :=
  { s with tasks := s.tasks ++ [task] }

/-- `condition.notify_one`: it wakes one blocked worker, and none only if there is none. -/
def notifyOne (s : ThreadPool Task n) : Option (Fin n) → Option (ThreadPool Task n)
  | some w => if (s.workers w).isBlocked then some (s.setWorker w .awake) else none
  | none => if ∀ w, (s.workers w).isBlocked = false then some s else none

/-- `condition.notify_all`. -/
def notifyAll (s : ThreadPool Task n) : ThreadPool Task n :=
  { s with workers := fun w => if (s.workers w).isBlocked then .awake else s.workers w }

/-- One step, if it is possible. -/
def step (s : ThreadPool Task n) : PoolStep Task n → Option (ThreadPool Task n × PoolEvent Task)
  | .worker w =>
    match s.workers w with
    | .awake => some (s.workerSection w)
    | _ => none
  | .taskEnqueue w task =>
    match s.workers w with
    | .running current false =>
      some ((s.setWorker w (.running current true)).emplace task, .enqueued task)
    | _ => none
  | .taskNotify w woken =>
    match s.workers w with
    | .running current true =>
      ((s.setWorker w (.running current false)).notifyOne woken).map fun next => (next, .silent)
    | _ => none
  | .taskReturn w =>
    match s.workers w with
    | .running current false => some (s.setWorker w .awake, .executed current)
    | _ => none
  | .enqueue task =>
    match s.destructor with
    | .notStarted => some ({ s with callers := s.callers + 1 }.emplace task, .enqueued task)
    | _ => none
  | .notify woken =>
    match s.callers with
    | 0 => none
    | callers + 1 => ({ s with callers }.notifyOne woken).map fun next => (next, .silent)
  | .setStop =>
    match s.destructor, s.callers with
    | .notStarted, 0 => some ({ s with stop := true, destructor := .stopSet }, .silent)
    | _, _ => none
  | .notifyAll =>
    match s.destructor with
    | .stopSet => some ({ s.notifyAll with destructor := .joining 0 }, .silent)
    | _ => none
  | .join =>
    match s.destructor with
    | .joining joined =>
      if next : joined < n then
        match s.workers ⟨joined, next⟩ with
        | .exited => some ({ s with destructor := .joining (joined + 1) }, .silent)
        | _ => none
      else none
    | _ => none
  | .wakeUp w =>
    if (s.workers w).isBlocked then some (s.setWorker w .awake, .silent) else none

end ThreadPool
end FifthD.Source
