import FifthD.Guarantees.PoolSteps
import FifthD.Library.Machine

/-!
# No wake-up is lost

The invariant of the thread pool, for any number of workers and any schedule. Before the
destructor no worker has exited, and a task in the queue means a worker that is not
blocked, or an outside caller whose `notify_one` is still to come; a worker that enqueues
is itself such a worker. After `notify_all` no worker is ever blocked again.
-/
namespace FifthD.Guarantees.PoolWakeups

open FifthD.Library FifthD.Source ThreadPool PoolSteps

variable {Task : Type*} {n : Nat}

/-- The worker goes on by itself to look at the queue. -/
def Active (worker : Worker Task) : Prop := worker ≠ .blocked ∧ worker ≠ .exited

theorem active_awake : Active (.awake : Worker Task) := ⟨nofun, nofun⟩

theorem active_running (task : Task) (notifying : Bool) : Active (.running task notifying) :=
  ⟨nofun, nofun⟩

/-- What the destructor has done so far, and what the others have therefore done. -/
structure Phases (s : ThreadPool Task n) : Prop where
  stopped : s.stop = true ↔ s.destructor ≠ .notStarted
  exits : ∀ w, s.workers w = .exited → s.stop = true
  callers : s.callers ≠ 0 → s.destructor = .notStarted
  unblocked : ∀ joined, s.destructor = .joining joined → ∀ w, s.workers w ≠ .blocked
  joined : ∀ joined, s.destructor = .joining joined → ∀ w : Fin n, w.val < joined →
    s.workers w = .exited

/-- Tasks in the queue have a worker left, and before the destructor one that goes on or
that a caller is about to wake. -/
structure Served (s : ThreadPool Task n) : Prop where
  staffed : s.tasks ≠ [] → ∃ w, s.workers w ≠ .exited
  noticed : s.tasks ≠ [] → s.destructor = .notStarted →
    (∃ w, Active (s.workers w)) ∨ s.callers ≠ 0

structure PoolInv (s : ThreadPool Task n) : Prop where
  phases : Phases s
  served : Served s

/-! ## States with a worker that goes on -/

theorem served_of_active {s : ThreadPool Task n} {w : Fin n} (active : Active (s.workers w)) :
    Served s := by
  constructor
  · intro _
    exact ⟨w, active.2⟩
  · intro _ _
    exact .inl ⟨w, active⟩

theorem served_of_empty {s : ThreadPool Task n} (empty : s.tasks = []) : Served s := by
  constructor
  · intro filled
    exact absurd empty filled
  · intro filled
    exact absurd empty filled

/-- Before the destructor no worker has exited. -/
theorem Phases.none_exited {s : ThreadPool Task n} (phases : Phases s)
    (open_ : s.destructor = .notStarted) (w : Fin n) : s.workers w ≠ .exited := by
  intro exited
  exact phases.stopped.mp (phases.exits w exited) open_

/-- A worker that has not exited goes somewhere and does not exit. -/
theorem phases_setWorker {s : ThreadPool Task n} (phases : Phases s) {w : Fin n}
    {worker : Worker Task} (alive : s.workers w ≠ .exited)
    (exits : worker = .exited → s.stop = true)
    (blocks : worker = .blocked → s.destructor = .notStarted) : Phases (s.setWorker w worker) := by
  constructor
  · exact phases.stopped
  · intro v exited
    by_cases same : v = w
    · subst same
      rw [setWorker_self] at exited
      exact exits exited
    · rw [setWorker_other s worker same] at exited
      exact phases.exits v exited
  · exact phases.callers
  · intro joined joining v
    by_cases same : v = w
    · subst same
      rw [setWorker_self]
      intro blocked
      cases joining.symm.trans (blocks blocked)
    · rw [setWorker_other s worker same]
      exact phases.unblocked joined joining v
  · intro joined joining v before
    by_cases same : v = w
    · subst same
      exact absurd (phases.joined joined joining v before) alive
    · rw [setWorker_other s worker same]
      exact phases.joined joined joining v before

/-- Whatever happens to the queue while a worker goes on, the invariant holds. -/
theorem poolInv_activate {s : ThreadPool Task n} (phases : Phases s) {w : Fin n}
    {worker : Worker Task} (alive : s.workers w ≠ .exited) (active : Active worker)
    (tasks : List Task) : PoolInv { s.setWorker w worker with tasks } := by
  have moved := phases_setWorker phases alive
    (fun exited => absurd exited active.2) (fun blocked => absurd blocked active.1)
  constructor
  · exact ⟨moved.stopped, moved.exits, moved.callers, moved.unblocked, moved.joined⟩
  · apply served_of_active
    change Active ((s.setWorker w worker).workers w)
    rw [setWorker_self]
    exact active

/-! ## One step -/

/-- `notify_one` leaves the invariant when someone goes on after it. -/
theorem notifyOne_inv {s next : ThreadPool Task n} (phases : Phases s) {woken : Option (Fin n)}
    (unwoken : (∀ w, s.workers w ≠ .blocked) → ∃ w, Active (s.workers w))
    (notified : s.notifyOne woken = some next) : PoolInv next := by
  rcases notifyOne_cases notified with ⟨w, blocked, rfl⟩ | ⟨noneBlocked, rfl⟩
  · apply poolInv_activate phases
    · simp [blocked]
    · exact active_awake
  · obtain ⟨w, active⟩ := unwoken noneBlocked
    exact ⟨phases, served_of_active active⟩

/-- After `notify_all` no worker is blocked. -/
theorem notifyAll_inv {s : ThreadPool Task n} (inv : PoolInv s)
    (stopSet : s.destructor = .stopSet) :
    PoolInv { s.notifyAll with destructor := .joining 0 } := by
  obtain ⟨phases, served⟩ := inv
  have stopped : s.stop = true := phases.stopped.mpr (by simp [stopSet])
  have keeps : ∀ w, s.workers w ≠ .exited → s.notifyAll.workers w ≠ .exited := by
    intro w alive
    change (if (s.workers w).isBlocked then _ else _) ≠ _
    split
    · exact nofun
    · exact alive
  constructor
  · constructor
    · simp [notifyAll, stopped]
    · intro _ _
      exact stopped
    · intro waiting
      cases stopSet.symm.trans (phases.callers waiting)
    · intro joined _ w
      change (if (s.workers w).isBlocked then _ else _) ≠ _
      split
      · exact nofun
      · next notBlocked =>
        rw [isBlocked_iff] at notBlocked
        exact notBlocked
    · intro joined joining w before
      cases joining
      exact absurd before (Nat.not_lt_zero _)
  · constructor
    · intro filled
      obtain ⟨w, alive⟩ := served.staffed filled
      exact ⟨w, keeps w alive⟩
    · intro _ stillOpen
      cases stillOpen

/-- One more worker is joined. -/
theorem join_inv {s : ThreadPool Task n} (inv : PoolInv s) {joined : Nat}
    (joining : s.destructor = .joining joined) (inside : joined < n)
    (exited : s.workers ⟨joined, inside⟩ = .exited) :
    PoolInv { s with destructor := .joining (joined + 1) } := by
  obtain ⟨phases, served⟩ := inv
  have stopped : s.stop = true := phases.stopped.mpr (by simp [joining])
  constructor
  · constructor
    · simp [stopped]
    · intro _ _
      exact stopped
    · intro waiting
      cases joining.symm.trans (phases.callers waiting)
    · intro _ _
      exact phases.unblocked joined joining
    · intro later joining' w before
      cases joining'
      rcases Nat.lt_succ_iff_lt_or_eq.mp before with earlier | now
      · exact phases.joined joined joining w earlier
      · have same : w = ⟨joined, inside⟩ := Fin.ext now
        rw [same]
        exact exited
  · refine ⟨served.staffed, fun _ stillOpen => ?_⟩
    cases stillOpen

/-- The destructor sets `stop`. -/
theorem setStop_inv {s : ThreadPool Task n} (inv : PoolInv s) (idle : s.callers = 0) :
    PoolInv { s with stop := true, destructor := .stopSet } := by
  constructor
  · constructor
    · simp
    · intro _ _
      rfl
    · intro waiting
      exact absurd idle waiting
    · intro joined joining
      cases joining
    · intro joined joining
      cases joining
  · refine ⟨inv.served.staffed, fun _ stillOpen => ?_⟩
    cases stillOpen

/-- Every step of a pool with a worker keeps the invariant. -/
theorem fires_inv {s next : ThreadPool Task (n + 1)} {event : PoolEvent Task} (inv : PoolInv s)
    (fires : Fires s next event) : PoolInv next := by
  obtain ⟨phases, served⟩ := inv
  cases fires with
  | block w awake running empty =>
    refine ⟨phases_setWorker phases (by simp [awake]) nofun (fun _ => ?_), served_of_empty empty⟩
    by_contra started
    have stopped := phases.stopped.mpr started
    rw [running] at stopped
    cases stopped
  | exit w awake stopped empty =>
    exact ⟨phases_setWorker phases (by simp [awake]) (fun _ => stopped) nofun,
      served_of_empty empty⟩
  | take w task rest awake queue =>
    exact poolInv_activate phases (by simp [awake]) (active_running task false) rest
  | taskEnqueue w current task running =>
    exact poolInv_activate phases (by simp [running]) (active_running current true) _
  | taskNotify w current woken next running notified =>
    apply notifyOne_inv _ _ notified
    · exact phases_setWorker phases (by simp [running]) nofun nofun
    · intro _
      refine ⟨w, ?_⟩
      rw [setWorker_self]
      exact active_running current false
  | taskReturn w current running =>
    exact poolInv_activate phases (by simp [running]) active_awake _
  | enqueue task before =>
    refine ⟨⟨phases.stopped, phases.exits, fun _ => before, phases.unblocked, phases.joined⟩,
      ⟨fun _ => ⟨0, phases.none_exited before 0⟩, fun _ _ => .inr ?_⟩⟩
    exact Nat.succ_ne_zero _
  | notify callers woken next waiting notified =>
    have before : s.destructor = .notStarted := by
      apply phases.callers
      omega
    apply notifyOne_inv _ _ notified
    · exact ⟨phases.stopped, phases.exits, fun _ => before, phases.unblocked, phases.joined⟩
    · intro unblocked
      exact ⟨0, unblocked 0, phases.none_exited before 0⟩
  | setStop before idle => exact setStop_inv ⟨phases, served⟩ idle
  | notifyAll stopSet => exact notifyAll_inv ⟨phases, served⟩ stopSet
  | join joined inside joining exited => exact join_inv ⟨phases, served⟩ joining inside exited
  | wakeUp w blocked =>
    exact poolInv_activate phases (by simp [blocked]) active_awake _

theorem start_inv : PoolInv (start : ThreadPool Task n) := by
  constructor
  · constructor
    · simp [start]
    · intro w exited
      cases exited
    · intro waiting
      exact absurd rfl waiting
    · intro joined joining
      cases joining
    · intro joined joining
      cases joining
  · exact served_of_empty rfl

/-! ## The states in which all have gone to sleep -/

/-- A notification is still to be issued: by a caller, by a task, or by the destructor. -/
def NotifyPending (s : ThreadPool Task n) : Prop :=
  s.callers ≠ 0 ∨ (∃ w task, s.workers w = .running task true) ∨ s.destructor = .stopSet

/-- There is work or a stop to notice, every worker that has not exited is blocked, and
nothing will wake it. -/
structure Stuck (s : ThreadPool Task n) : Prop where
  due : s.tasks ≠ [] ∨ (s.stop = true ∧ ∃ w, s.workers w ≠ .exited)
  asleep : ∀ w, s.workers w ≠ .exited → s.workers w = .blocked
  quiet : ¬ NotifyPending s

theorem not_stuck_of_inv {s : ThreadPool Task n} (inv : PoolInv s) : ¬ Stuck s := by
  obtain ⟨phases, served⟩ := inv
  intro stuck
  have idle : s.callers = 0 := by
    by_contra waiting
    exact stuck.quiet (.inl waiting)
  have alive : ∃ w, s.workers w ≠ .exited := by
    rcases stuck.due with filled | ⟨_, alive⟩
    · exact served.staffed filled
    · exact alive
  cases phase : s.destructor with
  | stopSet => exact stuck.quiet (.inr (.inr phase))
  | joining joined =>
    obtain ⟨w, alive⟩ := alive
    exact phases.unblocked joined phase w (stuck.asleep w alive)
  | notStarted =>
    have filled : s.tasks ≠ [] := by
      rcases stuck.due with filled | ⟨stopped, _⟩
      · exact filled
      · exact absurd phase (phases.stopped.mp stopped)
    rcases served.noticed filled phase with ⟨w, active⟩ | waiting
    · exact active.1 (stuck.asleep w active.2)
    · exact waiting idle

/-- For every number of workers but none and every schedule, wake-ups without a
notification included: no state reached has a task in the queue, or a stop that some
worker has not followed, while all workers left are blocked and no notification is to
come. -/
theorem no_wakeup_lost (steps : List (PoolStep Task (n + 1))) :
    Machine.AtEveryReturn ThreadPool.step (fun s _ => ¬ Stuck s) start steps := by
  refine Machine.atEveryReturn_of_kept (fun s _ => PoolInv s) ?_ ?_ start_inv steps
  · intro s _ step next event inv stepped
    exact fires_inv inv (step_fires stepped)
  · intro s _ inv
    exact not_stuck_of_inv inv

end FifthD.Guarantees.PoolWakeups
