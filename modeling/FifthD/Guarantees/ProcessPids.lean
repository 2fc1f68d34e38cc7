import FifthD.Guarantees.ProcessTable

/-!
# Whose pid a name has

After any calls, also starts that fail and starts under a name that is in use, and whatever
pids `fork` returns: a name has the pid of its last start, unless it or all processes were
stopped since.
-/
namespace FifthD.Guarantees.ProcessPids

open FifthD.Library FifthD.Source UnixProcessManager FifthD.Guarantees.ProcessTable

/-- What a call makes of a name in the table, if anything: a pid, or no entry. -/
def sets (name : Bytes) : ProcCall → Option (Option Pid)
  | .start other (some pid) => if other = name then some (some pid) else none
  | .start _ none => none
  | .stop other => if other = name then some none else none
  | .stopAll => some none

/-- Stopping a process leaves the other names. -/
theorem stopProc_getElem? (name other : Bytes) (s : UnixProcessManager) :
    (stopProc name s).processes[other]? = if name = other then none else s.processes[other]? := by
  cases found : s.processes[name]? with
  | none =>
    rw [stopProc_missing found]
    split
    · next same => rw [← same, found]
    · rfl
  | some pid => rw [stopProc_found found, erase_getElem?]

/-- Stopping all processes leaves no name. -/
theorem stopAll_getElem? (s : UnixProcessManager) (name : Bytes) :
    s.stopAll.processes[name]? = none := by
  induction s using stopAll.induct with
  | case1 s empty =>
    rw [stopAll_of_none empty]
    exact Std.TreeMap.getElem?_of_isEmpty (Std.TreeMap.minKey?_eq_none_iff.mp empty)
  | case2 s first found ih =>
    rw [stopAll_of_some found]
    exact ih

/-- One call. -/
theorem on_getElem? (s : UnixProcessManager) (call : ProcCall) (name : Bytes) :
    (call.on s).processes[name]? = (sets name call).getD s.processes[name]? := by
  cases call with
  | start other forked =>
    cases forked with
    | none => rfl
    | some pid =>
      unfold ProcCall.on startProc sets
      dsimp only
      rw [insert_getElem?]
      split <;> rfl
  | stop other =>
    unfold ProcCall.on sets
    dsimp only
    rw [stopProc_getElem?]
    split <;> rfl
  | stopAll => exact stopAll_getElem? s name

/-- The table after any calls. -/
theorem afterCalls_getElem? (calls : List ProcCall) (name : Bytes) :
    (afterCalls calls).processes[name]? = (latest (sets name) calls).getD none := by
  induction calls using List.reverseRecOn with
  | nil => exact Std.TreeMap.getElem?_emptyc
  | append_singleton past call ih =>
    rw [afterCalls_snoc, on_getElem?, ih, latest_snoc]
    cases sets name call <;> rfl

/-- The last call that started, stopped or could have stopped the name started this pid. -/
def StartedLast (name : Bytes) (pid : Pid) (calls : List ProcCall) : Prop :=
  ∃ past later, calls = past ++ .start name (some pid) :: later ∧
    ∀ call ∈ later, (∀ new, call ≠ .start name (some new)) ∧ call ≠ .stop name ∧ call ≠ .stopAll

theorem sets_eq_none_iff (name : Bytes) (call : ProcCall) :
    sets name call = none ↔
      (∀ new, call ≠ .start name (some new)) ∧ call ≠ .stop name ∧ call ≠ .stopAll := by
  cases call with
  | start other forked => cases forked <;> simp [sets]
  | stop other => simp [sets]
  | stopAll => simp [sets]

theorem sets_eq_some_iff (name : Bytes) (call : ProcCall) (pid : Pid) :
    sets name call = some (some pid) ↔ call = .start name (some pid) := by
  cases call with
  | start other forked => cases forked <;> simp [sets]
  | stop other => simp [sets]
  | stopAll => simp [sets]

theorem startedLast_iff (name : Bytes) (pid : Pid) (calls : List ProcCall) :
    StartedLast name pid calls ↔ (afterCalls calls).processes[name]? = some pid := by
  rw [afterCalls_getElem?]
  have said : (latest (sets name) calls).getD none = some pid ↔
      latest (sets name) calls = some (some pid) := by
    cases latest (sets name) calls <;> simp
  rw [said, latest_eq_some_iff]
  unfold StartedLast
  simp only [sets_eq_none_iff, sets_eq_some_iff]
  constructor
  · rintro ⟨past, later, split, silent⟩
    exact ⟨past, _, later, split, rfl, silent⟩
  · rintro ⟨past, call, later, split, rfl, silent⟩
    exact ⟨past, later, split, silent⟩

/-- For every sequence of calls, with starts that fail, names that are started again and any
pids: `get_pid` returns the pid of the last start of the name if since then neither the
name nor all processes were stopped, and -1 if there is no such start. -/
theorem get_pid_iff (calls : List ProcCall) (name : Bytes) :
    (∀ pid : Pid, getPid name (afterCalls calls) = pid ↔ StartedLast name pid calls) ∧
      (getPid name (afterCalls calls) = -1 ↔ ∀ pid, ¬ StartedLast name pid calls) := by
  simp only [startedLast_iff]
  unfold getPid
  cases (afterCalls calls).processes[name]? with
  | none =>
    constructor
    · intro pid
      have negative : (-1 : Int) ≠ pid := by omega
      simp [negative]
    · simp
  | some pid =>
    constructor
    · intro other
      exact Int.natCast_inj.trans Option.some_inj.symm
    · have positive : (pid : Int) ≠ -1 := by omega
      simp [positive]

end FifthD.Guarantees.ProcessPids
