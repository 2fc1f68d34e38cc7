import FifthD.Source.Zmq
import Mathlib.Order.Basic

/-!
The processes of a node: core/proc_unix.h:12-55. `_processes` is an ordered map from names
to pids. What `fork` returns to the manager is a parameter of `start_proc`; the pids that
`kill` was called on with SIGTERM are part of the state. The lines printed are left out.
-/
namespace FifthD.Source

/-- `pid_t` of a process; a child's pid is positive. -/
abbrev Pid := Nat

/-- A `UnixProcessManager`, and what it has sent SIGTERM to. -/
structure UnixProcessManager where
  /-- `_processes`. -/
  processes : Std.TreeMap Bytes Pid
  killed : List Pid

namespace UnixProcessManager

/-- A manager just constructed. -/
def fresh : UnixProcessManager := ⟨∅, []⟩

/-- `start_proc`, with the pid that `fork` returned, or `none` when it failed; the call then
throws. The child never comes back to the manager. -/
def startProc (forked : Option Pid) (name : Bytes) (s : UnixProcessManager) :
    Except String UnixProcessManager :=
  match forked with
  | some pid => .ok { s with processes := s.processes.insert name pid }
  | none => .error "Fork failed"

/-- `stop_proc`. -/
def stopProc (name : Bytes) (s : UnixProcessManager) : UnixProcessManager :=
  match s.processes[name]? with
  | some pid => ⟨s.processes.erase name, s.killed ++ [pid]⟩
  | none => s

/-- `get_pid`. -/
def getPid (name : Bytes) (s : UnixProcessManager) : Int :=
  match s.processes[name]? with
  | some pid => pid
  | none => -1

/-- Stopping a process that is there leaves one entry less. -/
theorem stopProc_size {name : Bytes} {s : UnixProcessManager}
    (first : s.processes.minKey? = some name) :
    (stopProc name s).processes.size < s.processes.size := by
  have there : s.processes.contains name = true := Std.TreeMap.contains_minKey? first
  have filled : s.processes.isEmpty = false := by
    rw [Std.TreeMap.isEmpty_eq_false_iff_exists_contains_eq_true]
    exact ⟨name, there⟩
  rw [Std.TreeMap.isEmpty_eq_size_eq_zero] at filled
  obtain ⟨pid, found⟩ := Option.isSome_iff_exists.mp
    (Std.TreeMap.contains_eq_isSome_getElem?.symm.trans there)
  unfold stopProc
  rw [found]
  dsimp only
  rw [Std.TreeMap.size_erase, if_pos there]
  have positive : s.processes.size ≠ 0 := by simpa using filled
  omega

/-- `stop_all`: as long as there is a first entry, stop it and begin again. `stop_proc` no
longer reads the name when the entry that holds it is erased. -/
def stopAll (s : UnixProcessManager) : UnixProcessManager :=
  match _first : s.processes.minKey? with
  | none => s
  | some name => stopAll (stopProc name s)
termination_by s.processes.size
decreasing_by exact stopProc_size _first

end UnixProcessManager

end FifthD.Source
