import FifthD.Library.History
import FifthD.Source.ProcUnix

/-!
# What becomes of every process that was started

Sequences of calls on a process manager, every `fork` returning a new pid. A pid is in the
table and has not been signalled, or it has left the table and was signalled once; the
only thing that breaks this is a start under a name that is in the table: the map entry is
written over and its pid is lost.
-/
namespace FifthD.Guarantees.ProcessTable

open FifthD.Library FifthD.Source UnixProcessManager

/-- A call, with what `fork` returns in it. -/
inductive ProcCall where
  | start (name : Bytes) (forked : Option Pid)
  | stop (name : Bytes)
  | stopAll

/-- Make a call; a start that throws leaves the manager as it is. -/
def ProcCall.on (s : UnixProcessManager) : ProcCall → UnixProcessManager
  | .start name forked =>
    match startProc forked name s with
    | .ok next => next
    | .error _ => s
  | .stop name => stopProc name s
  | .stopAll => s.stopAll

/-- The manager after calls. -/
def afterCalls (calls : List ProcCall) : UnixProcessManager := calls.foldl ProcCall.on .fresh

/-- The pid that the `fork` of a call returned. -/
def ProcCall.forked : ProcCall → Option Pid
  | .start _ forked => forked
  | .stop _ | .stopAll => none

/-- All pids that `fork` returned. -/
def forkedPids (calls : List ProcCall) : List Pid := calls.filterMap ProcCall.forked

theorem afterCalls_snoc (past : List ProcCall) (call : ProcCall) :
    afterCalls (past ++ [call]) = call.on (afterCalls past) := by
  unfold afterCalls
  rw [List.foldl_append]
  rfl

theorem forkedPids_snoc (past : List ProcCall) (call : ProcCall) :
    forkedPids (past ++ [call]) = forkedPids past ++ call.forked.toList := by
  unfold forkedPids
  rw [List.filterMap_append]
  cases forked : call.forked <;> simp [forked]

/-! ## The table -/

/-- Some name has this pid. -/
def Tracked (s : UnixProcessManager) (pid : Pid) : Prop :=
  ∃ name : Bytes, s.processes[name]? = some pid

/-- Every forked pid is in the table under one name and not signalled, or it has left the
table and was signalled once; no other pid occurs. -/
structure Accounted (forked : List Pid) (s : UnixProcessManager) : Prop where
  known : ∀ (name : Bytes) pid, s.processes[name]? = some pid → pid ∈ forked
  apart : ∀ (name other : Bytes) pid, s.processes[name]? = some pid →
    s.processes[other]? = some pid → name = other
  once : ∀ pid ∈ forked, (Tracked s pid ∧ s.killed.count pid = 0) ∨
    (¬ Tracked s pid ∧ s.killed.count pid = 1)
  unknown : ∀ pid, pid ∉ forked → s.killed.count pid = 0

theorem fresh_accounted : Accounted [] fresh := by
  have empty : ∀ name : Bytes, fresh.processes[name]? = none := fun _ => Std.TreeMap.getElem?_emptyc
  constructor
  · intro name pid there
    cases (empty name).symm.trans there
  · intro name other pid there _
    cases (empty name).symm.trans there
  · simp
  · intro pid _
    rfl

/-- What a name has in the table after an entry is erased. -/
theorem erase_getElem? (processes : Std.TreeMap Bytes Pid) (name other : Bytes) :
    (processes.erase name)[other]? = if name = other then none else processes[other]? := by
  rw [Std.TreeMap.getElem?_erase]
  simp only [Std.LawfulEqCmp.compare_eq_iff_eq]

/-- What a name has in the table after an entry is written. -/
theorem insert_getElem? (processes : Std.TreeMap Bytes Pid) (name other : Bytes) (pid : Pid) :
    (processes.insert name pid)[other]? = if name = other then some pid else processes[other]? := by
  rw [Std.TreeMap.getElem?_insert]
  simp only [Std.LawfulEqCmp.compare_eq_iff_eq]

/-- Stopping a process signals its pid and erases its entry. -/
theorem stopProc_found {name : Bytes} {s : UnixProcessManager} {pid : Pid}
    (found : s.processes[name]? = some pid) :
    stopProc name s = ⟨s.processes.erase name, s.killed ++ [pid]⟩ := by
  unfold stopProc
  rw [found]

theorem stopProc_missing {name : Bytes} {s : UnixProcessManager}
    (missing : s.processes[name]? = none) : stopProc name s = s := by
  unfold stopProc
  rw [missing]

/-- The pids in the table after a stop are the others. -/
theorem tracked_stopProc {forked : List Pid} {s : UnixProcessManager}
    (accounted : Accounted forked s) {name : Bytes} {pid : Pid}
    (found : s.processes[name]? = some pid) (other : Pid) :
    Tracked (stopProc name s) other ↔ Tracked s other ∧ other ≠ pid := by
  rw [stopProc_found found]
  unfold Tracked
  constructor
  · intro tracked
    obtain ⟨key, there⟩ := tracked
    rw [erase_getElem?] at there
    split at there
    · cases there
    · next different =>
      refine ⟨⟨key, there⟩, ?_⟩
      intro same
      subst same
      exact different (accounted.apart name key other found there)
  · intro tracked
    obtain ⟨⟨key, there⟩, different⟩ := tracked
    refine ⟨key, ?_⟩
    rw [erase_getElem?, if_neg, there]
    intro same
    subst same
    exact different (Option.some.inj (there.symm.trans found))

/-- A stop keeps every pid accounted for. -/
theorem stopProc_accounted {forked : List Pid} {s : UnixProcessManager}
    (accounted : Accounted forked s) (name : Bytes) : Accounted forked (stopProc name s) := by
  cases found : s.processes[name]? with
  | none =>
    rw [stopProc_missing found]
    exact accounted
  | some pid =>
    have tracked := tracked_stopProc accounted found
    have kept : ∀ (key : Bytes) other, (stopProc name s).processes[key]? = some other →
        s.processes[key]? = some other := by
      intro key other there
      rw [stopProc_found found, erase_getElem?] at there
      split at there
      · cases there
      · exact there
    have member := accounted.known name pid found
    have counts : ∀ other, (stopProc name s).killed.count other =
        s.killed.count other + if pid = other then 1 else 0 := by
      intro other
      rw [stopProc_found found, List.count_append, List.count_singleton]
      simp
    constructor
    · intro key other there
      exact accounted.known key other (kept key other there)
    · intro key key' other there there'
      exact accounted.apart key key' other (kept key other there) (kept key' other there')
    · intro other inForked
      rw [tracked, counts]
      by_cases same : other = pid
      · subst same
        right
        rcases accounted.once other inForked with ⟨_, unsignalled⟩ | ⟨gone, _⟩
        · simp [unsignalled]
        · exact absurd ⟨name, found⟩ gone
      · have different : pid ≠ other := Ne.symm same
        simpa [same, different] using accounted.once other inForked
    · intro other notForked
      have different : pid ≠ other := by
        intro same
        exact notForked (same ▸ member)
      rw [counts, accounted.unknown other notForked, if_neg different]

theorem stopAll_of_none {s : UnixProcessManager} (empty : s.processes.minKey? = none) :
    s.stopAll = s := by
  rw [stopAll]
  split
  · rfl
  · next found => cases empty.symm.trans found

theorem stopAll_of_some {s : UnixProcessManager} {name : Bytes}
    (first : s.processes.minKey? = some name) : s.stopAll = (stopProc name s).stopAll := by
  rw [stopAll]
  split
  · next empty => cases first.symm.trans empty
  · next other found =>
    cases first.symm.trans found
    rfl

/-- Stopping all processes keeps every pid accounted for and empties the table. -/
theorem stopAll_accounted {forked : List Pid} {s : UnixProcessManager}
    (accounted : Accounted forked s) :
    Accounted forked s.stopAll ∧ s.stopAll.processes.isEmpty = true := by
  induction s using stopAll.induct with
  | case1 s empty =>
    rw [stopAll_of_none empty]
    exact ⟨accounted, Std.TreeMap.minKey?_eq_none_iff.mp empty⟩
  | case2 s name first ih =>
    rw [stopAll_of_some first]
    exact ih (stopProc_accounted accounted name)

/-! ## Starting -/

/-- The name is in the table when the start writes it. -/
def Overwrites (past : List ProcCall) : ProcCall → Prop
  | .start name (some _) => (afterCalls past).processes[name]? ≠ none
  | .start _ none | .stop _ | .stopAll => False

/-- The pids in the table after a start under a new name: the new one aside, the same. -/
theorem tracked_insert {s : UnixProcessManager} {name : Bytes} (free : s.processes[name]? = none)
    {pid other : Pid} (different : other ≠ pid) :
    Tracked { s with processes := s.processes.insert name pid } other ↔ Tracked s other := by
  unfold Tracked
  constructor
  · intro tracked
    obtain ⟨key, there⟩ := tracked
    rw [insert_getElem?] at there
    split at there
    · exact absurd (Option.some.inj there).symm different
    · exact ⟨key, there⟩
  · intro tracked
    obtain ⟨key, there⟩ := tracked
    refine ⟨key, ?_⟩
    rw [insert_getElem?, if_neg, there]
    intro same
    subst same
    cases free.symm.trans there

/-- A start under a new name keeps every pid accounted for. -/
theorem start_accounted {forked : List Pid} {s : UnixProcessManager}
    (accounted : Accounted forked s) {name : Bytes} (free : s.processes[name]? = none) {pid : Pid}
    (new : pid ∉ forked) :
    Accounted (forked ++ [pid]) { s with processes := s.processes.insert name pid } := by
  constructor
  · intro key other there
    rw [insert_getElem?] at there
    split at there
    · cases there
      exact List.mem_append_right _ (List.mem_singleton_self _)
    · exact List.mem_append_left _ (accounted.known key other there)
  · intro key key' other there there'
    rw [insert_getElem?] at there there'
    split at there
    · next same =>
      cases there
      split at there'
      · next same' => rw [← same, same']
      · exact absurd (accounted.known key' pid there') new
    · split at there'
      · cases there'
        exact absurd (accounted.known key pid there) new
      · exact accounted.apart key key' other there there'
  · intro other inForked
    by_cases same : other = pid
    · subst same
      left
      refine ⟨⟨name, ?_⟩, accounted.unknown other new⟩
      rw [insert_getElem?, if_pos rfl]
    · have before : other ∈ forked := by simpa [same] using inForked
      rw [tracked_insert free same]
      exact accounted.once other before
  · intro other notForked
    apply accounted.unknown
    intro before
    exact notForked (List.mem_append_left _ before)

/-- A start under a name that is in the table loses the pid that was there. -/
theorem overwritten_lost {forked : List Pid} {s : UnixProcessManager}
    (accounted : Accounted forked s) {name : Bytes} {old : Pid}
    (taken : s.processes[name]? = some old) {pid : Pid} (new : pid ∉ forked) :
    ¬ Tracked { s with processes := s.processes.insert name pid } old ∧
      s.killed.count old = 0 := by
  have member := accounted.known name old taken
  constructor
  · intro tracked
    obtain ⟨key, there⟩ := tracked
    rw [insert_getElem?] at there
    split at there
    · cases there
      exact new member
    · next different => exact different (accounted.apart name key old taken there)
  · rcases accounted.once old member with ⟨_, unsignalled⟩ | ⟨gone, _⟩
    · exact unsignalled
    · exact absurd ⟨name, taken⟩ gone

/-! ## Whole runs -/

theorem nodup_of_append {past later : List ProcCall} (new : (forkedPids (past ++ later)).Nodup) :
    (forkedPids past).Nodup := by
  unfold forkedPids at new ⊢
  rw [List.filterMap_append, List.nodup_append] at new
  exact new.1

/-- A pid that `fork` returns again at no time was not there before. -/
theorem newPid_of_nodup {past : List ProcCall} {pid : Pid}
    (new : (forkedPids past ++ [pid]).Nodup) : pid ∉ forkedPids past := by
  intro member
  exact (List.nodup_append.mp new).2.2 pid member pid (List.mem_singleton_self _) rfl

/-- One call that overwrites nothing keeps every pid accounted for. -/
theorem call_accounted {past : List ProcCall} {call : ProcCall}
    (accounted : Accounted (forkedPids past) (afterCalls past))
    (new : (forkedPids (past ++ [call])).Nodup) (keeps : ¬ Overwrites past call) :
    Accounted (forkedPids (past ++ [call])) (afterCalls (past ++ [call])) := by
  rw [forkedPids_snoc] at new ⊢
  rw [afterCalls_snoc]
  cases call with
  | start name forked =>
    cases forked with
    | none =>
      rw [show (ProcCall.start name none).forked.toList = [] from rfl, List.append_nil]
      exact accounted
    | some pid =>
      apply start_accounted accounted
      · simpa [Overwrites] using keeps
      · exact newPid_of_nodup new
  | stop name =>
    rw [show (ProcCall.stop name).forked.toList = [] from rfl, List.append_nil]
    exact stopProc_accounted accounted name
  | stopAll =>
    rw [show ProcCall.stopAll.forked.toList = [] from rfl, List.append_nil]
    exact (stopAll_accounted accounted).1

/-- Every pid that was forked is the pid of a name, or was signalled exactly once; and
stopping all processes empties the table and leaves every pid signalled exactly once. -/
structure Stoppable (calls : List ProcCall) : Prop where
  each : ∀ pid ∈ forkedPids calls,
    (Tracked (afterCalls calls) pid ∧ (afterCalls calls).killed.count pid = 0) ∨
      (¬ Tracked (afterCalls calls) pid ∧ (afterCalls calls).killed.count pid = 1)
  emptied : (afterCalls calls).stopAll.processes.isEmpty = true
  all : ∀ pid ∈ forkedPids calls, (afterCalls calls).stopAll.killed.count pid = 1

theorem stoppable_of_accounted {calls : List ProcCall}
    (accounted : Accounted (forkedPids calls) (afterCalls calls)) : Stoppable calls := by
  obtain ⟨stopped, empty⟩ := stopAll_accounted accounted
  refine ⟨accounted.once, empty, fun pid member => ?_⟩
  rcases stopped.once pid member with ⟨⟨name, there⟩, _⟩ | ⟨_, once⟩
  · cases there.symm.trans (Std.TreeMap.getElem?_of_isEmpty empty)
  · exact once

/-- An overwriting start ends the account. -/
theorem not_stoppable_of_overwrite {past : List ProcCall} {call : ProcCall}
    (accounted : Accounted (forkedPids past) (afterCalls past))
    (new : (forkedPids (past ++ [call])).Nodup) (overwrites : Overwrites past call) :
    ¬ Stoppable (past ++ [call]) := by
  intro stoppable
  cases call with
  | stop | stopAll => exact overwrites
  | start name forked =>
    cases forked with
    | none => exact overwrites
    | some pid =>
      obtain ⟨old, taken⟩ := Option.ne_none_iff_exists'.mp overwrites
      rw [forkedPids_snoc] at new
      obtain ⟨lost, unsignalled⟩ := overwritten_lost accounted taken (newPid_of_nodup new)
      have member : old ∈ forkedPids (past ++ [.start name (some pid)]) := by
        rw [forkedPids_snoc]
        exact List.mem_append_left _ (accounted.known name old taken)
      have account := stoppable.each old member
      rw [afterCalls_snoc] at account
      rcases account with ⟨tracked, _⟩ | ⟨_, once⟩
      · exact lost tracked
      · cases unsignalled.symm.trans once

/-- A run that overwrites nothing keeps every pid accounted for. -/
theorem run_accounted {calls : List ProcCall} (new : (forkedPids calls).Nodup)
    (keeps : ¬ Happened Overwrites calls) : Accounted (forkedPids calls) (afterCalls calls) := by
  induction calls using List.reverseRecOn with
  | nil => exact fresh_accounted
  | append_singleton past call ih =>
    rw [happened_snoc, not_or] at keeps
    exact call_accounted (ih (nodup_of_append new) keeps.1) new keeps.2

/-- For every sequence of calls, with any names and every fork returning a new pid: after
each of them every pid that was forked is the pid of a name or was signalled exactly once,
and `stop_all` would end, empty the table and leave every pid signalled exactly once, if
and only if no successful start is under a name that is in the table. -/
theorem every_process_stoppable_iff (calls : List ProcCall) (new : (forkedPids calls).Nodup) :
    (∀ past later, calls = past ++ later → Stoppable past) ↔ ¬ Happened Overwrites calls := by
  constructor
  · intro stoppable
    induction calls using List.reverseRecOn with
    | nil => exact not_happened_nil _
    | append_singleton past call ih =>
      have before : ¬ Happened Overwrites past := by
        apply ih (nodup_of_append new)
        intro past' later split
        exact stoppable past' (later ++ [call]) (by rw [split, List.append_assoc])
      have accounted := run_accounted (nodup_of_append new) before
      rw [happened_snoc, not_or]
      refine ⟨before, fun overwrites => ?_⟩
      exact not_stoppable_of_overwrite accounted new overwrites
        (stoppable (past ++ [call]) [] (List.append_nil _).symm)
  · intro keeps past later split
    apply stoppable_of_accounted
    rw [split] at new keeps
    apply run_accounted (nodup_of_append new)
    intro happened
    exact keeps (happened.append later)

/-- Two names. -/
theorem two_names_stoppable :
    (∀ past later,
      [ProcCall.start (ascii "bus") (some 11), .start (ascii "peer") (some 12),
        .stop (ascii "bus")] = past ++ later → Stoppable past) ↔
      ¬ Happened Overwrites [.start (ascii "bus") (some 11), .start (ascii "peer") (some 12),
        .stop (ascii "bus")] :=
  every_process_stoppable_iff _ (by decide)

/-- A name started twice: the first pid is no name's any more and was not signalled, and
`stop_all` leaves it so. -/
theorem restarted_name_lost :
    let calls := [ProcCall.start (ascii "peer") (some 11), .start (ascii "peer") (some 12)]
    (afterCalls calls).processes.toList = [(ascii "peer", 12)] ∧
      (afterCalls calls).killed.count 11 = 0 ∧ (afterCalls calls).stopAll.killed = [12] ∧
      ¬ Stoppable calls := by
  intro calls
  have first : (afterCalls calls).processes.minKey? = some (ascii "peer") := by
    rw [Std.TreeMap.minKey?_eq_head?_keys]
    decide +kernel
  have empty : (stopProc (ascii "peer") (afterCalls calls)).processes.minKey? = none := by
    rw [Std.TreeMap.minKey?_eq_head?_keys]
    decide +kernel
  have stopped : (afterCalls calls).stopAll.killed = [12] := by
    rw [stopAll_of_some first, stopAll_of_none empty]
    decide +kernel
  refine ⟨by decide +kernel, by decide +kernel, stopped, fun stoppable => ?_⟩
  have once := stoppable.all 11 (by decide)
  rw [stopped] at once
  cases once

end FifthD.Guarantees.ProcessTable
