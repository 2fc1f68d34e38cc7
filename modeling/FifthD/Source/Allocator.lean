import FifthD.Source.Module

/-!
`module_init` of core/module.cpp:116-123 in the threads of one process, with `init_sodium`
and `handle_atomic_opt` of core/5thdallocator.cpp:23-33. Each thread is a program over
`sodium_init`, `std::abort`, the mutex and the calls of `_handle_keys`. As documented,
`sodium_init` returns 0 when it has initialized the library, 1 when that had been done
before, and -1 when it fails. `Log::init`, which `module_init` calls first, is left out: it
registers its logger anew in every call, which throws from the second call of a process on
(core/5thdlogger.cpp:15), and nobody catches that. So the second thread that comes may end
the process there already, where `init_sodium` would end it.
-/
namespace FifthD.Source

open FifthD.Library

/-! ## The threads -/

inductive ProcessCall where
  | sodiumInit
  | abort
  | lock
  | unlock
  | key (call : KeyCall)
  deriving DecidableEq

abbrev ProcessCall.Reply : ProcessCall → Type
  | .sodiumInit => Int
  | .abort | .lock | .unlock => Unit
  | .key call => call.Reply

abbrev ProcessProg (α : Type) := Prog ProcessCall ProcessCall.Reply α

def ProcessCall.ask (call : ProcessCall) : ProcessProg call.Reply := Prog.ask call

/-- `init_sodium`: whether it returns. -/
def initSodium : ProcessProg Bool := do
  let rc ← ProcessCall.sodiumInit.ask
  if rc ≠ 0 then
    ProcessCall.abort.ask
    return false
  return true

/-- `handle_atomic_opt`: the callback under `atomic_opt_mutex`. -/
def handleAtomicOpt {α : Type} (callback : ProcessProg α) : ProcessProg α := do
  ProcessCall.lock.ask
  let result ← callback
  ProcessCall.unlock.ask
  return result

/-- `module_init` in a thread: what `_handle_keys` leaves, or `none` when the thread called
`std::abort`. -/
def threadInit (clientId : Clients) (info : KeysInfo) : ProcessProg (Option KeysResult) := do
  if ← initSodium then
    let result ← handleAtomicOpt ((handleKeys clientId info).within ProcessCall.key)
    return some result
  return none

/-! ## The process -/

/-- The database with the connections of the process, whether libsodium is initialized, the
thread that holds `atomic_opt_mutex`, and whether the process is up. -/
structure Process (P : Type*) where
  server : KeyServer P
  sodium : Bool
  mutex : Option P
  alive : Bool

/-- What can fail in a process: `sodium_init`, and the calls of each `_handle_keys`. -/
structure ProcessEnv (P : Type*) where
  sodium : P → Bool
  starts : P → StartEnv

namespace Process

variable {P : Type*} [DecidableEq P]

/-- A process that has just started. -/
def fresh (tables : KeyTables) : Process P := ⟨.idle tables, false, none, true⟩

/-- While the process is up its threads go on, one at a time with the mutex. -/
def enabled (_ : P) (s : Process P) : ProcessCall → Prop
  | .lock => s.alive = true ∧ s.mutex = none
  | _ => s.alive = true

/-- The answer to a call. `_handle_keys` has a connection of its own in each thread. -/
def perform (env : ProcessEnv P) (p : P) (s : Process P) :
    (op : ProcessCall) → Process P × op.Reply
  | .sodiumInit =>
    if s.sodium then (s, 1)
    else if env.sodium p then ({ s with sodium := true }, 0)
    else (s, -1)
  | .abort => ({ s with alive := false }, ())
  | .lock => ({ s with mutex := some p }, ())
  | .unlock => ({ s with mutex := none }, ())
  | .key call =>
    let (server, reply) := performCall (env.starts p) p s.server call
    ({ s with server }, reply)

end Process

/-- The threads of a process and what they share. -/
abbrev Threads (P : Type*) :=
  Prog.System (Process P) P ProcessCall ProcessCall.Reply (Option KeysResult)

/-- Every thread calls `module_init`. -/
def callingThreads {P : Type*} (client : P → Clients) (info : P → KeysInfo) (tables : KeyTables) :
    Threads P :=
  ⟨.fresh tables, fun p => threadInit (client p) (info p)⟩

end FifthD.Source
