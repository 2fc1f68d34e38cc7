import FifthD.Source.SoftwareBus
import FifthD.Spec.Router

/-!
The process of the bus: the loop of core/receiver.cpp:20-42 with `_handle_msg`, and
5thD_Software_Bus/core/src/software_bus.cpp:142-159. One turn of the loop of `worker` is one
step; whether `zmq_poll` fails, which messages have arrived when it returns and which signals
were delivered since the last check of the flag are parameters of the turn. A poll that does
not fail reports input exactly when a frame is waiting. A call that leaves its memory is the
last step of the process of which anything is known.
-/
namespace FifthD.Source

/-! ## The polling loop -/

/-- Why the loop goes on no more: `worker` has returned, or a call has left its memory. -/
inductive LoopEnd where
  | untilCleared
  | pollError
  | leftMemory
  deriving DecidableEq, Repr

/-- What one turn of `worker` did. -/
inductive Turn (ω : Type*) where
  | ended (why : LoopEnd)
  | timeout
  | called (out : ω)
  deriving DecidableEq

/-- One turn of the loop of `ZMQWReceiver::worker`. -/
def workerTurn {σ ω : Type*} (callback : σ → Option (σ × ω)) (sock : σ → Socket)
    (untilFlag pollOk : Bool) (s : σ) : Option (σ × Turn ω) :=
  if untilFlag = false then some (s, .ended .untilCleared)
  else if pollOk = false then some (s, .ended .pollError)
  else if (sock s).pending = 0 then some (s, .timeout)
  else (callback s).map fun (s, out) => (s, .called out)

/-! ## The process of the bus -/

def SIGINT : Int := 2

def SIGTERM : Int := 15

/-- The bus in `run`: the flag `_poll`, and why the loop has ended, once it has. -/
structure BusProcess where
  bus : BusState
  poll : Bool
  ended : Option LoopEnd

/-- `run`, when `listen` has returned, whatever it returned. -/
def BusProcess.start (error : ErrorHandler) : BusProcess := ⟨BusState.fresh error, true, none⟩

/-- `ZMQBus::signal_handler`. -/
def signalHandler (sign : Int) (poll : Bool) : Bool :=
  if sign = SIGINT ∨ sign = SIGTERM then false else poll

/-- What the environment decides in one turn. -/
structure BusRound where
  signals : List Int
  arrived : List Spec.RouterMsg
  pollOk : Bool
  env : HandleEnv

/-- The messages that have arrived when the poll returns. -/
def BusState.arrive (s : BusState) (arrived : List Spec.RouterMsg) : BusState :=
  { s with
    sock := { s.sock with inbox := s.sock.inbox ++ arrived.map Spec.RouterMsg.toMultipart } }

/-- Why a turn is the last: `worker` returns, or its call leaves its memory. -/
def Turn.last : Turn HandleTrace → Option LoopEnd
  | .ended why => some why
  | .timeout => none
  | .called trace => if trace.inMemory then none else some .leftMemory

/-- One turn of `worker` with `_handle_msg`; once the loop has ended, messages only pile up. -/
def BusProcess.turn (p : BusProcess) (round : BusRound) :
    Option (BusProcess × Turn HandleTrace) :=
  let bus := p.bus.arrive round.arrived
  let poll := round.signals.foldl (fun poll sign => signalHandler sign poll) p.poll
  match p.ended with
  | some why => some ({ p with bus, poll }, .ended why)
  | none =>
    (workerTurn (handleMsg round.env) BusState.sock poll round.pollOk bus).map fun (bus, turn) =>
      (⟨bus, poll, turn.last⟩, turn)

end FifthD.Source
