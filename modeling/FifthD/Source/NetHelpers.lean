import FifthD.Source.ErrorHandler

/-!
Port discovery: core/net_helpers.cpp:113-144. Which TCP ports `bind` accepts on the loopback
address is a parameter, and so is the descriptor that `socket` returns; the descriptors that
are open are the state. A signed overflow is an outcome of its own (`none`).
-/
namespace FifthD.Source

/-- `(int)` of an error code. -/
def ErrorCode.toInt (code : ErrorCode) : Int := code.ctorIdx

/-- `++` on an `int`; none is an overflow. -/
def increment (i : Int32) : Option Int32 := if i = Int32.maxValue then none else some (i + 1)

theorem increment_toInt {i next : Int32} (incremented : increment i = some next) :
    next.toInt = i.toInt + 1 := by
  unfold increment at incremented
  split at incremented
  · cases incremented
  · next notMax =>
    cases incremented
    have below : i.toInt ≠ 2 ^ 31 - 1 := by
      rw [← Int32.toInt_maxValue, Ne, Int32.toInt_inj]
      exact notMax
    have low := i.le_toInt
    have high := i.toInt_lt
    rw [Int32.toInt_add, Int32.toInt_one]
    apply Int.bmod_eq_of_le <;> omega

/-- The ports of the loopback address that `bind` accepts. Port 0 asks for any port. -/
structure Loopback where
  accepts : UInt16 → Bool
  zero : accepts 0 = true

/-- The port of an address: an `int` is cut to 16 bits on its way into `htons`. -/
def sinPort (port : Int32) : UInt16 := UInt16.ofInt port.toInt

/-- `bind` of a socket to a port of the loopback address. -/
def Loopback.bind (net : Loopback) (sinPort : UInt16) : Int :=
  if net.accepts sinPort then 0 else -1

/-- How the loop is left: by its `break`, or by the `return` in it. -/
inductive LoopExit where
  | broke (port : Int32)
  | returned (ret : Int32)
  deriving DecidableEq

/-- The loop of `is_port_available`. -/
def portLoop (net : Loopback) (ret port : Int32) : Option LoopExit :=
  if net.bind (sinPort port) = ErrorCode.OK.toInt then some (.broke port)
  else
    match _incremented : increment port with
    | none => none
    | some port => if _above : port > 7110 then some (.returned ret) else portLoop net ret port
termination_by (7111 - port.toInt).toNat
decreasing_by
  have next := increment_toInt _incremented
  have limit : (7110 : Int32).toInt = 7110 := rfl
  rw [GT.gt, Int32.lt_iff_toInt_lt] at _above
  omega

/-- `is_port_available`, with the descriptor that `socket` returned, or `none` for -1. It
leaves the open descriptors behind. -/
def isPortAvailable (net : Loopback) (sock : Option Nat) (port : Int32) (opened : List Nat) :
    Option (Int32 × List Nat) :=
  let ret : Int32 := -1
  match sock with
  | none => some (ret, opened)
  | some sock =>
    let opened := sock :: opened
    match portLoop net ret port with
    | none => none
    | some (.returned ret) => some (ret, opened)
    | some (.broke port) => some (port, opened.erase sock)

end FifthD.Source
