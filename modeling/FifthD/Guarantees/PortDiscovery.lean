import FifthD.Library.UpwardSearch
import FifthD.Source.NetHelpers
import Mathlib.Data.Int.Order.Basic

/-!
# Port discovery

`is_port_available` tries numbers upwards, each cut to 16 bits for its `bind`. From 1 on that
is a search for a port. Below 1 it ends at a multiple of 65536 at the latest, where `bind` is
given port 0; above 65535 it accepts a number that is no port. The return behind the limit
leaves the probe socket open.
-/
namespace FifthD.Guarantees.PortDiscovery

open FifthD.Library UpwardSearch FifthD.Source

variable (net : Loopback)

/-! ## The loop as a search -/

/-- The numbers that `bind` accepts when they are cut to 16 bits. -/
def Accepted : Set Int := {i | net.accepts (UInt16.ofInt i) = true}

/-- The number that the loop was left with by its `break`. -/
def found : Option LoopExit → Option Int
  | some (.broke port) => some port.toInt
  | some (.returned _) | none => none

/-- The test of `bind` against the error code. -/
theorem bind_ok_iff (port : Int32) :
    net.bind (sinPort port) = ErrorCode.OK.toInt ↔ port.toInt ∈ Accepted net := by
  have ok : ErrorCode.OK.toInt = 0 := rfl
  unfold Loopback.bind sinPort Accepted
  by_cases accepts : net.accepts (UInt16.ofInt port.toInt) = true <;> simp [accepts, ok]

theorem increment_none {i : Int32} (overflow : increment i = none) : i = Int32.maxValue := by
  unfold increment at overflow
  split at overflow
  · next top => exact top
  · cases overflow

theorem maxValue_above : 7110 < Int32.maxValue.toInt := by decide

theorem above_limit_iff {port : Int32} : port > 7110 ↔ 7110 < port.toInt := Int32.lt_iff_toInt_lt

/-- The loop is a search up to 7110. -/
theorem portLoop_finds (ret port : Int32) :
    Finds (· + 1) (Accepted net) 7110 port.toInt (found (portLoop net ret port)) := by
  fun_induction portLoop net ret port with
  | case1 port bound => exact .found ((bind_ok_iff net port).mp bound)
  | case2 port refused overflow =>
    refine .exhausted (fun member => refused ((bind_ok_iff net port).mpr member)) ?_
    rw [increment_none overflow]
    exact maxValue_above.trans (Int.lt_succ _)
  | case3 port refused next incremented above =>
    rw [above_limit_iff, increment_toInt incremented] at above
    exact .exhausted (fun member => refused ((bind_ok_iff net port).mpr member)) above
  | case4 port refused next incremented within later =>
    rw [above_limit_iff, increment_toInt incremented, not_lt] at within
    rw [increment_toInt incremented] at later
    exact .step (fun member => refused ((bind_ok_iff net port).mpr member)) within later

variable {net} {ret port r : Int32}

/-- Behind the limit the loop returns what it was given. -/
theorem portLoop_returned (exit : portLoop net ret port = some (.returned r)) : r = ret := by
  fun_induction portLoop net ret port with
  | case1 port bound => cases exit
  | case2 port refused overflow => cases exit
  | case3 port refused next incremented above =>
    cases exit
    rfl
  | case4 port refused next incremented within ih => exact ih exit

/-- Only the last `int` cannot be incremented, and it is behind the limit. -/
theorem portLoop_overflow (exit : portLoop net ret port = none) : port = Int32.maxValue := by
  fun_induction portLoop net ret port with
  | case1 port bound => cases exit
  | case2 port refused overflow => exact increment_none overflow
  | case3 port refused next incremented above => cases exit
  | case4 port refused next incremented within ih =>
    rw [ih exit, above_limit_iff] at within
    exact absurd maxValue_above within

/-! ## The call -/

/-- How a call ends whose socket was created: with the least number accepted, behind the
limit with its socket open, or in an overflow. -/
inductive Outcome (net : Loopback) (sock : Nat) (port : Int32) (opened : List Nat) :
    Option (Int32 × List Nat) → Prop
  | found (r : Int32) (least : IsLeast (Accepted net ∩ range 7110 port.toInt) r.toInt) :
    Outcome net sock port opened (some (r, opened))
  | exhausted (nothing : Accepted net ∩ range 7110 port.toInt = ∅) :
    Outcome net sock port opened (some (-1, sock :: opened))
  | overflow (nothing : Accepted net ∩ range 7110 port.toInt = ∅)
    (top : port = Int32.maxValue) : Outcome net sock port opened none

theorem isPortAvailable_outcome (net : Loopback) (sock : Nat) (port : Int32)
    (opened : List Nat) :
    Outcome net sock port opened (isPortAvailable net (some sock) port opened) := by
  have finds := portLoop_finds net (-1) port
  unfold isPortAvailable
  dsimp only
  cases exit : portLoop net (-1) port with
  | none =>
    rw [exit] at finds
    exact .overflow (finds.empty Int.lt_iff_add_one_le) (portLoop_overflow exit)
  | some left =>
    rw [exit] at finds
    cases left with
    | returned ret =>
      rw [portLoop_returned exit]
      exact .exhausted (finds.empty Int.lt_iff_add_one_le)
    | broke r =>
      rw [List.erase_cons_head]
      exact .found r (finds.isLeast Int.lt_iff_add_one_le)

/-- A signed overflow takes the last `int`, and port 65535 refused. -/
theorem overflow_iff (net : Loopback) (sock : Nat) (port : Int32) (opened : List Nat) :
    isPortAvailable net (some sock) port opened = none ↔
      port = Int32.maxValue ∧ net.accepts 65535 = false := by
  constructor
  · intro overflows
    have outcome := isPortAvailable_outcome net sock port opened
    rw [overflows] at outcome
    cases outcome with
    | overflow nothing top =>
      refine ⟨top, ?_⟩
      by_contra accepts
      have member : port.toInt ∈ Accepted net ∩ range 7110 port.toInt := by
        refine ⟨?_, start_mem_range 7110 port.toInt⟩
        rw [top]
        exact Bool.of_not_eq_false accepts
      rw [nothing] at member
      exact member
  · rintro ⟨rfl, refused⟩
    have failed : net.bind (sinPort Int32.maxValue) ≠ ErrorCode.OK.toInt := by
      rw [Ne, bind_ok_iff]
      exact fun accepts => Bool.false_ne_true (refused.symm.trans accepts)
    have overflows : portLoop net (-1) Int32.maxValue = none := by
      rw [portLoop, if_neg failed]
      rfl
    rw [isPortAvailable, overflows]

/-- A start below 1 has 0 in its range, and port 0 is always accepted. -/
theorem zero_tried (low : port.toInt ≤ 0) :
    (0 : Int) ∈ Accepted net ∩ range 7110 port.toInt := by
  refine ⟨net.zero, low, ?_⟩
  omega

/-- A start below 1 is always answered, by a number that is no port. -/
theorem start_below_one (net : Loopback) (sock : Nat) (opened : List Nat)
    (low : port.toInt ≤ 0) :
    ∃ r, isPortAvailable net (some sock) port opened = some (r, opened) ∧ r.toInt ≤ 0 := by
  have outcome := isPortAvailable_outcome net sock port opened
  have tried : (0 : Int) ∈ Accepted net ∩ range 7110 port.toInt := zero_tried low
  generalize isPortAvailable net (some sock) port opened = result at outcome ⊢
  cases outcome with
  | found r least => exact ⟨r, rfl, least.2 tried⟩
  | exhausted nothing =>
    rw [nothing] at tried
    cases tried
  | overflow nothing top =>
    rw [nothing] at tried
    cases tried

/-- From the limit on nothing but the start is tried, also where it is no port. -/
theorem start_behind_limit {sock : Nat} {opened : List Nat} (high : 7110 ≤ port.toInt)
    (ended : isPortAvailable net (some sock) port opened = some (r, opened)) : r = port := by
  have outcome := isPortAvailable_outcome net sock port opened
  rw [ended] at outcome
  cases outcome with
  | found _ least =>
    have tried : r.toInt ∈ range 7110 port.toInt := least.1.2
    rw [range_of_above Int.lt_iff_add_one_le (Int.lt_add_one_iff.mpr high)] at tried
    exact Int32.toInt_inj.mp tried

/-! ## Ports -/

/-- A number is a port that `bind` accepts. -/
def Bindable (net : Loopback) (i : Int) : Prop :=
  ∃ port : UInt16, net.accepts port = true ∧ (port.toNat : Int) = i

theorem ofInt_toNat (port : UInt16) : UInt16.ofInt port.toNat = port := by
  have small := port.toNat_lt
  have same : (port.toNat : Int) % 2 ^ 16 = port.toNat := by omega
  rw [UInt16.ofInt, same, Int.toNat_natCast, UInt16.ofNat_toNat]

theorem toNat_ofInt {i : Int} (low : 0 ≤ i) (high : i ≤ 65535) :
    ((UInt16.ofInt i).toNat : Int) = i := by
  have same : i % 2 ^ 16 = i := by omega
  have small : i.toNat < UInt16.size := by
    rw [UInt16.size]
    omega
  rw [UInt16.ofInt, same, UInt16.toNat_ofNat_of_lt' small, Int.toNat_of_nonneg low]

/-- From 0 to 65535 nothing is cut. -/
theorem bindable_iff {i : Int} :
    Bindable net i ↔ 0 ≤ i ∧ i ≤ 65535 ∧ i ∈ Accepted net := by
  constructor
  · rintro ⟨port, accepts, rfl⟩
    have small := port.toNat_lt
    refine ⟨by omega, by omega, ?_⟩
    rw [Accepted, Set.mem_ofPred_eq, ofInt_toNat]
    exact accepts
  · rintro ⟨low, high, accepts⟩
    exact ⟨UInt16.ofInt i, accepts, toNat_ofInt low high⟩

/-- What discovery should return. -/
structure RealPort (net : Loopback) (port ret : Int32) : Prop where
  failure : ret.toInt = -1 ↔
    ∀ r, port.toInt ≤ r → r ≤ max port.toInt 7110 → ¬ Bindable net r
  success : ret.toInt ≠ -1 →
    IsLeast {r | port.toInt ≤ r ∧ Bindable net r} ret.toInt ∧ 1 ≤ ret.toInt ∧ ret.toInt ≤ 65535

/-- It ends, with its socket closed, and returns that. -/
def Discovers (net : Loopback) (port : Int32) (opened : List Nat)
    (result : Option (Int32 × List Nat)) : Prop :=
  ∃ ret, result = some (ret, opened) ∧ RealPort net port ret

/-- There is a port to find: from 1 on, and not behind the limit. -/
def Findable (net : Loopback) (port : Int32) : Prop :=
  1 ≤ port.toInt ∧ ∃ r, port.toInt ≤ r ∧ r ≤ max port.toInt 7110 ∧ Bindable net r

/-- Where nothing is accepted there is no port to find. -/
theorem not_findable (nothing : Accepted net ∩ range 7110 port.toInt = ∅) :
    ¬ Findable net port := by
  rintro ⟨_, q, low, high, bindable⟩
  have member : q ∈ Accepted net ∩ range 7110 port.toInt :=
    ⟨(bindable_iff.mp bindable).2.2, low, high⟩
  rw [nothing] at member
  exact member

/-- What is found is right when there is a port to find. -/
theorem realPort_of_findable (least : IsLeast (Accepted net ∩ range 7110 port.toInt) r.toInt)
    (findable : Findable net port) : RealPort net port r := by
  obtain ⟨positive, q, low, high, bindable⟩ := findable
  obtain ⟨_, small, accepted⟩ := bindable_iff.mp bindable
  have first : r.toInt ≤ q := least.2 ⟨accepted, low, high⟩
  have start : port.toInt ≤ r.toInt := least.1.2.1
  have limit : r.toInt ≤ max port.toInt 7110 := least.1.2.2
  have real : Bindable net r.toInt :=
    bindable_iff.mpr ⟨by omega, by omega, least.1.1⟩
  constructor
  · refine iff_of_false (by omega) fun none => ?_
    exact none q low high bindable
  · refine fun _ => ⟨⟨⟨start, real⟩, ?_⟩, by omega, by omega⟩
    rintro other ⟨above, otherBindable⟩
    rcases le_total other (max port.toInt 7110) with within | beyond
    · exact least.2 ⟨(bindable_iff.mp otherBindable).2.2, above, within⟩
    · exact limit.trans beyond

/-- And only then. -/
theorem findable_of_realPort (least : IsLeast (Accepted net ∩ range 7110 port.toInt) r.toInt)
    (right : RealPort net port r) : Findable net port := by
  have start : port.toInt ≤ r.toInt := least.1.2.1
  have limit : r.toInt ≤ max port.toInt 7110 := least.1.2.2
  by_cases failed : r.toInt = -1
  · have zero : Bindable net 0 := ⟨0, net.zero, rfl⟩
    have none := right.failure.mp failed
    exact absurd zero (none 0 (by omega) (by omega))
  · obtain ⟨⟨⟨_, bindable⟩, _⟩, positive, _⟩ := right.success failed
    refine ⟨?_, r.toInt, start, limit, bindable⟩
    by_contra low
    have ended : r.toInt ≤ 0 := least.2 (zero_tried (by omega))
    omega

/-- For every start and every set of ports that `bind` accepts: discovery ends without
overflow, closes its socket and returns -1 for want of a port and else the least one, if and
only if the start is at least 1 and there is a port to find. -/
theorem real_port_iff (net : Loopback) (sock : Nat) (port : Int32) (opened : List Nat) :
    Discovers net port opened (isPortAvailable net (some sock) port opened) ↔
      Findable net port := by
  have outcome := isPortAvailable_outcome net sock port opened
  generalize isPortAvailable net (some sock) port opened = result at outcome ⊢
  cases outcome with
  | found r least =>
    constructor
    · rintro ⟨ret, ended, right⟩
      cases ended
      exact findable_of_realPort least right
    · intro findable
      exact ⟨r, rfl, realPort_of_findable least findable⟩
  | exhausted nothing =>
    refine iff_of_false ?_ (not_findable nothing)
    rintro ⟨ret, ended, _⟩
    have left := congrArg Prod.snd (Option.some.inj ended)
    exact absurd left (List.cons_ne_self sock opened)
  | overflow nothing top =>
    refine iff_of_false ?_ (not_findable nothing)
    rintro ⟨ret, ended, _⟩
    cases ended

/-- All ports are free but 7110, the last one before the limit. -/
def lastTaken : Loopback := ⟨fun port => port != 7110, rfl⟩

/-- The search from 7110 returns -1 and leaves its socket open. -/
theorem socket_left_open :
    isPortAvailable lastTaken (some 3) 7110 [] = some (-1, [3]) ∧
      ¬ Discovers lastTaken 7110 [] (isPortAvailable lastTaken (some 3) 7110 []) := by
  have ran : isPortAvailable lastTaken (some 3) 7110 [] = some (-1, [3]) := by
    rw [isPortAvailable, portLoop]
    rfl
  refine ⟨ran, ?_⟩
  rintro ⟨ret, ended, _⟩
  cases ran.symm.trans ended

end FifthD.Guarantees.PortDiscovery
