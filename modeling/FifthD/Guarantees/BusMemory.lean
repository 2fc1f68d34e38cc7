import FifthD.Guarantees.BusBounds
import FifthD.Guarantees.BusLifetime

/-!
# The first call that leaves its memory

Whether a call of `_handle_msg` stays in its memory is decided by the message that it takes
and by the calls of `_send_message` before it: the category must have a NUL, a destination
that nobody registered must be a client, and what is passed on must fit the frames of the
slot that the earlier calls have left. What comes after the first call that does not is
nothing the model speaks of.
-/
namespace FifthD.Guarantees.BusMemory

open FifthD.Library FifthD.Source FifthD.Spec BusBounds BusLifetime

/-- What a call decodes, looks up and passes on is in bounds, after earlier forwards. -/
structure Fits (earlier : List Forward) (trace : HandleTrace) : Prop where
  category : ∀ route m, trace.decoded = some (route, m) → 0 ∈ m.category
  destination : ∀ route m, trace.decoded = some (route, m) → trace.forward = none →
    IsClient m.distId
  forward : ∀ f, trace.forward = some f → f.slot ≠ none →
    f.identity.length ≤ identityRoom earlier ∧ (unused earlier = true ∨ f.frames.length < 2)

theorem inMemory_iff (trace : HandleTrace) :
    trace.inMemory = true ↔
      (∀ f, trace.forward = some f → ¬ Overruns f) ∧ TraceInBounds trace := by
  have copies : ((trace.forward.all fun f => f.copies.all fun copy => decide copy.InBounds) = true ↔
      ∀ f, trace.forward = some f → ¬ Overruns f) := by
    simp [Option.all_eq_true, Overruns]
  have lookup : ((trace.neverRegistered.all fun (id : BitVec 32) =>
      decide (0 ≤ id.toInt ∧ id.toInt < CLIENTS_TOTAL)) = true ↔
      ∀ id, trace.neverRegistered = some id → IsClient id) := by
    simp only [Option.all_eq_true, decide_eq_true_eq]
    rfl
  unfold HandleTrace.inMemory
  rw [Bool.and_eq_true, Bool.and_eq_true, copies, lookup, and_assoc]
  simp only [Option.all_eq_true, Prod.forall, decide_eq_true_eq]
  exact and_congr_right fun _ => ⟨fun both => ⟨both.1, both.2⟩, fun both => ⟨both.1, both.2⟩⟩

/-- A call warns about the destination of a message that it does not pass on. -/
def Warns (trace : HandleTrace) : Prop :=
  trace.neverRegistered =
    match trace.decoded, trace.forward with
    | some (_, m), none => some m.distId
    | _, _ => none

/-- What a call that takes a message reads of it. -/
theorem Warns.inBounds_iff {trace : HandleTrace} (warns : Warns trace) {route : Bytes} {m : IpcMsg}
    (taken : trace.decoded = some (route, m)) :
    TraceInBounds trace ↔
      0 ∈ m.category ∧ (trace.forward = none → IsClient m.distId) := by
  rw [Warns, taken] at warns
  rw [← categoryScan_le_iff]
  constructor
  · rintro ⟨lookup, scan⟩
    refine ⟨scan route m taken, fun nobody => lookup m.distId ?_⟩
    rw [warns, nobody]
  · rintro ⟨scan, lookup⟩
    constructor
    · intro id warned
      rw [warns] at warned
      split at warned
      · next _ _ same nobody =>
        cases same
        cases warned
        exact lookup nobody
      · cases warned
    · intro route' m' same
      cases taken.symm.trans same
      exact scan

/-- For a call that warns as it should and a forward with its fate, this is what fits. -/
theorem inMemory_iff_fits {earlier : List Forward} {trace : HandleTrace} (warns : Warns trace)
    (fate : ∀ f, trace.forward = some f → Fate earlier f) :
    trace.inMemory = true ↔ Fits earlier trace := by
  have forward : (∀ f, trace.forward = some f → ¬ Overruns f) ↔
      ∀ f, trace.forward = some f → f.slot ≠ none →
        f.identity.length ≤ identityRoom earlier ∧
          (unused earlier = true ∨ f.frames.length < 2) := by
    refine forall₂_congr fun f forwarded => ?_
    rw [(fate f forwarded).overruns, not_and, not_or, not_lt]
    cases unused earlier <;> simp
  have scan : (∀ route m, trace.decoded = some (route, m) →
        m.categoryScan ≤ CATEGORY_LENGTH_BYTES) ↔
      ∀ route m, trace.decoded = some (route, m) → 0 ∈ m.category :=
    forall₃_congr fun route m _ => categoryScan_le_iff m
  have lookup : (∀ id, trace.neverRegistered = some id → IsClient id) ↔
      ∀ route m, trace.decoded = some (route, m) → trace.forward = none → IsClient m.distId := by
    rw [warns]
    cases trace.decoded with
    | none => simp
    | some taken => cases trace.forward <;> simp [Prod.ext_iff]
  rw [inMemory_iff, forward]
  constructor
  · rintro ⟨fits, bounds⟩
    exact ⟨scan.mp bounds.scan, lookup.mp bounds.lookup, fits⟩
  · rintro ⟨category, destination, fits⟩
    exact ⟨fits, lookup.mpr destination, scan.mpr category⟩

/-! ## Whole runs -/

theorem forwards_append (first second : List HandleTrace) :
    forwards (first ++ second) = forwards first ++ forwards second :=
  List.filterMap_append

/-- The forward of a call is a forward of the run, after those of the calls before it. -/
theorem forwards_split {earlier later : List HandleTrace} {trace : HandleTrace} {f : Forward}
    (forwarded : trace.forward = some f) :
    forwards (earlier ++ trace :: later) = forwards earlier ++ f :: forwards later := by
  rw [forwards_append, forwards, forwards, List.filterMap_cons_some forwarded]
  rfl

theorem run_warns (s : BusState) {calls : List BusCall} {after : BusState}
    {traces : List HandleTrace} (ran : Machine.run busCall s calls = some (after, traces)) :
    ∀ trace ∈ traces, Warns trace := by
  have kept : ∀ {s : BusState} {past : List HandleTrace} {c : BusCall} {next : BusState}
      {trace : HandleTrace}, (∀ earlier ∈ past, Warns earlier) →
      busCall s c = some (next, trace) → ∀ t ∈ past ++ [trace], Warns t := by
    intro s past c next trace before returned t member
    rcases List.mem_append.mp member with early | last
    · exact before t early
    · rw [List.mem_singleton.mp last]
      exact neverRegistered_eq returned
  have nothing : ∀ trace ∈ ([] : List HandleTrace), Warns trace := by simp
  exact @Machine.run_keeps _ _ _ busCall (fun _ past => ∀ trace ∈ past, Warns trace) kept _ _ []
    _ _ nothing ran

/-- In every run of the bus a call stays in its memory exactly when it fits what the calls
before it have left. -/
theorem run_inMemory (error : ErrorHandler) {calls : List BusCall} {s : BusState}
    {traces : List HandleTrace}
    (ran : Machine.run busCall (BusState.fresh error) calls = some (s, traces)) :
    Throughout (fun earlier trace => trace.inMemory = true ↔ Fits (forwards earlier) trace)
      traces := by
  obtain ⟨r, allMsg, stack, worn⟩ := run_worn error ran
  intro earlier trace later split
  apply inMemory_iff_fits
  · apply run_warns (BusState.fresh error) ran
    rw [split]
    exact List.mem_append_right earlier List.mem_cons_self
  · intro f forwarded
    have history : forwards traces = forwards earlier ++ f :: forwards later := by
      rw [split]
      exact forwards_split forwarded
    exact worn.fates (forwards earlier) f (forwards later) history

end FifthD.Guarantees.BusMemory
