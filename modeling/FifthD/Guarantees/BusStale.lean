import FifthD.Guarantees.BusStep

/-!
# The uninitialised message of `_handle_msg`

What one call registers and passes on, for two contents of the local `data`. The loop
fills `data` from a frame of the right size only, and everything after the loop reads
it: the call depends on the stale contents exactly when no frame has that size.
-/
namespace FifthD.Guarantees.BusStale

open FifthD.Library FifthD.Source FifthD.Spec SlotPool BusStep

/-- The registry after a call, and what the call passes on to whom. -/
def observed (env : HandleEnv) (s : BusState) : Option (Registry × Option (Bytes × IpcMsg)) :=
  (handleMsg env s).map fun result =>
    (result.1.clients, result.2.forward.map fun f => (f.identity, f.msg))

/-- What a router's call shows is what the code's call shows. -/
theorem observed_of_handle {s : BusState} {r next : Router} {out : Routed}
    {allMsg : Fin msgBufferSize} {rest : List (Fin msgBufferSize)}
    (inv : BusInv s r (allMsg :: rest)) {env : HandleEnv}
    (routed : r.handle env = some (next, out)) :
    observed env s = some (next.registry, out.forward) := by
  obtain ⟨after, trace, code, effect⟩ := handleMsg_spec inv routed
  unfold observed
  rw [code, Option.map_some, effect.inv.clients, effect.forward]

/-- A call that receives a message, on what it decodes. -/
theorem observed_received {s : BusState} {registry : Registry} {m : RouterMsg}
    {later : List RouterMsg} {allMsg : Fin msgBufferSize} {rest : List (Fin msgBufferSize)}
    (inv : BusInv s ⟨registry, m :: later⟩ (allMsg :: rest)) {env : HandleEnv}
    (succeeds : env.identityRecv = true) :
    let data := m.decode env.stale
    let registered := registerClient registry data.srcId m.routingId
    observed env s =
      some (registered, (registered data.distId).map fun route => (route, data)) :=
  observed_of_handle inv (Router.handle_cons registry m later succeeds)

/-- A call whose receive fails registers and passes on nothing. -/
theorem observed_failed {s : BusState} {r : Router} {allMsg : Fin msgBufferSize}
    {rest : List (Fin msgBufferSize)} (inv : BusInv s r (allMsg :: rest)) {env : HandleEnv}
    (fails : env.identityRecv = false) : observed env s = some (r.registry, none) := by
  apply @observed_of_handle s r r ⟨none, none⟩ allMsg rest inv env
  unfold Router.handle
  rw [if_pos fails]

/-! ## Which messages carry a body -/

/-- Some frame has exactly the size of a message. -/
def CarriesBody (m : RouterMsg) : Prop := ∃ frame ∈ m.frames, frame.length = sizeofIpcMsg

theorem lastBody_eq_none_iff (frames : List Bytes) :
    lastBody frames = none ↔ ∀ frame ∈ frames, frame.length ≠ sizeofIpcMsg := by
  unfold lastBody
  rw [List.findSome?_eq_none_iff]
  constructor
  · intro none_fits frame member
    have absent := none_fits frame (List.mem_reverse.mpr member)
    unfold asBody at absent
    split at absent
    · cases absent
    · next wrong => exact wrong
  · intro wrong frame member
    unfold asBody
    rw [dif_neg (wrong frame (List.mem_reverse.mp member))]

/-- Without a body the stale contents are decoded. -/
theorem decode_stale {m : RouterMsg} (bare : ¬ CarriesBody m) (stale : IpcMsg) :
    m.decode stale = stale := by
  have absent : lastBody m.frames = none := by
    rw [lastBody_eq_none_iff]
    intro frame member right
    exact bare ⟨frame, member, right⟩
  unfold RouterMsg.decode
  rw [absent, Option.getD_none]

/-- With a body the stale contents do not matter. -/
theorem decode_body {m : RouterMsg} (carries : CarriesBody m) (stale stale' : IpcMsg) :
    m.decode stale = m.decode stale' := by
  unfold RouterMsg.decode
  cases body : lastBody m.frames with
  | none =>
    obtain ⟨frame, member, right⟩ := carries
    exact absurd right ((lastBody_eq_none_iff _).mp body frame member)
  | some data => rfl

/-! ## Two stale contents -/

/-- A message to client 0, with one byte 256 times as data. -/
def staleMsg (src data : UInt8) : IpcMsg where
  bytes := src :: (List.replicate 45 0 ++ List.replicate DATA_LENGTH_BYTES data)
  length_eq := by
    rw [List.length_cons, List.length_append, List.length_replicate, List.length_replicate]
    rfl

theorem staleMsg_distId (src data : UInt8) : (staleMsg src data).distId = 0 := rfl

theorem staleMsg_ne : staleMsg 0 0 ≠ staleMsg 0 1 := by decide +kernel

/-- A message without a body is handled differently for some two stale contents: client 0
is registered or not, or a stale message is passed on to it. -/
theorem stale_matters {s : BusState} {registry : Registry} {m : RouterMsg}
    {later : List RouterMsg} {allMsg : Fin msgBufferSize} {rest : List (Fin msgBufferSize)}
    (inv : BusInv s ⟨registry, m :: later⟩ (allMsg :: rest)) {env : HandleEnv}
    (succeeds : env.identityRecv = true) (bare : ¬ CarriesBody m) :
    ∃ stale stale', observed { env with stale } s ≠ observed { env with stale := stale' } s := by
  have observes : ∀ stale, observed { env with stale } s =
      some (registerClient registry stale.srcId m.routingId,
        (registerClient registry stale.srcId m.routingId stale.distId).map
          fun route => (route, stale)) := by
    intro stale
    have received := @observed_received s registry m later allMsg rest inv { env with stale }
      succeeds
    rw [decode_stale bare] at received
    exact received
  have zero : ∀ data, (staleMsg 0 data).srcId = 0 := fun _ => rfl
  cases client : registry 0 with
  | none =>
    refine ⟨staleMsg 0 0, staleMsg 1 0, ?_⟩
    rw [observes, observes]
    intro same
    have registries := congrFun (congrArg Prod.fst (Option.some.inj same)) 0
    have registered : registerClient registry (staleMsg 0 0).srcId m.routingId 0 =
        some m.routingId := registerClient_unknown client m.routingId
    have kept : registerClient registry (staleMsg 1 0).srcId m.routingId 0 = none := by
      rw [registerClient_other registry (by decide) m.routingId, client]
    cases registered.symm.trans (registries.trans kept)
  | some route =>
    refine ⟨staleMsg 0 0, staleMsg 0 1, ?_⟩
    rw [observes, observes, zero, zero, registerClient_known client, staleMsg_distId,
      staleMsg_distId, client]
    intro same
    have sent := congrArg Prod.snd (Option.some.inj same)
    exact staleMsg_ne (congrArg Prod.snd (Option.some.inj sent))

/-- For every registry, every message waiting first and every outcome of the ZeroMQ
calls: a call registers and passes on the same for any two contents of the uninitialised
message, if and only if its receive fails or some frame has exactly the size of a
message. -/
theorem handling_ignores_stale_iff {s : BusState} {registry : Registry} {m : RouterMsg}
    {later : List RouterMsg} {allMsg : Fin msgBufferSize} {rest : List (Fin msgBufferSize)}
    (inv : BusInv s ⟨registry, m :: later⟩ (allMsg :: rest)) (env : HandleEnv) :
    (∀ stale stale',
      observed { env with stale } s = observed { env with stale := stale' } s) ↔
      env.identityRecv = false ∨ CarriesBody m := by
  constructor
  · intro ignores
    cases succeeds : env.identityRecv with
    | false => exact .inl rfl
    | true =>
      right
      by_contra bare
      obtain ⟨stale, stale', differ⟩ := stale_matters inv succeeds bare
      exact differ (ignores stale stale')
  · intro either stale stale'
    by_cases succeeds : env.identityRecv = true
    · have carries : CarriesBody m := either.resolve_left (by simp [succeeds])
      rw [@observed_received s registry m later allMsg rest inv { env with stale } succeeds,
        @observed_received s registry m later allMsg rest inv { env with stale := stale' }
          succeeds,
        decode_body carries stale stale']
    · have fails : env.identityRecv = false := by simpa using succeeds
      rw [@observed_failed s _ allMsg rest inv { env with stale } fails,
        @observed_failed s _ allMsg rest inv { env with stale := stale' } fails]

/-- The bus with one message waiting. -/
def waitingBus (m : RouterMsg) : BusState :=
  { BusState.fresh ⟨fun _ => false⟩ with sock := { Socket.fresh with inbox := [m.toMultipart] } }

/-- A message with one empty frame. -/
def bareMsg : RouterMsg := ⟨ascii "peerxxx", [[]], List.cons_ne_nil _ _⟩

/-- The first message of a bus, when it is bare, depends on the stale contents. -/
theorem bare_message_first :
    ¬ ∀ stale stale',
      observed { stale, identityRecv := true, loopRecv := [], sends := SendEnv.ok }
          (waitingBus bareMsg) =
        observed { stale := stale', identityRecv := true, loopRecv := [], sends := SendEnv.ok }
          (waitingBus bareMsg) := by
  intro ignores
  have fresh := fresh_inv ⟨fun _ => false⟩
  have either := (@handling_ignores_stale_iff (waitingBus bareMsg) (fun _ => none) bareMsg []
    0 (List.finRange msgBufferSize).tail ⟨fresh.clients, rfl, rfl, fresh.pool⟩
    { stale := staleMsg 0 0, identityRecv := true, loopRecv := [], sends := SendEnv.ok }).mp ignores
  rcases either with fails | carries
  · cases fails
  · obtain ⟨frame, member, right⟩ := carries
    obtain rfl : frame = [] := List.mem_singleton.mp member
    cases right

/-- The manager registers, then the peer sends an empty frame. -/
def bareCalls (stale : IpcMsg) : List BusCall :=
  [⟨[zeroFromManager], { stale, identityRecv := true, loopRecv := [], sends := SendEnv.ok }⟩,
    ⟨[bareMsg], { stale, identityRecv := true, loopRecv := [], sends := SendEnv.ok }⟩]

/-- What stands in the uninitialised message is passed on to the manager: two runs of
the same messages send it different bytes. -/
theorem stale_message_passed_on :
    (Machine.run busCall (BusState.fresh ⟨fun _ => false⟩) (bareCalls (staleMsg 0 1))).map
        (fun result => result.2.map fun trace => trace.forward.map fun f => (f.identity, f.msg)) =
      some [some (ascii "manager", staleMsg 0 0), some (ascii "manager", staleMsg 0 1)] ∧
    (Machine.run busCall (BusState.fresh ⟨fun _ => false⟩) (bareCalls (staleMsg 0 2))).map
        (fun result => result.2.map fun trace => trace.forward.map fun f => (f.identity, f.msg)) =
      some [some (ascii "manager", staleMsg 0 0), some (ascii "manager", staleMsg 0 2)] := by
  decide +kernel

end FifthD.Guarantees.BusStale
