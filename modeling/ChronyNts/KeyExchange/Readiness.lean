import ChronyNts.KeyExchange.Tracking

/-!
# When the socket waits for output

The scheduler wakes `read_write_socket` for output only when the handler's
`SCH_FILE_OUTPUT` flag is set.  Three places set it: `NKE_OpenClientConnection` and
`accept_server_connection` when they register the handler (`INPUT | OUTPUT` for a client,
`INPUT` for a server), `update_state` from its `enable_output` when it moves on, and
`read_write_socket` from `gnutls_record_get_direction` after a would-block return of
`gnutls_handshake` or `gnutls_bye`.

So the flag is a function of the state (`expectedOutput`): set in `KE_SEND` and in
`KE_WAIT_CONNECT`, clear in `KE_RECEIVE`, and in `KE_HANDSHAKE` and `KE_SHUTDOWN` the
direction of the last would-block return there, or before any such return whether the
instance speaks first (a client's handshake, and every shutdown, entered from
`KE_SEND` or `KE_RECEIVE`).  The ghost of the run is that last direction
(`lastDirection`); `output_armed_by_state` is the invariant along every run.
-/

namespace ChronyNts.KeyExchange

/-! ## The ghost and the invariant -/

/-- The direction `gnutls_record_get_direction` reports after a would-block return. -/
def TlsResult.direction? : TlsResult → Option Bool
  | .again direction => some direction
  | _ => none

/-- The direction of the event, when it is a would-block return of the TLS call that
`read_write_socket` makes in `state`. -/
def wouldBlockDirection (state : NtsKeState) : NkeEvent → Option Bool
  | .socket _ io =>
    match state with
    | .handshake => io.handshake.direction?
    | .shutdown => io.bye.direction?
    | _ => none
  | _ => none

/-- The ghost: the direction of the last would-block return in the current state,
forgotten when the state changes. -/
def lastDirection (inst : NkeInstance) (e : NkeEvent) (inst' : NkeInstance)
    (d : Option Bool) : Option Bool :=
  if inst'.state = inst.state then (wouldBlockDirection inst.state e).or d else none

/-- The output flag of an open instance in `state`, given the direction `d` of the last
would-block return there. -/
def expectedOutput (mode : NtsKeMode) (state : NtsKeState) (d : Option Bool) : Bool :=
  match state with
  | .waitConnect | .send => true
  | .receive | .closed => false
  | .handshake => d.getD (mode == .client)
  | .shutdown => d.getD true

/-- The flag of an open instance is the one its state and ghost give. -/
def OutputArmed (inst : NkeInstance) (d : Option Bool) : Prop :=
  inst.state ≠ .closed → inst.output = expectedOutput inst.mode inst.state d

/-! ## One event -/

/-- `update_state` keeps the flag while it stays, and sets the flag of the state it
enters. -/
theorem updateState_output (env : KeEnv) (io : Io) {inst : NkeInstance}
    (hs : inst.state ≠ .closed) :
    (updateState env io inst).state = .closed ∨
      (updateState env io inst).state = inst.state ∧ (updateState env io inst).mode = inst.mode ∧
        (updateState env io inst).output = inst.output ∨
      (updateState env io inst).state ≠ inst.state ∧ (updateState env io inst).mode = inst.mode ∧
        (updateState env io inst).output =
          expectedOutput inst.mode (updateState env io inst).state none := by
  obtain ⟨mode, state, registered, output, timeoutPending, message, addr⟩ := inst
  cases mode <;> cases state <;> simp only [updateState] <;> (try repeat' split) <;>
    simp [NkeInstance.advance, expectedOutput] at hs ⊢

section Socket

variable (env : KeEnv) (io : Io) (event : FileEvent) {inst : NkeInstance} {d : Option Bool}

/-- The three ways a call of the handler leaves an open instance: as it was, with the
direction of a would-block return, or through `update_state`. -/
theorem outputArmed_of_stay (harm : OutputArmed inst d) {x : NkeInstance}
    (hs : x.state = inst.state) (hm : x.mode = inst.mode) (ho : x.output = inst.output)
    (hd : wouldBlockDirection inst.state (.socket event io) = none) :
    OutputArmed x (lastDirection inst (.socket event io) x d) := by
  intro hx
  rw [lastDirection, if_pos hs, hd, Option.none_or, hs, hm, ho]
  exact harm (hs ▸ hx)

theorem outputArmed_of_wouldBlock {dir : Bool}
    (hs : inst.state = .handshake ∨ inst.state = .shutdown)
    (hd : wouldBlockDirection inst.state (.socket event io) = some dir) :
    OutputArmed { inst with output := dir }
      (lastDirection inst (.socket event io) { inst with output := dir } d) := by
  intro _
  simp only [lastDirection, if_pos, hd, Option.or_some]
  rcases hs with hs | hs <;> simp [expectedOutput, hs]

theorem outputArmed_of_updateState (harm : OutputArmed inst d) {mid : NkeInstance}
    (hs : mid.state = inst.state) (hm : mid.mode = inst.mode) (ho : mid.output = inst.output)
    (hd : wouldBlockDirection inst.state (.socket event io) = none) (hopen : inst.state ≠ .closed) :
    OutputArmed (updateState env io mid)
      (lastDirection inst (.socket event io) (updateState env io mid) d) := by
  rcases updateState_output env io (hs ▸ hopen : mid.state ≠ .closed) with
    hc | ⟨hs', hm', ho'⟩ | ⟨hs', hm', ho'⟩
  · exact fun h => absurd hc h
  · exact outputArmed_of_stay io event harm (hs'.trans hs) (hm'.trans hm) (ho'.trans ho) hd
  · intro _
    rw [lastDirection, if_neg (hs ▸ hs'), ho', hm', hm]

/-- One call of `read_write_socket` on an open instance keeps the flag right. -/
theorem outputArmed_readWriteSocket (hwf : inst.Wf) (hreg : inst.registered = true)
    (harm : OutputArmed inst d) :
    OutputArmed (readWriteSocket env io event inst)
      (lastDirection inst (.socket event io) (readWriteSocket env io event inst) d) := by
  have hopen := hwf.registered_iff.mp hreg
  have close : ∀ x, OutputArmed (closeConnection x) (lastDirection inst (.socket event io)
      (closeConnection x) d) := fun x h => absurd (closeConnection_state x) h
  unfold readWriteSocket
  split <;> rename_i hs
  · -- `KE_WAIT_CONNECT`
    split_ifs
    · exact outputArmed_of_stay io event harm rfl rfl rfl (by rw [hs]; rfl)
    · exact close inst
    · exact outputArmed_of_updateState env io event harm rfl rfl rfl (by rw [hs]; rfl) hopen
  · -- `KE_HANDSHAKE`
    split <;> rename_i hh
    · exact outputArmed_of_updateState env io event harm rfl rfl rfl
        (by rw [hs]; simp [wouldBlockDirection, hh, TlsResult.direction?]) hopen
    · exact outputArmed_of_wouldBlock io event (.inl hs)
        (by rw [hs]; simp [wouldBlockDirection, hh, TlsResult.direction?])
    · exact close inst
  · -- `KE_SEND`
    have hd : wouldBlockDirection inst.state (.socket event io) = none := by rw [hs]; rfl
    split
    · split
      · exact close inst
      · exact outputArmed_of_stay io event harm rfl rfl rfl hd
    · dsimp only
      split
      · exact outputArmed_of_stay io event harm rfl rfl rfl hd
      · exact outputArmed_of_updateState env io event harm rfl rfl rfl hd hopen
  · -- `KE_RECEIVE`
    have hd : wouldBlockDirection inst.state (.socket event io) = none := by rw [hs]; rfl
    obtain ⟨m, he | he | he⟩ := receiveLoop_shape inst io.recv io.pending <;> simp only [he]
    · exact outputArmed_of_updateState env io event harm rfl rfl rfl hd hopen
    · exact outputArmed_of_stay io event harm rfl rfl rfl hd
    · exact close _
  · -- `KE_SHUTDOWN`
    split <;> rename_i hb
    · exact outputArmed_of_updateState env io event harm rfl rfl rfl
        (by rw [hs]; simp [wouldBlockDirection, hb, TlsResult.direction?]) hopen
    · exact outputArmed_of_wouldBlock io event (.inr hs)
        (by rw [hs]; simp [wouldBlockDirection, hb, TlsResult.direction?])
    · exact close inst
  · exact absurd hs hopen

end Socket

/-- The invariant: the instance is well formed and its flag is the one its state and
ghost give. -/
def ReadinessInv (s : NkeInstance × Option Bool) : Prop :=
  s.1.Wf ∧ OutputArmed s.1 s.2

theorem readinessInv_nkeStep (env : KeEnv) {inst : NkeInstance} {d : Option Bool}
    (h : ReadinessInv (inst, d)) (e : NkeEvent) :
    ReadinessInv (nkeStep env inst e, lastDirection inst e (nkeStep env inst e) d) := by
  obtain ⟨hwf, harm⟩ := h
  refine ⟨(nkeStep_spec env hwf e).1, ?_⟩
  have stay : wouldBlockDirection inst.state e = none → OutputArmed inst (lastDirection inst e inst d) :=
    fun hd => by rw [lastDirection, if_pos rfl, hd, Option.none_or]; exact harm
  cases e with
  | openConnection addr ok =>
    simp only [nkeStep]
    split_ifs with hc
    · cases ok
      · exact stay rfl
      · intro _
        simp [nkeOpenClientConnection, lastDirection, hc, expectedOutput]
    · exact stay rfl
  | acceptConnection ok =>
    simp only [nkeStep]
    split_ifs with hc
    · cases ok
      · exact stay rfl
      · intro _
        simp [acceptServerConnection, lastDirection, hc, expectedOutput]
    · exact stay rfl
  | socket event io =>
    simp only [nkeStep]
    split_ifs with hreg
    · exact outputArmed_readWriteSocket env io event hwf hreg harm
    · exact fun hopen => absurd (hwf.registered_iff.mpr hopen) hreg
  | timeout =>
    simp only [nkeStep]
    split_ifs
    · exact fun h => absurd (by simp [sessionTimeout]) h
    · exact stay rfl

/-! ## Along every run -/

/-- The run of an instance from `NKE_CreateInstance` with the ghost of the last
would-block direction. -/
def readinessRun (env : KeEnv) (events : List NkeEvent) : NkeInstance × Option Bool :=
  ghostRun env id lastDirection (nkeCreateInstance, none) events

/-- For every run of an instance from `NKE_CreateInstance`, over any events and any
answers of the socket and the TLS library: while the instance is open, output
readiness is armed in `KE_SEND` and in `KE_WAIT_CONNECT` (where only a client can be),
disarmed in `KE_RECEIVE`, and in `KE_HANDSHAKE` and `KE_SHUTDOWN` it is the direction of
the last would-block return there, or before any such return, armed for a client's
handshake and for every shutdown and disarmed for a server's handshake. -/
theorem output_armed_by_state (env : KeEnv) (events : List NkeEvent) :
    let inst := (readinessRun env events).1
    let d := (readinessRun env events).2
    (inst.state = .send → inst.output = true) ∧
      (inst.state = .waitConnect → inst.mode = .client ∧ inst.output = true) ∧
      (inst.state = .receive → inst.output = false) ∧
      (inst.state = .handshake → inst.output = d.getD (inst.mode == .client)) ∧
      (inst.state = .shutdown → inst.output = d.getD true) := by
  intro inst d
  have hinv : ReadinessInv (inst, d) := ghostRun_induction env id lastDirection (P := ReadinessInv)
    (fun _ _ e h _ => readinessInv_nkeStep env h e) events (nkeCreateInstance, none)
    ⟨wf_nkeCreateInstance, fun h => absurd rfl h⟩ (eventsMeet_true env id _ events)
  obtain ⟨hwf, harm⟩ := hinv
  have hout : ∀ s, inst.state = s → s ≠ .closed →
      inst.output = expectedOutput inst.mode s d := fun s hs hopen => hs ▸ harm (hs ▸ hopen)
  refine ⟨fun hs => hout _ hs nofun, fun hs => ⟨?_, hout _ hs nofun⟩, fun hs => hout _ hs nofun,
    fun hs => hout _ hs nofun, fun hs => hout _ hs nofun⟩
  cases hm : inst.mode
  · exact absurd (hwf.unknown_closed hm) (hs ▸ nofun)
  · exact absurd hs (hwf.server_connected hm)
  · rfl

end ChronyNts.KeyExchange
