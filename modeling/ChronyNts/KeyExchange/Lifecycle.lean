import ChronyNts.KeyExchange.Instance

/-!
# The instance follows the spec's state machine

The spec describes one chain of states per mode,

```text
  client:  WAIT_CONNECT → HANDSHAKE → SEND → RECEIVE → SHUTDOWN → CLOSED
  server:                 HANDSHAKE → RECEIVE → SEND → SHUTDOWN → CLOSED
```

entered from `CLOSED` by `NKE_OpenClientConnection` and `accept_server_connection`.
On every event an instance stays where it is, goes to `CLOSED`, or takes the next
step of its chain, and the last only when that step's guard holds (`SpecStep`).
Every run from `NKE_CreateInstance`, whatever the events and the answers of the
socket and the TLS library, is a run of this machine (`nke_run_refines_spec`).

## Strategy

`NkeInstance.Wf` is what makes the `assert`s of the C unreachable: a server never
waits for a connection, and the socket's handler is registered exactly while the
instance is open.  `updateState_cases` says once what `update_state` can do; the
socket handler, the timeout and the two ways to open an instance are each a short
case analysis on top of it (`nkeStep_spec`), and the run lemma is an induction.
-/

namespace ChronyNts.KeyExchange

/-! ## The spec's machine -/

/-- The next state of each mode's chain. -/
def specNext : NtsKeMode → NtsKeState → Option NtsKeState
  | .client, .waitConnect => some .handshake
  | .client, .handshake => some .send
  | .client, .send => some .receive
  | .client, .receive => some .shutdown
  | .client, .shutdown => some .closed
  | .server, .handshake => some .receive
  | .server, .receive => some .send
  | .server, .send => some .shutdown
  | .server, .shutdown => some .closed
  | _, _ => none

/-- The I/O of the state is complete, and `mid` is the instance `update_state` is called
on: the connection is made (`SO_ERROR` = 0 on an output event), the handshake or the
TLS shutdown succeeded, every byte of the buffer is sent, or the data received so far
is in the buffer. -/
def IoDone (io : Io) (event : FileEvent) (inst mid : NkeInstance) : Prop :=
  match inst.state with
  | .waitConnect => event = .output ∧ io.socketError = 0 ∧ mid = inst
  | .handshake => io.handshake = .ok ∧ mid = inst
  | .send => ∃ r, io.send = .sent r ∧ inst.message.length ≤ inst.message.sent + r ∧
      mid = { inst with message := { inst.message with sent := inst.message.sent + r } }
  | .receive => receiveLoop inst io.recv io.pending = (mid, true)
  | .shutdown => io.bye = .ok ∧ mid = inst
  | .closed => False

/-- The check of `update_state` before the forward step out of `inst.state`: the ALPN
and, for a client, the request built; `MSG_OK`, and for a server the response
`process_request` writes. -/
def UpdateCheck (env : KeEnv) (io : Io) (inst inst' : NkeInstance) : Prop :=
  match inst.mode, inst.state with
  | .client, .handshake => io.alpn = true ∧ (prepareRequest inst.message).1 = true
  | .server, .handshake => io.alpn = true
  | .client, .receive => (checkMessageFormat inst.message).1 = .ok
  | .server, .receive => (checkMessageFormat inst.message).1 = .ok ∧
      inst'.message = (processRequest env io.keys io.generateCookie
        (checkMessageFormat inst.message).2).2
  | _, _ => True

/-- The guard of the forward step out of `inst.state` on event `e`, with `inst'` the
instance after it. -/
def ForwardGuard (env : KeEnv) (inst : NkeInstance) : NkeEvent → NkeInstance → Prop
  | .socket event io, inst' => ∃ mid, IoDone io event inst mid ∧ UpdateCheck env io mid inst'
  | _, _ => False

/-- A step of the spec's machine from `inst` to `inst'` on event `e`. -/
inductive SpecStep (env : KeEnv) (inst : NkeInstance) (e : NkeEvent) (inst' : NkeInstance) :
    Prop
  | stay : inst'.mode = inst.mode → inst'.state = inst.state → SpecStep env inst e inst'
  | close : inst'.mode = inst.mode → inst'.state = .closed → SpecStep env inst e inst'
  | forward : inst'.mode = inst.mode → specNext inst.mode inst.state = some inst'.state →
      ForwardGuard env inst e inst' → SpecStep env inst e inst'
  | openClient : inst.state = .closed → (∃ addr, e = .openConnection addr true) →
      inst'.mode = .client → inst'.state = .waitConnect → SpecStep env inst e inst'
  | acceptServer : inst.state = .closed → e = .acceptConnection true →
      inst'.mode = .server → inst'.state = .handshake → SpecStep env inst e inst'

/-- Every step of the run from `inst` over `events` is a step of the spec's machine. -/
def SpecRun (env : KeEnv) : NkeInstance → List NkeEvent → Prop
  | _, [] => True
  | inst, e :: events => SpecStep env inst e (nkeStep env inst e) ∧
      SpecRun env (nkeStep env inst e) events

/-! ## The invariant -/

/-- What every reachable instance satisfies. -/
structure NkeInstance.Wf (inst : NkeInstance) : Prop where
  unknown_closed : inst.mode = .unknown → inst.state = .closed
  server_connected : inst.mode = .server → inst.state ≠ .waitConnect
  registered_iff : inst.registered = true ↔ inst.state ≠ .closed

theorem wf_nkeCreateInstance : nkeCreateInstance.Wf :=
  ⟨fun _ => rfl, nofun, by decide⟩

section Frame

variable (inst : NkeInstance)

@[simp] theorem closeConnection_mode : (closeConnection inst).mode = inst.mode := by
  unfold closeConnection; split <;> rfl

@[simp] theorem closeConnection_state : (closeConnection inst).state = .closed := by
  unfold closeConnection; split <;> simp_all

@[simp] theorem closeConnection_message : (closeConnection inst).message = inst.message := by
  unfold closeConnection; split <;> rfl

@[simp] theorem closeConnection_output : (closeConnection inst).output = inst.output := by
  unfold closeConnection; split <;> rfl

@[simp] theorem advance_mode (next : NtsKeState) (b : Bool) :
    (inst.advance next b).mode = inst.mode := rfl

@[simp] theorem advance_state (next : NtsKeState) (b : Bool) :
    (inst.advance next b).state = next := rfl

@[simp] theorem advance_message (next : NtsKeState) (b : Bool) :
    (inst.advance next b).message = inst.message := rfl

theorem NkeInstance.Wf.closeConnection {inst : NkeInstance} (h : inst.Wf) :
    (ChronyNts.KeyExchange.closeConnection inst).Wf := by
  unfold ChronyNts.KeyExchange.closeConnection
  split
  · exact h
  · exact ⟨fun _ => rfl, fun _ => nofun, by simp⟩

/-- The invariant reads only the mode, the state and the registration. -/
theorem NkeInstance.Wf.of_eq {inst x : NkeInstance} (h : inst.Wf) (hm : x.mode = inst.mode)
    (hs : x.state = inst.state) (hr : x.registered = inst.registered) : x.Wf :=
  ⟨fun hu => hs ▸ h.unknown_closed (hm ▸ hu), fun hv => hs ▸ h.server_connected (hm ▸ hv),
    hr ▸ hs ▸ h.registered_iff⟩

end Frame

/-! ## One event -/

/-- What `update_state` does to an open instance: keep its mode, and stay (waiting for
more data), close, or take the chain's next step after its check. -/
theorem updateState_cases (env : KeEnv) (io : Io) {inst : NkeInstance} (h : inst.Wf)
    (hreg : inst.registered = true) :
    (updateState env io inst).Wf ∧ (updateState env io inst).mode = inst.mode ∧
      ((updateState env io inst).state = inst.state ∨ (updateState env io inst).state = .closed ∨
        specNext inst.mode inst.state = some (updateState env io inst).state ∧
          UpdateCheck env io inst (updateState env io inst)) := by
  obtain ⟨mode, state, registered, output, timeoutPending, message, addr⟩ := inst
  have hst : state ≠ .closed := h.registered_iff.mp hreg
  simp only at hst hreg
  subst hreg
  cases mode <;> cases state
  all_goals first
    | exact absurd rfl hst
    | exact absurd (h.unknown_closed rfl) (by simp)
    | exact absurd rfl (h.server_connected rfl)
    | skip
  all_goals
    simp only [updateState]
    repeat' split
  all_goals
    refine ⟨⟨?_, ?_, ?_⟩, ?_, ?_⟩ <;>
      simp_all [closeConnection, NkeInstance.advance, specNext, UpdateCheck]

/-- The receive loop changes only the buffer: it returns the instance with the bytes it
stored, as it is when the loop ends by itself or on an error that is not fatal, or closed
on a full buffer or a fatal error. -/
theorem receiveLoop_shape (inst : NkeInstance) (r : RecvResult) (pending : List RecvResult) :
    ∃ m : NkeMessage, receiveLoop inst r pending = ({ inst with message := m }, true) ∨
      receiveLoop inst r pending = ({ inst with message := m }, false) ∨
      receiveLoop inst r pending = (closeConnection { inst with message := m }, false) := by
  induction pending generalizing inst r with
  | nil =>
    unfold receiveLoop
    split
    · exact ⟨inst.message, .inr (.inr rfl)⟩
    · split
      · split
        · exact ⟨inst.message, .inr (.inr rfl)⟩
        · exact ⟨inst.message, .inr (.inl rfl)⟩
      · exact ⟨_, .inl rfl⟩
  | cons r' pending ih =>
    unfold receiveLoop
    split
    · exact ⟨inst.message, .inr (.inr rfl)⟩
    · split
      · split
        · exact ⟨inst.message, .inr (.inr rfl)⟩
        · exact ⟨inst.message, .inr (.inl rfl)⟩
      · exact ih _ r'

/-- The receive loop keeps the mode; it ends by itself in the same state, or returns
with the state as it was or closed. -/
theorem receiveLoop_cases {inst : NkeInstance} (h : inst.Wf) (hreg : inst.registered = true)
    (r : RecvResult) (pending : List RecvResult) :
    (receiveLoop inst r pending).1.Wf ∧ (receiveLoop inst r pending).1.mode = inst.mode ∧
      ((receiveLoop inst r pending).1.state = inst.state ∧
          (receiveLoop inst r pending).1.registered = true ∨
        (receiveLoop inst r pending).2 = false ∧ (receiveLoop inst r pending).1.state = .closed) := by
  obtain ⟨m, he | he | he⟩ := receiveLoop_shape inst r pending <;> rw [he]
  · exact ⟨h.of_eq rfl rfl rfl, rfl, .inl ⟨rfl, hreg⟩⟩
  · exact ⟨h.of_eq rfl rfl rfl, rfl, .inl ⟨rfl, hreg⟩⟩
  · exact ⟨(h.of_eq (x := { inst with message := m }) rfl rfl rfl).closeConnection, by simp,
      .inr ⟨rfl, by simp⟩⟩

/-- One call of the socket handler on an open instance is a step of the spec. -/
theorem readWriteSocket_spec (env : KeEnv) (io : Io) (event : FileEvent) {inst : NkeInstance}
    (h : inst.Wf) (hreg : inst.registered = true) :
    (readWriteSocket env io event inst).Wf ∧
      SpecStep env inst (.socket event io) (readWriteSocket env io event inst) := by
  have hst := h.registered_iff.mp hreg
  have stay : ∀ x : NkeInstance, x.mode = inst.mode → x.state = inst.state →
      x.registered = inst.registered → x.Wf ∧ SpecStep env inst (.socket event io) x :=
    fun x hm hs hr => ⟨h.of_eq hm hs hr, .stay hm hs⟩
  have close : (closeConnection inst).Wf ∧
      SpecStep env inst (.socket event io) (closeConnection inst) :=
    ⟨h.closeConnection, .close (by simp) (by simp)⟩
  have update : ∀ mid, IoDone io event inst mid → mid.mode = inst.mode →
      mid.state = inst.state → mid.registered = inst.registered →
      (updateState env io mid).Wf ∧ SpecStep env inst (.socket event io) (updateState env io mid) := by
    intro mid hdone hm hs hr
    obtain ⟨hwf, hmode, hmove⟩ := updateState_cases env io (h.of_eq hm hs hr) (hr.trans hreg)
    refine ⟨hwf, ?_⟩
    rcases hmove with hsame | hclosed | ⟨hnext, hcheck⟩
    · exact .stay (hmode.trans hm) (hsame.trans hs)
    · exact .close (hmode.trans hm) hclosed
    · exact .forward (hmode.trans hm) (hm ▸ hs ▸ hnext) ⟨mid, hdone, hcheck⟩
  unfold readWriteSocket
  split <;> rename_i hs
  · -- `KE_WAIT_CONNECT`
    split_ifs with hev herr
    · exact stay inst rfl rfl rfl
    · exact close
    · exact update inst (by unfold IoDone; rw [hs]; exact ⟨not_not.mp hev, not_not.mp herr, rfl⟩)
        rfl rfl rfl
  · -- `KE_HANDSHAKE`
    split <;> rename_i hhs
    · exact update inst (by unfold IoDone; rw [hs]; exact ⟨hhs, rfl⟩) rfl rfl rfl
    · exact stay _ rfl rfl rfl
    · exact close
  · -- `KE_SEND`
    split <;> rename_i hsend
    · split
      · exact close
      · exact stay inst rfl rfl rfl
    · dsimp only
      split_ifs with hlt
      · exact stay _ rfl rfl rfl
      · exact update _ (by
          unfold IoDone; rw [hs]
          exact ⟨_, hsend, by simp only [NkeMessage.length] at hlt ⊢; omega, rfl⟩) rfl rfl rfl
  · -- `KE_RECEIVE`
    obtain ⟨hwf, hmode, hcase⟩ := receiveLoop_cases h hreg io.recv io.pending
    split <;> rename_i m hloop <;> rw [hloop] at hwf hmode hcase
    · obtain ⟨hsame, hr⟩ := hcase.resolve_right (by simp)
      exact update m (by unfold IoDone; rw [hs]; exact hloop) hmode hsame (hr.trans hreg.symm)
    · rcases hcase with ⟨hsame, -⟩ | ⟨-, hclosed⟩
      · exact ⟨hwf, .stay hmode hsame⟩
      · exact ⟨hwf, .close hmode hclosed⟩
  · -- `KE_SHUTDOWN`
    split <;> rename_i hbye
    · exact update inst (by unfold IoDone; rw [hs]; exact ⟨hbye, rfl⟩) rfl rfl rfl
    · exact stay _ rfl rfl rfl
    · exact close
  · exact absurd hs hst

/-- Every event on a reachable instance is a step of the spec, to a reachable instance. -/
theorem nkeStep_spec (env : KeEnv) {inst : NkeInstance} (h : inst.Wf) (e : NkeEvent) :
    (nkeStep env inst e).Wf ∧ SpecStep env inst e (nkeStep env inst e) := by
  have stay : inst.Wf ∧ SpecStep env inst e inst := ⟨h, .stay rfl rfl⟩
  cases e with
  | openConnection addr ok =>
    simp only [nkeStep]
    split_ifs with hc
    · cases ok
      · exact stay
      · exact ⟨⟨by simp [nkeOpenClientConnection], by simp [nkeOpenClientConnection],
          by simp [nkeOpenClientConnection]⟩, .openClient hc ⟨addr, rfl⟩ rfl rfl⟩
    · exact stay
  | acceptConnection ok =>
    simp only [nkeStep]
    split_ifs with hc
    · cases ok
      · exact stay
      · exact ⟨⟨by simp [acceptServerConnection], by simp [acceptServerConnection],
          by simp [acceptServerConnection]⟩, .acceptServer hc rfl rfl rfl⟩
    · exact stay
  | socket event io =>
    simp only [nkeStep]
    split_ifs with hreg
    · exact readWriteSocket_spec env io event h hreg
    · exact stay
  | timeout =>
    simp only [nkeStep]
    split_ifs
    · exact ⟨(h.of_eq (x := { inst with timeoutPending := false }) rfl rfl rfl).closeConnection,
        .close (by simp [sessionTimeout]) (by simp [sessionTimeout])⟩
    · exact stay

theorem specRun_of_wf (env : KeEnv) :
    ∀ (events : List NkeEvent) {inst : NkeInstance}, inst.Wf → SpecRun env inst events
  | [], _, _ => trivial
  | e :: events, _, h => ⟨(nkeStep_spec env h e).2, specRun_of_wf env events (nkeStep_spec env h e).1⟩

/-- Every run of an instance from `NKE_CreateInstance`, over any events and any answers
of the socket and the TLS library, is a run of the spec's machine: each event keeps
the state, closes the instance, takes the next step of its mode's chain when that
step's guard holds, or opens a closed instance as a client or a server. -/
theorem nke_run_refines_spec (env : KeEnv) (events : List NkeEvent) :
    SpecRun env nkeCreateInstance events :=
  specRun_of_wf env events wf_nkeCreateInstance

end ChronyNts.KeyExchange
