import ChronyNts.KeyExchange.Negotiation
import ChronyNts.KeyExchange.Tracking

/-!
# The message buffer of an instance

`NKE_Instance` keeps one `NKE_Message` for the request and the response: `add_record`
fills it, `read_write_socket` sends it from `sent` or appends what `gnutls_record_recv`
returns, and `check_message_format` moves `parsed`.  This file proves that along every
run the buffer keeps `parsed ≤ length ≤ MAX_MESSAGE_LENGTH` and `sent ≤ length`, that in
`KE_SEND` the bytes before `sent` are what `gnutls_record_send` accepted since the state
was entered and in `KE_RECEIVE` the buffer is what `gnutls_record_recv` returned since
then (`buffer_run_invariant`).

The receive loop passes `gnutls_record_recv` the free space of the buffer, and the model
of a call keeps at most that many bytes (`receivedBytes`); of `gnutls_record_send` the
theorem assumes, event by event, that it returns at most the `length - sent` bytes it
was passed (`SendWithin`).

## Strategy

* **What `update_state` does to the buffer.**  `updateState_buffer` says it once for
  every mode and state: the buffer is kept while the state stays, and a new `KE_SEND` or
  `KE_RECEIVE` starts with nothing sent or an empty buffer (`reset_message` and
  `add_record` in `prepare_request` and `process_request`).
* **The logs.**  A `BufferLog` ghost records the chunks moved by the handler since the
  state was entered (`bufferStep`).  `BufferInv` ties it to the buffer; the handler, and
  then every event, keeps it (`bufferInv_readWriteSocket`, `bufferInv_nkeStep`), and
  `ghostRun_induction` carries it along the run.
* **Leaving `KE_SEND`.**  `BufferInv.send_exit`: the instance goes from `KE_SEND` to
  another open state only on the send that completes the message.  It may also close
  with the message unsent, on the session timeout or a fatal send error
  (`send_closed_unsent`).
-/

namespace ChronyNts.KeyExchange

/-! ## Bounds of the buffer -/

/-- The bounds of the buffer: `parsed ≤ length ≤ MAX_MESSAGE_LENGTH` and `sent ≤ length`
(the fields are natural numbers, so `0 ≤` holds by type). -/
structure NkeMessage.Bounded (m : NkeMessage) : Prop where
  parsed_le : m.parsed ≤ m.length
  length_le : m.length ≤ maxMessageLength
  sent_le : m.sent ≤ m.length

/-- A buffer as `reset_message` and `add_record` leave it: nothing sent or parsed, within
the capacity. -/
structure NkeMessage.Fresh (m : NkeMessage) : Prop where
  sent_eq : m.sent = 0
  parsed_eq : m.parsed = 0
  length_le : m.length ≤ maxMessageLength

theorem NkeMessage.Fresh.bounded {m : NkeMessage} (h : m.Fresh) : m.Bounded :=
  ⟨by rw [h.parsed_eq]; omega, h.length_le, by rw [h.sent_eq]; omega⟩

theorem fresh_resetMessage (m : NkeMessage) : (resetMessage m).Fresh :=
  ⟨rfl, rfl, by simp [NkeMessage.length]⟩

theorem NkeMessage.Fresh.addRecords {m : NkeMessage} (h : m.Fresh) (rs : List NkeRecord) :
    (ChronyNts.KeyExchange.addRecords m rs).2.Fresh := by
  induction rs generalizing m with
  | nil => exact h
  | cons r rs ih =>
    simp only [ChronyNts.KeyExchange.addRecords]
    split
    · exact h
    · rename_i m' hm'
      unfold addRecord at hm'
      split at hm' <;> cases hm'
      have hlen := length_bytes r
      simp only [NkeRecord.bytes] at hlen
      exact ih ⟨h.sent_eq, h.parsed_eq, by simp_all [NkeMessage.length]; omega⟩

theorem fresh_prepareRequest (m : NkeMessage) : (prepareRequest m).2.Fresh :=
  (fresh_resetMessage m).addRecords _

theorem fresh_prepareResponse (env : KeEnv) (keys : Option (NkeKey × NkeKey))
    (generateCookie : NkeKey → NkeKey → Nat → NkeCookie) (m : NkeMessage)
    (error nextProtocol aeadAlgorithm : Int) :
    (prepareResponse env keys generateCookie m error nextProtocol aeadAlgorithm).2.Fresh := by
  have hadd : ∀ rs b m', addRecords (resetMessage m) rs = (b, m') → m'.Fresh :=
    fun rs b m' h => by simpa [h] using (fresh_resetMessage m).addRecords rs
  unfold prepareResponse
  dsimp only
  split
  · exact hadd _ _ _ rfl
  · split <;> rename_i hhead
    · exact hadd _ _ _ hhead
    · split
      · exact hadd _ _ _ hhead
      · exact (hadd _ _ _ hhead).addRecords _

theorem fresh_processRequest (env : KeEnv) (keys : Option (NkeKey × NkeKey))
    (generateCookie : NkeKey → NkeKey → Nat → NkeCookie) (m : NkeMessage) :
    (processRequest env keys generateCookie m).2.Fresh :=
  fresh_prepareResponse env keys generateCookie m _ _ _

/-- `check_message_format` moves `parsed` within the buffer and nothing else. -/
theorem checkMessageFormat_snd (m : NkeMessage) :
    ∃ p ≤ m.length, (checkMessageFormat m).2 = { m with parsed := p } := by
  obtain ⟨-, hm, hdrop, -⟩ := getRecords_spec (resetMessageParsing m)
  refine ⟨(encodeRecords (getRecords (resetMessageParsing m)).1).length, ?_, ?_⟩
  · have := congrArg List.length hdrop
    simp only [resetMessageParsing_parsed, List.drop_zero, resetMessageParsing_data,
      List.length_append, List.length_drop] at this
    simp only [NkeMessage.length]
    omega
  · rw [checkMessageFormat_eq, hm]
    simp [resetMessageParsing]

theorem NkeMessage.Bounded.checkMessageFormat {m : NkeMessage} (h : m.Bounded) :
    (ChronyNts.KeyExchange.checkMessageFormat m).2.Bounded := by
  obtain ⟨p, hp, heq⟩ := checkMessageFormat_snd m
  rw [heq]
  exact ⟨hp, h.length_le, h.sent_le⟩

/-! ## What the receive loop stores -/

/-- The bytes `gnutls_record_recv` stores in one run of the receive loop of
`read_write_socket`, from a buffer of `length` bytes: at most the free space per call,
until a call fails, the buffer is full, or nothing more is pending. -/
def receivedBytes (length : Nat) : RecvResult → List RecvResult → List UInt8
  | r, pending =>
    if maxMessageLength ≤ length then []
    else
      match r with
      | .error _ => []
      | .received bytes =>
        bytes.take (maxMessageLength - length) ++
          match pending with
          | [] => []
          | r :: pending =>
            receivedBytes (length + (bytes.take (maxMessageLength - length)).length) r pending

theorem receiveLoop_message (inst : NkeInstance) (r : RecvResult) (pending : List RecvResult) :
    (receiveLoop inst r pending).1.message.data =
        inst.message.data ++ receivedBytes inst.message.length r pending ∧
      (receiveLoop inst r pending).1.message.sent = inst.message.sent ∧
      (receiveLoop inst r pending).1.message.parsed = inst.message.parsed ∧
      (inst.message.length ≤ maxMessageLength →
        (receiveLoop inst r pending).1.message.length ≤ maxMessageLength) := by
  induction pending generalizing inst r with
  | nil =>
    unfold receiveLoop receivedBytes
    split
    · simp
    · split
      · split <;> simp
      · simp [NkeInstance.appendReceived, NkeMessage.length]
        omega
  | cons r' pending ih =>
    unfold receiveLoop receivedBytes
    split
    · simp
    · split
      · split <;> simp
      · rename_i hfull bytes
        obtain ⟨h1, h2, h3, h4⟩ := ih (inst.appendReceived
          (bytes.take (maxMessageLength - inst.message.length))) r'
        simp only [NkeInstance.appendReceived, NkeMessage.length, List.length_append] at h1 h2 h3 h4 ⊢
        refine ⟨by rw [h1, List.append_assoc], h2, h3, fun _ => h4 ?_⟩
        simp only [List.length_take]
        omega

theorem bounded_receiveLoop {inst : NkeInstance} (hb : inst.message.Bounded)
    (r : RecvResult) (pending : List RecvResult) :
    (receiveLoop inst r pending).1.message.Bounded := by
  obtain ⟨hd, hsent, hparsed, hlen⟩ := receiveLoop_message inst r pending
  have hle : inst.message.length ≤ (receiveLoop inst r pending).1.message.length := by
    simp only [NkeMessage.length, hd, List.length_append]; omega
  exact ⟨hparsed ▸ hb.parsed_le.trans hle, hlen hb.length_le, hsent ▸ hb.sent_le.trans hle⟩

/-- What `update_state` may do to the buffer of `mid`, giving `r`: keep the bounds; keep a
server's buffer empty in `KE_HANDSHAKE`; keep the buffer while the state stays; enter
`KE_SEND` with nothing sent and `KE_RECEIVE` with an empty buffer. -/
def BufferUpdate (mid r : NkeInstance) : Prop :=
  r.message.Bounded ∧ (r.mode = .server → r.state = .handshake → r.message.data = []) ∧
    (r.state = mid.state → r.message.data = mid.message.data ∧ r.message.sent = mid.message.sent) ∧
    (r.state ≠ mid.state →
      (r.state = .send → r.message.sent = 0) ∧ (r.state = .receive → r.message.data = []))

section BufferUpdate

variable {mid : NkeInstance}

theorem BufferUpdate.close (hopen : mid.state ≠ .closed) {x : NkeInstance}
    (hb : x.message.Bounded) : BufferUpdate mid (closeConnection x) :=
  ⟨by simpa using hb, by simp, fun h => absurd (h.symm.trans (closeConnection_state x)) hopen,
    fun _ => ⟨by simp, by simp⟩⟩

theorem BufferUpdate.stay {m : NkeMessage} (hb : m.Bounded) (hdata : m.data = mid.message.data)
    (hsent : m.sent = mid.message.sent)
    (hsh : mid.mode = .server → mid.state = .handshake → mid.message.data = []) :
    BufferUpdate mid { mid with message := m } :=
  ⟨hb, fun h1 h2 => hdata ▸ hsh h1 h2, fun _ => ⟨hdata, hsent⟩, fun h => absurd rfl h⟩

theorem BufferUpdate.enter {x : NkeInstance} {next : NtsKeState} (b : Bool)
    (hb : x.message.Bounded) (hne : next ≠ mid.state)
    (hsh : x.mode = .server → next = .handshake → x.message.data = [])
    (hsend : next = .send → x.message.sent = 0) (hrecv : next = .receive → x.message.data = []) :
    BufferUpdate mid (x.advance next b) :=
  ⟨hb, hsh, fun h => absurd h hne, fun _ => ⟨hsend, hrecv⟩⟩

end BufferUpdate

/-- What `update_state` does to the buffer of an open instance: it keeps it while the
state stays; it enters `KE_SEND` with nothing sent and `KE_RECEIVE` with an empty buffer
(a server's, empty since `accept_server_connection`); and the bounds hold after. -/
theorem updateState_buffer (env : KeEnv) (io : Io) {mid : NkeInstance} (hwf : mid.Wf)
    (hopen : mid.state ≠ .closed) (hb : mid.message.Bounded)
    (hsh : mid.mode = .server → mid.state = .handshake → mid.message.data = []) :
    BufferUpdate mid (updateState env io mid) := by
  have hcheck : ∀ {f m'}, checkMessageFormat mid.message = (f, m') →
      m'.Bounded ∧ m'.data = mid.message.data ∧ m'.sent = mid.message.sent := by
    intro f m' h
    obtain ⟨p, -, hp⟩ := checkMessageFormat_snd mid.message
    have hm' : m' = (checkMessageFormat mid.message).2 := by rw [h]
    exact ⟨hm' ▸ hb.checkMessageFormat, by rw [hm', hp], by rw [hm', hp]⟩
  have hfresh : ∀ {p : Bool × NkeMessage} {b m'}, p.2.Fresh → p = (b, m') → m'.Fresh :=
    fun h hp => by rw [hp] at h; exact h
  obtain ⟨mode, state, registered, output, timeoutPending, message, addr⟩ := mid
  cases mode <;> cases state <;> simp only [updateState]
  all_goals first
    | exact absurd rfl hopen
    | exact absurd (hwf.unknown_closed rfl) (by simp)
    | exact absurd rfl (hwf.server_connected rfl)
    | skip
  · -- server, `KE_HANDSHAKE`
    split
    · exact .close hopen hb
    · exact .enter _ hb nofun (fun _ => nofun) nofun fun _ => hsh rfl rfl
  · -- server, `KE_SEND`
    exact .enter _ hb nofun (fun _ => nofun) nofun nofun
  · -- server, `KE_RECEIVE`
    split <;> rename_i hc
    · obtain ⟨h1, h2, h3⟩ := hcheck hc
      exact .stay h1 h2 h3 nofun
    · split <;> rename_i hp
      · exact .enter _ (hfresh (fresh_processRequest ..) hp).bounded nofun (fun _ => nofun)
          (fun _ => (hfresh (fresh_processRequest ..) hp).sent_eq) nofun
      · exact .close hopen (hfresh (fresh_processRequest ..) hp).bounded
    · exact .close hopen (hcheck hc).1
  · -- server, `KE_SHUTDOWN`
    exact .close hopen hb
  · -- client, `KE_WAIT_CONNECT`
    exact .enter _ hb nofun nofun nofun nofun
  · -- client, `KE_HANDSHAKE`
    split
    · exact .close hopen hb
    · split <;> rename_i hp
      · exact .enter _ (hfresh (fresh_prepareRequest _) hp).bounded nofun (fun _ => nofun)
          (fun _ => (hfresh (fresh_prepareRequest _) hp).sent_eq) nofun
      · exact .close hopen (hfresh (fresh_prepareRequest _) hp).bounded
  · -- client, `KE_SEND`
    exact .enter _ (fresh_resetMessage message).bounded nofun (fun _ => nofun) nofun fun _ => rfl
  · -- client, `KE_RECEIVE`
    split <;> rename_i hc
    · obtain ⟨h1, h2, h3⟩ := hcheck hc
      exact .stay h1 h2 h3 nofun
    · exact .enter _ (hcheck hc).1 nofun (fun _ => nofun) nofun nofun
    · exact .close hopen (hcheck hc).1
  · -- client, `KE_SHUTDOWN`
    exact .close hopen hb

/-! ## The ghost: the bytes moved since the state was entered -/

/-- The bytes `gnutls_record_send` accepted in one call of the handler in `KE_SEND`: the
`r` bytes from `data[sent]` it reported, or none on an error. -/
def sentBytes (m : NkeMessage) : SendResult → List UInt8
  | .sent r => (m.data.drop m.sent).take r
  | .error _ => []

/-- The bytes accepted by `gnutls_record_send` since the instance entered `KE_SEND`, and
those `gnutls_record_recv` stored since it entered `KE_RECEIVE`. -/
structure BufferLog where
  sent : List UInt8
  received : List UInt8

/-- The logs after the I/O of one call of the handler on `inst`. -/
def BufferLog.afterIo (g : BufferLog) (inst : NkeInstance) (io : Io) : BufferLog :=
  match inst.state with
  | .send => { g with sent := g.sent ++ sentBytes inst.message io.send }
  | .receive =>
    { g with received := g.received ++ receivedBytes inst.message.length io.recv io.pending }
  | _ => g

/-- The ghost update: the logs grow by what the handler moved while the state stays, and
start empty when it changes. -/
def bufferStep (inst : NkeInstance) (e : NkeEvent) (inst' : NkeInstance) (g : BufferLog) :
    BufferLog :=
  if inst'.state = inst.state then
    match e with
    | .socket _ io => if inst.registered then g.afterIo inst io else g
    | _ => g
  else ⟨[], []⟩

/-- What is assumed of `gnutls_record_send`: in `KE_SEND` it returns an error
or at most the `length - sent` bytes it was passed. -/
def SendWithin (inst : NkeInstance) : NkeEvent → Prop
  | .socket _ io =>
    inst.state = .send → ∀ r, io.send = .sent r → r ≤ inst.message.length - inst.message.sent
  | _ => True

/-- The buffer invariant. -/
structure BufferInv (inst : NkeInstance) (g : BufferLog) : Prop where
  wf : inst.Wf
  bounded : inst.message.Bounded
  server_handshake : inst.mode = .server → inst.state = .handshake → inst.message.data = []
  send_log : inst.state = .send → inst.message.data.take inst.message.sent = g.sent
  receive_log : inst.state = .receive → inst.message.data = g.received

section Step

variable (env : KeEnv) (io : Io) {inst : NkeInstance} {g : BufferLog}

/-- Outside `KE_SEND` and `KE_RECEIVE` the logs are not constrained. -/
theorem BufferInv.of_idle {x : NkeInstance} (hwf : x.Wf) (hb : x.message.Bounded)
    (hsh : x.mode = .server → x.state = .handshake → x.message.data = [])
    (hsend : x.state ≠ .send) (hrecv : x.state ≠ .receive) (g : BufferLog) : BufferInv x g :=
  ⟨hwf, hb, hsh, fun h => absurd h hsend, fun h => absurd h hrecv⟩

theorem BufferInv.of_closed {x : NkeInstance} (hwf : x.Wf) (hb : x.message.Bounded)
    (hc : x.state = .closed) (g : BufferLog) : BufferInv x g :=
  .of_idle hwf hb (fun _ h => absurd (h.symm.trans hc) nofun) (by rw [hc]; nofun) (by rw [hc]; nofun) g

theorem bufferInv_nkeCreateInstance (g : BufferLog) : BufferInv nkeCreateInstance g :=
  .of_closed wf_nkeCreateInstance (fresh_resetMessage ⟨[], 0, false, 0⟩).bounded rfl g

/-- `update_state` on the instance after the I/O keeps the invariant, with the logs kept
while the state stays and started afresh when it changes. -/
theorem bufferInv_updateState {mid : NkeInstance} {gm : BufferLog} (h : BufferInv mid gm)
    (hreg : mid.registered = true) :
    BufferInv (updateState env io mid)
      (if (updateState env io mid).state = mid.state then gm else ⟨[], []⟩) := by
  have hopen := h.wf.registered_iff.mp hreg
  obtain ⟨hb, hsh, hsame, hnew⟩ := updateState_buffer env io h.wf hopen h.bounded h.server_handshake
  have hwf := (updateState_cases env io h.wf hreg).1
  split <;> rename_i hs
  · obtain ⟨hd, hsent⟩ := hsame hs
    exact ⟨hwf, hb, hsh, fun h' => by rw [hd, hsent]; exact h.send_log (hs ▸ h'),
      fun h' => by rw [hd]; exact h.receive_log (hs ▸ h')⟩
  · exact ⟨hwf, hb, hsh, fun h' => by rw [(hnew hs).1 h']; rfl, fun h' => (hnew hs).2 h'⟩

theorem bufferStep_socket (event : FileEvent) (hreg : inst.registered = true) (x : NkeInstance)
    (g : BufferLog) :
    bufferStep inst (.socket event io) x g =
      if x.state = inst.state then g.afterIo inst io else ⟨[], []⟩ := by
  simp only [bufferStep, hreg, if_true]

/-- One call of `read_write_socket`, with `gnutls_record_send` keeping to its bound. -/
theorem bufferInv_readWriteSocket (event : FileEvent) (h : BufferInv inst g)
    (hreg : inst.registered = true) (hsend : SendWithin inst (.socket event io)) :
    BufferInv (readWriteSocket env io event inst)
      (bufferStep inst (.socket event io) (readWriteSocket env io event inst) g) := by
  rw [bufferStep_socket io event hreg]
  -- the three ways the handler ends, whatever the I/O added to the logs
  have close : ∀ {y : NkeInstance} (g' : BufferLog), y.Wf → y.message.Bounded →
      BufferInv (closeConnection y)
        (if (closeConnection y).state = inst.state then g' else ⟨[], []⟩) :=
    fun _ hw hb => .of_closed hw.closeConnection (by simpa using hb) (by simp) _
  have stay : ∀ {x : NkeInstance} {g' : BufferLog}, x.state = inst.state → BufferInv x g' →
      BufferInv x (if x.state = inst.state then g' else ⟨[], []⟩) :=
    fun hs hx => by rwa [if_pos hs]
  have update : ∀ {mid : NkeInstance} {g' : BufferLog}, mid.state = inst.state →
      mid.registered = true → BufferInv mid g' →
      BufferInv (updateState env io mid)
        (if (updateState env io mid).state = inst.state then g' else ⟨[], []⟩) :=
    fun hs hr hm => hs ▸ bufferInv_updateState env io hm hr
  have same : ∀ o, BufferInv { inst with output := o } g :=
    fun o => ⟨h.wf.of_eq rfl rfl rfl, h.bounded, h.server_handshake, h.send_log, h.receive_log⟩
  unfold readWriteSocket
  split <;> rename_i hs
  · -- `KE_WAIT_CONNECT`
    rw [show g.afterIo inst io = g by simp [BufferLog.afterIo, hs]]
    split
    · exact stay rfl h
    split
    · exact close _ h.wf h.bounded
    · exact update rfl hreg h
  · -- `KE_HANDSHAKE`
    rw [show g.afterIo inst io = g by simp [BufferLog.afterIo, hs]]
    split
    · exact update rfl hreg h
    · exact stay rfl (same _)
    · exact close _ h.wf h.bounded
  · -- `KE_SEND`
    rw [show g.afterIo inst io = { g with sent := g.sent ++ sentBytes inst.message io.send } by
      simp [BufferLog.afterIo, hs]]
    split <;> rename_i hio
    · split
      · exact close _ h.wf h.bounded
      · refine stay rfl ⟨h.wf, h.bounded, h.server_handshake, fun hs' => ?_, h.receive_log⟩
        rw [hio, sentBytes, List.append_nil]
        exact h.send_log hs'
    · rename_i r
      have hr := hsend hs r hio
      have hsl := h.bounded.sent_le
      have hmid : BufferInv { inst with message := { inst.message with sent := inst.message.sent + r } }
          { g with sent := g.sent ++ sentBytes inst.message io.send } :=
        ⟨h.wf.of_eq rfl rfl rfl,
          ⟨h.bounded.parsed_le, h.bounded.length_le,
            show inst.message.sent + r ≤ inst.message.length by omega⟩,
          fun _ h' => absurd (hs ▸ h') nofun,
          fun _ => by rw [hio, sentBytes, List.take_add, h.send_log hs],
          fun h' => absurd (hs ▸ h') nofun⟩
      dsimp only
      split
      · exact stay rfl hmid
      · exact update rfl hreg hmid
  · -- `KE_RECEIVE`
    obtain ⟨hd, -, -, -⟩ := receiveLoop_message inst io.recv io.pending
    obtain ⟨hwf, -, hcase⟩ := receiveLoop_cases h.wf hreg io.recv io.pending
    have hbl := bounded_receiveLoop h.bounded io.recv io.pending
    have hinv : (receiveLoop inst io.recv io.pending).1.state = inst.state →
        BufferInv (receiveLoop inst io.recv io.pending).1 (g.afterIo inst io) := fun hs' =>
      ⟨hwf, hbl, fun _ h' => absurd (hs ▸ hs' ▸ h') nofun, fun h' => absurd (hs ▸ hs' ▸ h') nofun,
        fun _ => by simp [BufferLog.afterIo, hs, hd, h.receive_log hs]⟩
    split <;> rename_i m hloop <;> rw [hloop] at hwf hcase hbl hinv
    · obtain ⟨hsame, hr⟩ := hcase.resolve_right (by simp)
      exact update hsame hr (hinv hsame)
    · rcases hcase with ⟨hsame, -⟩ | ⟨-, hclosed⟩
      · exact stay hsame (hinv hsame)
      · exact .of_closed hwf hbl hclosed _
  · -- `KE_SHUTDOWN`
    rw [show g.afterIo inst io = g by simp [BufferLog.afterIo, hs]]
    split
    · exact update rfl hreg h
    · exact stay rfl (same _)
    · exact close _ h.wf h.bounded
  · exact absurd hs (h.wf.registered_iff.mp hreg)

/-- Every event within that assumption keeps the buffer invariant. -/
theorem bufferInv_nkeStep (h : BufferInv inst g) (e : NkeEvent) (he : SendWithin inst e) :
    BufferInv (nkeStep env inst e) (bufferStep inst e (nkeStep env inst e) g) := by
  have hwf := (nkeStep_spec env h.wf e).1
  have stay : BufferInv inst (if inst.state = inst.state then g else ⟨[], []⟩) := by
    rw [if_pos rfl]; exact h
  cases e with
  | openConnection addr ok =>
    simp only [bufferStep]
    by_cases hc : inst.state = .closed
    · cases ok
      · simpa [nkeStep, hc, nkeOpenClientConnection] using stay
      · simp only [nkeStep, hc, if_true, nkeOpenClientConnection] at hwf ⊢
        exact .of_idle hwf h.bounded nofun nofun nofun _
    · simpa [nkeStep, hc] using stay
  | acceptConnection ok =>
    simp only [bufferStep]
    by_cases hc : inst.state = .closed
    · cases ok
      · simpa [nkeStep, hc, acceptServerConnection] using stay
      · simp only [nkeStep, hc, if_true, acceptServerConnection, Bool.not_true, Bool.false_eq_true,
          if_false] at hwf ⊢
        exact .of_idle hwf (fresh_resetMessage inst.message).bounded (fun _ _ => rfl) nofun nofun _
    · simpa [nkeStep, hc] using stay
  | socket event io =>
    by_cases hreg : inst.registered = true
    · simp only [nkeStep, hreg, if_true]
      exact bufferInv_readWriteSocket env io event h hreg he
    · simpa [nkeStep, bufferStep, hreg] using h
  | timeout =>
    simp only [bufferStep]
    by_cases hp : inst.timeoutPending = true
    · simp only [nkeStep, hp, if_true] at hwf ⊢
      exact .of_closed hwf (by simpa [sessionTimeout] using h.bounded) (by simp [sessionTimeout]) _
    · simpa [nkeStep, hp] using stay

/-- In `KE_SEND`, the only event that takes the instance to another open state is a send
that completes the message, and the log then holds the whole message. -/
theorem BufferInv.send_exit (h : BufferInv inst g) (hs : inst.state = .send) {e : NkeEvent}
    (he : SendWithin inst e) (hne : (nkeStep env inst e).state ≠ .send)
    (hnc : (nkeStep env inst e).state ≠ .closed) :
    ∃ event io r, e = .socket event io ∧ io.send = .sent r ∧
      inst.message.sent + r = inst.message.length ∧
      g.sent ++ sentBytes inst.message (.sent r) = inst.message.data := by
  have hopen : inst.state ≠ .closed := by rw [hs]; nofun
  cases e with
  | openConnection addr ok => simp [nkeStep, hopen, hs] at hne
  | acceptConnection ok => simp [nkeStep, hopen, hs] at hne
  | timeout =>
    by_cases hp : inst.timeoutPending = true
    · simp [nkeStep, hp, sessionTimeout] at hnc
    · simp [nkeStep, hp, hs] at hne
  | socket event io =>
    have hreg := h.wf.registered_iff.mpr hopen
    simp only [nkeStep, hreg, if_true, readWriteSocket, hs] at hne hnc
    cases hio : io.send with
    | error fatal =>
      rw [hio] at hne hnc
      cases fatal <;> simp [hs] at hne hnc
    | sent r =>
      rw [hio] at hne hnc
      have hr := he hs r hio
      have hsent := h.bounded.sent_le
      dsimp only at hne
      split at hne
      · exact absurd rfl hne
      · rename_i hlt
        have hfull : inst.message.sent + r = inst.message.length := by
          have : ¬ inst.message.sent + r < inst.message.length := hlt
          omega
        refine ⟨event, io, r, rfl, hio, hfull, ?_⟩
        rw [← h.send_log hs, sentBytes, ← List.take_add, hfull]
        exact List.take_length _

end Step

/-- A run from `NKE_CreateInstance`: the instance and the logs of its buffer. -/
def bufferRun (env : KeEnv) (events : List NkeEvent) : NkeInstance × BufferLog :=
  ghostRun env id bufferStep (nkeCreateInstance, ⟨[], []⟩) events

theorem bufferInv_bufferRun (env : KeEnv) (events : List NkeEvent)
    (h : EventsMeet env id SendWithin nkeCreateInstance events) :
    BufferInv (bufferRun env events).1 (bufferRun env events).2 :=
  ghostRun_induction env id bufferStep (P := fun s => BufferInv s.1 s.2)
    (fun _ _ e hs he => bufferInv_nkeStep env hs e he) events _ (bufferInv_nkeCreateInstance _) h

/-- Along every run whose sends return at most what they were passed, the buffer keeps
its bounds; in `KE_SEND` its first `sent` bytes are the chunks `gnutls_record_send`
accepted since the state was entered, in `KE_RECEIVE` its bytes are the chunks
`gnutls_record_recv` returned since then; and the next event takes the instance from
`KE_SEND` to another open state only on the send that completes the message, whose chunk
ends the log at the whole message. -/
theorem buffer_run_invariant (env : KeEnv) (events : List NkeEvent) (e : NkeEvent)
    (hsend : EventsMeet env id SendWithin nkeCreateInstance (events ++ [e])) :
    let inst := (bufferRun env events).1
    let g := (bufferRun env events).2
    inst.message.parsed ≤ inst.message.length ∧ inst.message.length ≤ maxMessageLength ∧
      inst.message.sent ≤ inst.message.length ∧
      (inst.state = .send → inst.message.data.take inst.message.sent = g.sent) ∧
      (inst.state = .receive → inst.message.data = g.received) ∧
      (inst.state = .send → (nkeStep env inst e).state ≠ .send →
        (nkeStep env inst e).state ≠ .closed →
        ∃ event io r, e = .socket event io ∧ io.send = .sent r ∧
          inst.message.sent + r = inst.message.length ∧
          g.sent ++ sentBytes inst.message (.sent r) = inst.message.data) := by
  obtain ⟨hrun, hnext, -⟩ := (eventsMeet_append env id nkeCreateInstance events [e]).mp hsend
  have h := bufferInv_bufferRun env events hrun
  have hfst : (bufferRun env events).1 = nkeRun env nkeCreateInstance (events.map id) :=
    ghostRun_fst env id bufferStep _ events
  rw [← hfst] at hnext
  exact ⟨h.bounded.parsed_le, h.bounded.length_le, h.bounded.sent_le, h.send_log, h.receive_log,
    fun hs => h.send_exit env hs hnext⟩

/-- A client sends its 16-byte request in two parts, 10 bytes and then 6: before the
second the instance is in `KE_SEND` with 10 bytes sent, and the second takes it to
`KE_RECEIVE`. -/
theorem buffer_run_invariant_partial_send :
    let env : KeEnv := ⟨256, ntpPortDefault, fun _ => none⟩
    let io : Io := ⟨0, .ok, true, .error false, .error false, [], .ok, none, fun _ _ _ => ⟨[]⟩⟩
    let events : List NkeEvent := [.openConnection ⟨[192, 0, 2, 1]⟩ true, .socket .output io,
      .socket .output io, .socket .output { io with send := .sent 10 }]
    let e : NkeEvent := .socket .output { io with send := .sent 6 }
    EventsMeet env id SendWithin nkeCreateInstance (events ++ [e]) ∧
      (bufferRun env events).1.state = .send ∧ (bufferRun env events).1.message.sent = 10 ∧
      (nkeStep env (bufferRun env events).1 e).state = .receive ∧
      let inst := (bufferRun env events).1
      let g := (bufferRun env events).2
      inst.message.parsed ≤ inst.message.length ∧ inst.message.length ≤ maxMessageLength ∧
        inst.message.sent ≤ inst.message.length ∧
        (inst.state = .send → inst.message.data.take inst.message.sent = g.sent) ∧
        (inst.state = .receive → inst.message.data = g.received) ∧
        (inst.state = .send → (nkeStep env inst e).state ≠ .send →
          (nkeStep env inst e).state ≠ .closed →
          ∃ event io r, e = .socket event io ∧ io.send = .sent r ∧
            inst.message.sent + r = inst.message.length ∧
            g.sent ++ sentBytes inst.message (.sent r) = inst.message.data) := by
  intro env io events e
  have hrequest : (encodeRecords requestRecords).length = 16 := by decide
  have hmeet : EventsMeet env id SendWithin nkeCreateInstance (events ++ [e]) := by
    simp [env, io, events, e, EventsMeet, SendWithin, nkeStep, nkeOpenClientConnection,
      nkeCreateInstance, readWriteSocket, updateState, NkeInstance.advance, prepareRequest_eq,
      NkeMessage.length, hrequest]
  have hrun : (bufferRun env events).1 = nkeRun env nkeCreateInstance events :=
    ghostRun_fst env id bufferStep _ events
  have hstates : (bufferRun env events).1.state = .send ∧
      (bufferRun env events).1.message.sent = 10 ∧
      (nkeStep env (bufferRun env events).1 e).state = .receive := by
    rw [hrun]
    simp [env, io, events, e, nkeRun, nkeStep, nkeOpenClientConnection,
      nkeCreateInstance, readWriteSocket, updateState, NkeInstance.advance, prepareRequest_eq,
      NkeMessage.length, hrequest]
  exact ⟨hmeet, hstates.1, hstates.2.1, hstates.2.2, buffer_run_invariant env events e hmeet⟩

/-- A client whose peer completes the handshake reaches `KE_SEND` with the 16 bytes of the
request and none sent; the session timeout then closes it with the request unsent. -/
theorem send_closed_unsent :
    let env : KeEnv := ⟨256, ntpPortDefault, fun _ => none⟩
    let io : Io := ⟨0, .ok, true, .error false, .error false, [], .ok, none, fun _ _ _ => ⟨[]⟩⟩
    let inst := nkeRun env nkeCreateInstance
      [.openConnection ⟨[192, 0, 2, 1]⟩ true, .socket .output io, .socket .output io]
    inst.state = .send ∧ inst.message.sent = 0 ∧ inst.message.length = 16 ∧
      (nkeStep env inst .timeout).state = .closed := by
  have hrequest : (encodeRecords requestRecords).length = 16 := by decide
  simp [nkeStep, nkeOpenClientConnection, nkeCreateInstance, readWriteSocket, updateState,
    NkeInstance.advance, prepareRequest_eq, NkeMessage.length, hrequest, sessionTimeout]

end ChronyNts.KeyExchange
