import ChronyNts.KeyExchange.Buffer
import ChronyNts.KeyExchange.RequestCheck

/-!
# The two ends of a connection

A client's `NKE_Instance` and a server's talk over one TLS connection: the client writes
the request of `prepare_request` in `KE_SEND`, the server reads it in `KE_RECEIVE`, answers
with the response of `process_request`, and the client reads that in its own
`KE_RECEIVE`.  A `Connection` holds both instances and, for each, the bytes
`gnutls_record_send` accepted from it and those its receive loop stored (a `BufferLog`,
here kept for the whole connection: each end enters `KE_SEND` and `KE_RECEIVE` at most
once).  Its events are the events of either end, in any interleaving; the TLS session
is assumed only to deliver, in order, what the peer wrote (`Delivers`): how the bytes
are cut into `gnutls_record_recv` calls, and every other answer of the socket and the
session, is free.

Over every such run the exchange is safe, whatever the cuts:

* `server_answers_whole_request`: once the server has gone on to `KE_SEND`, it has read
  exactly the client's request, all of what the client wrote, and its buffer holds the
  response `prepare_response` builds for NTPv4 and AES-SIV-CMAC-256 with no error.
* `client_accepts_whole_response`: once the client has gone on to `KE_SHUTDOWN`, it has
  read all the server wrote, and its buffer is the server's, a complete response with
  the head records and `MAX_COOKIES` cookies.

Neither says that the exchange completes, and it need not: where the reads are cut
decides it.  An end waiting in `KE_RECEIVE` reads a whole message when every cut between
two reads falls inside a record, and closes the connection when one falls between two
records, since `check_message_format` takes the records read so far for a whole message
without End-of-Message (`client_reads_response_in_pieces`,
`server_reads_request_in_pieces`).

## Strategy

* **Each end on its own.**  `ClientStage` and `ServerStage` say, state by state, what the
  buffer and the logs of an end hold; `ClientPhase` and `ServerPhase` add the shape of the
  instance.  The socket handler keeps them (`clientPhase_readWriteSocket`,
  `serverPhase_readWriteSocket`), by one case per state of `read_write_socket` and, where
  it is called, of `update_state`.
* **The channels.**  What an end has read is a prefix of what its peer wrote
  (`ConnectionInv`): writing only extends a log, and `Delivers` extends a read log within
  the peer's.
* **A complete message in a prefix.**  Decoding is deterministic, so a complete message
  read off a stream of records in which End-of-Message comes only last is the whole
  stream (`completeMessage_prefix_eq`).  Applied to the request, and then to the response,
  it turns the two prefixes into equalities.
* **Every cutting.**  One induction on the reads (`nkeRun_reads`), for both modes, carries
  `data ++ rest = encodeRecords rs`: a cut inside a record leaves the message incomplete
  (`checkMessageFormat_incomplete_of_cut`), one between records makes it malformed
  (`checkMessageFormat_boundary_error`), and the last read completes it.
-/

namespace ChronyNts.KeyExchange

/-! ## The connection -/

/-- The two ends of a connection. -/
inductive Side
  | client
  | server
deriving DecidableEq, Repr

/-- An event on one end of the connection. -/
structure ConnectionEvent where
  side : Side
  event : NkeEvent

/-- The client and the server, each with the bytes it has written to the connection and
read from it. -/
structure Connection where
  client : NkeInstance
  server : NkeInstance
  clientLog : BufferLog
  serverLog : BufferLog

/-- A connection as it is made: a client opened as `get_nke_data` opens it
(`NKE_CreateInstance`, then `NKE_OpenClientConnection` to `addr`), and a server instance,
new or reused by `accept_connection`, on which `accept_server_connection` succeeded. -/
def Connection.start (addr : IPAddr) (server : NkeInstance) : Connection :=
  ⟨(nkeOpenClientConnection nkeCreateInstance addr true).2, (acceptServerConnection server true).2,
    ⟨[], []⟩, ⟨[], []⟩⟩

/-- The logs of an end after event `e`: its handler appends what it moved. -/
def streamStep (inst : NkeInstance) (e : NkeEvent) (g : BufferLog) : BufferLog :=
  match e with
  | .socket _ io => if inst.registered then g.afterIo inst io else g
  | _ => g

/-- One event of the connection. -/
def Connection.step (env : KeEnv) (c : Connection) : ConnectionEvent → Connection
  | ⟨.client, e⟩ =>
    { c with client := nkeStep env c.client e, clientLog := streamStep c.client e c.clientLog }
  | ⟨.server, e⟩ =>
    { c with server := nkeStep env c.server e, serverLog := streamStep c.server e c.serverLog }

/-- The connection after `events`, in order. -/
def Connection.run (env : KeEnv) (c : Connection) (events : List ConnectionEvent) : Connection :=
  events.foldl (Connection.step env) c

@[simp] theorem Connection.run_nil (env : KeEnv) (c : Connection) : c.run env [] = c := rfl

@[simp] theorem Connection.run_cons (env : KeEnv) (c : Connection) (e : ConnectionEvent)
    (events : List ConnectionEvent) : c.run env (e :: events) = (c.step env e).run env events :=
  rfl

/-- What the TLS session guarantees an end that has read `g.received` from a peer that
has written `peerWritten`: the event is one of the connection (on the socket, or the
session timeout), and the bytes the receive loop stores are the next ones the peer
wrote. -/
def Delivers (inst : NkeInstance) (g : BufferLog) (peerWritten : List UInt8) : NkeEvent → Prop
  | .socket _ io => inst.state = .receive →
    g.received ++ receivedBytes inst.message.length io.recv io.pending <+: peerWritten
  | .timeout => True
  | _ => False

/-- `e` meets the guarantee of the TLS session in `c`. -/
def ConnectionEvent.Admissible (c : Connection) : ConnectionEvent → Prop
  | ⟨.client, e⟩ => Delivers c.client c.clientLog c.serverLog.sent e
  | ⟨.server, e⟩ => Delivers c.server c.serverLog c.clientLog.sent e

/-- Every event of `events` meets the guarantee of the TLS session in the connection it
finds. -/
def Connection.Admissible (env : KeEnv) : Connection → List ConnectionEvent → Prop
  | _, [] => True
  | c, e :: events => e.Admissible c ∧ (c.step env e).Admissible env events

/-! ## The logs -/

section Logs

variable {inst : NkeInstance} {g : BufferLog}

/-- An end only ever appends to what it has written. -/
theorem sent_prefix_streamStep (e : NkeEvent) : g.sent <+: (streamStep inst e g).sent := by
  unfold streamStep BufferLog.afterIo
  split
  · split
    · split <;> simp [List.prefix_append]
    · exact List.prefix_refl _
  · exact List.prefix_refl _

/-- What an end has read stays within what its peer wrote. -/
theorem received_streamStep_within {e : NkeEvent} {peerWritten : List UInt8}
    (he : Delivers inst g peerWritten e) (hg : g.received <+: peerWritten) :
    (streamStep inst e g).received <+: peerWritten := by
  cases e with
  | socket event io =>
    simp only [streamStep]
    split
    · simp only [BufferLog.afterIo]
      split <;> rename_i hs
      · exact hg
      · exact he hs
      · exact hg
    · exact hg
  | timeout => exact hg
  | _ => exact he.elim

/-- The handler in `KE_RECEIVE`: the receive loop stores `receivedBytes`, and the instance
with that buffer is handed to `update_state`, kept, or closed. -/
theorem readWriteSocket_receive (env : KeEnv) (io : Io) (event : FileEvent) (inst : NkeInstance)
    (hs : inst.state = .receive) :
    ∃ m : NkeMessage,
      m.data = inst.message.data ++ receivedBytes inst.message.length io.recv io.pending ∧
      (readWriteSocket env io event inst = updateState env io { inst with message := m } ∨
        readWriteSocket env io event inst = { inst with message := m } ∨
        readWriteSocket env io event inst = closeConnection { inst with message := m }) := by
  obtain ⟨hd, -, -, -⟩ := receiveLoop_message inst io.recv io.pending
  obtain ⟨m, he | he | he⟩ := receiveLoop_shape inst io.recv io.pending <;>
    refine ⟨m, by simpa [he] using hd, ?_⟩ <;> simp [readWriteSocket, hs, he]

end Logs

/-! ## The client's end -/

/-- What a client's buffer `m` and logs `g` hold in each state: nothing written or read
while it connects; in `KE_SEND` the request, of which the first `sent` bytes are written;
from `KE_RECEIVE` on, the whole request written and the buffer what it read, which in
`KE_SHUTDOWN` is a complete message. -/
def ClientStage (m : NkeMessage) (g : BufferLog) : NtsKeState → Prop
  | .waitConnect | .handshake => g.sent = [] ∧ g.received = []
  | .send => m.data = encodeRecords requestRecords ∧ m.data.take m.sent = g.sent ∧ g.received = []
  | .receive => g.sent = encodeRecords requestRecords ∧ m.data = g.received
  | .shutdown =>
    g.sent = encodeRecords requestRecords ∧ m.data = g.received ∧ CompleteMessage m.data
  | .closed => True

/-- The client's end of a connection. -/
structure ClientPhase (inst : NkeInstance) (g : BufferLog) : Prop where
  mode : inst.mode = .client
  written : g.sent <+: encodeRecords requestRecords
  stage : ClientStage inst.message g inst.state

section Client

variable (env : KeEnv) (io : Io) {inst : NkeInstance} {g : BufferLog}

theorem ClientPhase.closed {x : NkeInstance} (hm : x.mode = .client)
    (hw : g.sent <+: encodeRecords requestRecords) : ClientPhase (closeConnection x) g :=
  ⟨by simpa using hm, hw, by simp [ClientStage]⟩

theorem clientPhase_start (addr : IPAddr) :
    ClientPhase (nkeOpenClientConnection nkeCreateInstance addr true).2 ⟨[], []⟩ :=
  ⟨rfl, List.nil_prefix, ⟨rfl, rfl⟩⟩

/-- One call of the socket handler on an open client. -/
theorem clientPhase_readWriteSocket (event : FileEvent) (h : ClientPhase inst g)
    (hopen : inst.state ≠ .closed) :
    ClientPhase (readWriteSocket env io event inst) (g.afterIo inst io) := by
  obtain ⟨mode, state, registered, output, timeoutPending, message, addr⟩ := inst
  obtain ⟨rfl, hw, hstage⟩ := h
  cases state with
  | waitConnect =>
    simp only [readWriteSocket, BufferLog.afterIo]
    split_ifs
    · exact ⟨rfl, hw, hstage⟩
    · exact .closed rfl hw
    · exact ⟨rfl, hw, hstage⟩
  | handshake =>
    simp only [readWriteSocket, BufferLog.afterIo]
    split
    · simp only [updateState, prepareRequest_eq]
      split
      · exact .closed rfl hw
      · exact ⟨rfl, hw, rfl, by simp [hstage.1], hstage.2⟩
    · exact ⟨rfl, hw, hstage⟩
    · exact .closed rfl hw
  | send =>
    obtain ⟨hdata, hsent, hrecv⟩ := hstage
    simp only [readWriteSocket, BufferLog.afterIo]
    split <;> rename_i hio
    · rw [hio, sentBytes, List.append_nil]
      split
      · exact .closed rfl hw
      · exact ⟨rfl, hw, hdata, hsent, hrecv⟩
    · rename_i r
      have hlog : g.sent ++ sentBytes message io.send = message.data.take (message.sent + r) := by
        rw [hio, sentBytes, List.take_add, hsent]
      have hw' : g.sent ++ sentBytes message io.send <+: encodeRecords requestRecords :=
        hlog ▸ hdata ▸ List.take_prefix _ _
      split_ifs with hlt
      · exact ⟨rfl, hw', hdata, hlog.symm, hrecv⟩
      · refine ⟨rfl, hw', ?_, by simp [updateState, hrecv]⟩
        rw [hlog, List.take_of_length_le (by simp only [NkeMessage.length] at hlt; omega), hdata]
  | receive =>
    obtain ⟨hsent, hdata⟩ := hstage
    obtain ⟨m, hd, he | he | he⟩ := readWriteSocket_receive env io event
      ⟨.client, .receive, registered, output, timeoutPending, message, addr⟩ rfl <;>
      rw [he] <;> simp only [BufferLog.afterIo] <;> rw [← hdata, ← hd]
    · simp only [updateState]
      split <;> rename_i hc <;> have hcd := checkMessageFormat_data m <;> rw [hc] at hcd
      · exact ⟨rfl, hw, hsent, hcd⟩
      · exact ⟨rfl, hw, hsent, hcd, hcd ▸ completeMessage_of_checkMessageFormat (by rw [hc])⟩
      · exact .closed rfl hw
    · exact ⟨rfl, hw, hsent, rfl⟩
    · exact .closed rfl hw
  | shutdown =>
    simp only [readWriteSocket, BufferLog.afterIo]
    split
    · exact .closed rfl hw
    · exact ⟨rfl, hw, hstage⟩
    · exact .closed rfl hw
  | closed => exact absurd rfl hopen

/-- Every event of the connection on the client's end. -/
theorem clientPhase_nkeStep (h : ClientPhase inst g) (hwf : inst.Wf) {e : NkeEvent}
    {peerWritten : List UInt8} (he : Delivers inst g peerWritten e) :
    ClientPhase (nkeStep env inst e) (streamStep inst e g) := by
  cases e with
  | socket event io =>
    simp only [nkeStep, streamStep]
    split_ifs with hreg
    · exact clientPhase_readWriteSocket env io event h (hwf.registered_iff.mp hreg)
    · exact h
  | timeout =>
    simp only [nkeStep, streamStep]
    split_ifs
    · exact .closed h.mode h.written
    · exact h
  | _ => exact he.elim

end Client

/-! ## The server's end -/

/-- `data` is what `process_request` leaves in the buffer after reading `request`, for some
answers of `NKE_GetKeys` and `NKE_GenerateCookie`. -/
def ResponseTo (env : KeEnv) (request data : List UInt8) : Prop :=
  ∃ keys generateCookie, ∃ m : NkeMessage,
    m.data = request ∧ data = (processRequest env keys generateCookie m).2.data

/-- The server has read a complete message and holds its response in buffer `m`. -/
def Responded (env : KeEnv) (m : NkeMessage) (g : BufferLog) : Prop :=
  CompleteMessage g.received ∧ ResponseTo env g.received m.data

/-- What a server's buffer `m` and logs `g` hold in each state: nothing while it
completes the handshake; in `KE_RECEIVE` what it read, with nothing written; from
`KE_SEND` on, the response to the complete message it read, of which the first `sent`
bytes are written, and in `KE_SHUTDOWN` all of it.  A closed server has written nothing,
or has responded.  It never waits for a connection. -/
def ServerStage (env : KeEnv) (m : NkeMessage) (g : BufferLog) : NtsKeState → Prop
  | .waitConnect => False
  | .handshake => m.data = [] ∧ g.received = [] ∧ g.sent = []
  | .receive => m.data = g.received ∧ g.sent = []
  | .send => m.data.take m.sent = g.sent ∧ Responded env m g
  | .shutdown => g.sent = m.data ∧ Responded env m g
  | .closed => g.sent = [] ∨ Responded env m g

/-- In every state a server has written nothing or has responded. -/
theorem ServerStage.closing {env : KeEnv} {m : NkeMessage} {g : BufferLog} {s : NtsKeState}
    (h : ServerStage env m g s) : g.sent = [] ∨ Responded env m g := by
  cases s <;> simp only [ServerStage] at h <;> tauto

/-- The server's end of a connection. -/
structure ServerPhase (env : KeEnv) (inst : NkeInstance) (g : BufferLog) : Prop where
  mode : inst.mode = .server
  written : g.sent <+: inst.message.data
  stage : ServerStage env inst.message g inst.state

section Server

variable (env : KeEnv) (io : Io) {inst : NkeInstance} {g : BufferLog}

/-- Closing keeps what the server has written and whether it has responded. -/
theorem ServerPhase.closed {x : NkeInstance} (hm : x.mode = .server)
    (hw : g.sent <+: x.message.data) (hc : g.sent = [] ∨ Responded env x.message g) :
    ServerPhase env (closeConnection x) g :=
  ⟨by simpa using hm, by simpa using hw, by simpa [ServerStage] using hc⟩

theorem serverPhase_start (server : NkeInstance) :
    ServerPhase env (acceptServerConnection server true).2 ⟨[], []⟩ :=
  ⟨rfl, List.nil_prefix, ⟨rfl, rfl, rfl⟩⟩

/-- One call of the socket handler on an open server. -/
theorem serverPhase_readWriteSocket (event : FileEvent) (h : ServerPhase env inst g)
    (hopen : inst.state ≠ .closed) :
    ServerPhase env (readWriteSocket env io event inst) (g.afterIo inst io) := by
  obtain ⟨mode, state, registered, output, timeoutPending, message, addr⟩ := inst
  obtain ⟨rfl, hw, hstage⟩ := h
  cases state with
  | waitConnect => exact hstage.elim
  | handshake =>
    obtain ⟨hdata, hrecv, hsent⟩ := hstage
    simp only [readWriteSocket, BufferLog.afterIo]
    split
    · simp only [updateState]
      split
      · exact .closed env rfl hw (.inl hsent)
      · exact ⟨rfl, hw, hdata.trans hrecv.symm, hsent⟩
    · exact ⟨rfl, hw, hdata, hrecv, hsent⟩
    · exact .closed env rfl hw (.inl hsent)
  | send =>
    obtain ⟨hsent, hresp⟩ := hstage
    simp only [readWriteSocket, BufferLog.afterIo]
    split <;> rename_i hio
    · rw [hio, sentBytes, List.append_nil]
      split
      · exact .closed env rfl hw (.inr hresp)
      · exact ⟨rfl, hw, hsent, hresp⟩
    · rename_i r
      have hlog : g.sent ++ sentBytes message io.send = message.data.take (message.sent + r) := by
        rw [hio, sentBytes, List.take_add, hsent]
      have hw' : g.sent ++ sentBytes message io.send <+: message.data :=
        hlog ▸ List.take_prefix _ _
      split_ifs with hlt
      · exact ⟨rfl, hw', hlog.symm, hresp⟩
      · refine ⟨rfl, hw', ?_, hresp⟩
        rw [hlog, List.take_of_length_le (by simp only [NkeMessage.length] at hlt; omega)]
        rfl
  | receive =>
    obtain ⟨hdata, hsent⟩ := hstage
    obtain ⟨m, hd, he | he | he⟩ := readWriteSocket_receive env io event
      ⟨.server, .receive, registered, output, timeoutPending, message, addr⟩ rfl <;>
      rw [he] <;> simp only [BufferLog.afterIo] <;> rw [← hdata, ← hd]
    · simp only [updateState]
      split <;> rename_i m' hc <;> have hcd := checkMessageFormat_data m <;> rw [hc] at hcd
      · exact ⟨rfl, by simp [hsent], hcd, hsent⟩
      · split <;> rename_i m'' hp
        · have hfresh := (fresh_processRequest env io.keys io.generateCookie m').sent_eq
          rw [hp] at hfresh
          refine ⟨rfl, by simp [hsent], ?_, ?_, ?_⟩
          · show m''.data.take m''.sent = g.sent
            rw [show m''.sent = 0 from hfresh, List.take_zero, hsent]
          · exact completeMessage_of_checkMessageFormat (m := m) (by rw [hc])
          · exact ⟨io.keys, io.generateCookie, _, hcd, by rw [hp]; rfl⟩
        · exact .closed env rfl (by simp [hsent]) (.inl hsent)
      · exact .closed env rfl (by simp [hsent]) (.inl hsent)
    · exact ⟨rfl, by simp [hsent], rfl, hsent⟩
    · exact .closed env rfl (by simp [hsent]) (.inl hsent)
  | shutdown =>
    simp only [readWriteSocket, BufferLog.afterIo]
    split
    · exact .closed env rfl hw hstage.closing
    · exact ⟨rfl, hw, hstage⟩
    · exact .closed env rfl hw hstage.closing
  | closed => exact absurd rfl hopen

/-- Every event of the connection on the server's end. -/
theorem serverPhase_nkeStep (h : ServerPhase env inst g) (hwf : inst.Wf) {e : NkeEvent}
    {peerWritten : List UInt8} (he : Delivers inst g peerWritten e) :
    ServerPhase env (nkeStep env inst e) (streamStep inst e g) := by
  cases e with
  | socket event io =>
    simp only [nkeStep, streamStep]
    split_ifs with hreg
    · exact serverPhase_readWriteSocket env io event h (hwf.registered_iff.mp hreg)
    · exact h
  | timeout =>
    simp only [nkeStep, streamStep]
    split_ifs
    · exact .closed env (x := { inst with timeoutPending := false }) h.mode h.written h.stage.closing
    · exact h
  | _ => exact he.elim

end Server

/-! ## Every run -/

/-- Both ends in their phases, and what each has read a prefix of what the other wrote. -/
structure ConnectionInv (env : KeEnv) (c : Connection) : Prop where
  clientWf : c.client.Wf
  serverWf : c.server.Wf
  client : ClientPhase c.client c.clientLog
  server : ServerPhase env c.server c.serverLog
  toServer : c.serverLog.received <+: c.clientLog.sent
  toClient : c.clientLog.received <+: c.serverLog.sent

section Run

variable (env : KeEnv)

theorem connectionInv_start (addr : IPAddr) (server : NkeInstance) :
    ConnectionInv env (Connection.start addr server) :=
  ⟨⟨by simp [Connection.start, nkeOpenClientConnection], by simp [Connection.start,
    nkeOpenClientConnection], by simp [Connection.start, nkeOpenClientConnection]⟩,
    ⟨by simp [Connection.start, acceptServerConnection], by simp [Connection.start,
    acceptServerConnection], by simp [Connection.start, acceptServerConnection]⟩,
    clientPhase_start addr, serverPhase_start env server, List.nil_prefix, List.nil_prefix⟩

theorem connectionInv_step {c : Connection} (h : ConnectionInv env c) {e : ConnectionEvent}
    (he : e.Admissible c) : ConnectionInv env (c.step env e) := by
  obtain ⟨side, e⟩ := e
  cases side with
  | client =>
    exact ⟨(nkeStep_spec env h.clientWf e).1, h.serverWf, clientPhase_nkeStep env h.client h.clientWf he, h.server,
      h.toServer.trans (sent_prefix_streamStep e), received_streamStep_within he h.toClient⟩
  | server =>
    exact ⟨h.clientWf, (nkeStep_spec env h.serverWf e).1, h.client,
      serverPhase_nkeStep env h.server h.serverWf he,
      received_streamStep_within he h.toServer, h.toClient.trans (sent_prefix_streamStep e)⟩

theorem connectionInv_run :
    ∀ (events : List ConnectionEvent) {c : Connection}, ConnectionInv env c →
      c.Admissible env events → ConnectionInv env (c.run env events)
  | [], _, h, _ => h
  | _ :: events, _, h, ⟨he, hevents⟩ => connectionInv_run events (connectionInv_step env h he) hevents

/-- A server that has responded read exactly the request, all the client wrote, and holds
the response for NTPv4 and AES-SIV-CMAC-256 with no error. -/
theorem ConnectionInv.request {c : Connection} (h : ConnectionInv env c)
    (hr : Responded env c.server.message c.serverLog) :
    c.serverLog.received = encodeRecords requestRecords ∧
      c.clientLog.sent = encodeRecords requestRecords ∧
      ∃ keys generateCookie, ∃ m : NkeMessage, c.server.message.data =
        (prepareResponse env keys generateCookie m errorNone nextProtocolNtpv4
          aeadAesSivCmac256).2.data := by
  obtain ⟨hcomplete, keys, generateCookie, m, hm, hdata⟩ := hr
  have hreq := (completeMessage_prefix_eq hcomplete valid_requestRecords (List.prefix_refl _)
    (by decide) (h.toServer.trans h.client.written)).2
  refine ⟨hreq, ((hreq ▸ h.toServer).eq_of_length
    (le_antisymm (hreq ▸ h.toServer).length_le h.client.written.length_le)).symm, keys,
    generateCookie, m, ?_⟩
  rw [hdata, processRequest_request env keys generateCookie (hm.trans hreq)]

end Run

/-- Along every run of a connection in which the TLS session delivers what each end
wrote, in order and cut anywhere: once the server has gone on from `KE_RECEIVE` (it is in
`KE_SEND` or `KE_SHUTDOWN`, or has written anything), it has read exactly the client's
request and all the client wrote, and its buffer holds the response `prepare_response`
builds for NTPv4 and AES-SIV-CMAC-256 with no error. -/
theorem server_answers_whole_request (env : KeEnv) (addr : IPAddr) (server : NkeInstance)
    (events : List ConnectionEvent) (hadm : (Connection.start addr server).Admissible env events)
    (hresp : let c : Connection := (Connection.start addr server).run env events
      c.server.state = .send ∨ c.server.state = .shutdown ∨ c.serverLog.sent ≠ []) :
    let c : Connection := (Connection.start addr server).run env events
    c.serverLog.received = encodeRecords requestRecords ∧
      c.clientLog.sent = encodeRecords requestRecords ∧
      ∃ keys generateCookie, ∃ m : NkeMessage, c.server.message.data =
        (prepareResponse env keys generateCookie m errorNone nextProtocolNtpv4
          aeadAesSivCmac256).2.data := by
  intro c
  have h := connectionInv_run env events (connectionInv_start env addr server) hadm
  apply h.request
  have hstage := h.server.stage
  rcases hresp with hs | hs | hs
  · rw [hs] at hstage; exact hstage.2
  · rw [hs] at hstage; exact hstage.2
  · revert hstage hs
    cases c.server.state <;> simp only [ServerStage] <;> tauto

/-- Along every run of a connection in which the TLS session delivers what each end
wrote, in order and cut anywhere: once the client has gone on to `KE_SHUTDOWN`, it has
read all the server wrote, and its buffer is the server's: a complete response, with the
head records and `MAX_COOKIES` cookies. -/
theorem client_accepts_whole_response (env : KeEnv) (addr : IPAddr) (server : NkeInstance)
    (events : List ConnectionEvent) (hadm : (Connection.start addr server).Admissible env events)
    (hshut : ((Connection.start addr server).run env events).client.state = .shutdown) :
    let c : Connection := (Connection.start addr server).run env events
    c.client.message.data = c.server.message.data ∧ c.clientLog.received = c.serverLog.sent ∧
      ∃ cookies, (∀ r ∈ responseRecords env cookies, r.Valid) ∧
        c.server.message.data = encodeRecords (responseRecords env cookies) := by
  intro c
  have h := connectionInv_run env events (connectionInv_start env addr server) hadm
  have hstage := h.client.stage
  rw [hshut] at hstage
  obtain ⟨-, hdata, hcomplete⟩ := hstage
  have hread : c.clientLog.received <+: c.server.message.data := h.toClient.trans h.server.written
  -- the server has written something, so it has responded
  have hresp : Responded env c.server.message c.serverLog := by
    have hsent : c.serverLog.sent ≠ [] := fun hnil =>
      (hdata ▸ hcomplete).ne_nil (List.eq_nil_of_prefix_nil (hnil ▸ h.toClient))
    have hstage := h.server.stage
    revert hstage hsent
    cases c.server.state <;> simp only [ServerStage] <;> tauto
  obtain ⟨-, -, keys, generateCookie, m, hresponse⟩ := h.request env hresp
  obtain ⟨cookies, k, hk, hv⟩ :=
    prepareResponse_accept_take env keys generateCookie m
  have hpre : c.client.message.data <+: encodeRecords ((responseRecords env cookies).take k) := by
    rw [hdata, ← hk, ← hresponse]
    exact hread
  have htake := List.take_prefix k (responseRecords env cookies)
  obtain ⟨hfull, hclient⟩ := completeMessage_prefix_eq hcomplete hv htake
    (endOfMessage_not_mem_dropLast env cookies) hpre
  have hserver : c.server.message.data = encodeRecords (responseRecords env cookies) := by
    rw [hresponse, hk, hfull]
  refine ⟨hclient.trans hserver.symm, ?_, cookies, hfull ▸ hv, hserver⟩
  exact h.toClient.eq_of_length (le_antisymm h.toClient.length_le
    (by rw [← hdata, hclient, ← hserver]; exact h.server.written.length_le))

/-! ## A whole exchange -/

/-- The answers a client's TLS session gives in an exchange without a would-block return:
the connection is made, the handshake succeeds, the request is sent at once, and the
server's `response` arrives in one chunk. -/
def exchangeClientIo (response : List UInt8) : Io :=
  ⟨0, .ok, true, .sent maxMessageLength, .received response, [], .ok, none, fun _ _ _ => ⟨[]⟩⟩

/-- The answers a server's TLS session gives in the same exchange: the request arrives in
one chunk, `NKE_GetKeys` returns `keys`, and the response is sent at once. -/
def exchangeServerIo (keys : Option (NkeKey × NkeKey))
    (generateCookie : NkeKey → NkeKey → Nat → NkeCookie) : Io :=
  ⟨0, .ok, true, .sent maxMessageLength, .received (encodeRecords requestRecords), [], .ok, keys,
    generateCookie⟩

/-- A whole exchange: the client connects, completes its handshake and sends its request;
the server completes its handshake, reads the request and sends its response; the client
reads it. -/
def exchangeEvents (client server : Io) : List ConnectionEvent :=
  [⟨.client, .socket .output client⟩, ⟨.client, .socket .output client⟩,
    ⟨.client, .socket .output client⟩, ⟨.server, .socket .input server⟩,
    ⟨.server, .socket .input server⟩, ⟨.server, .socket .output server⟩,
    ⟨.client, .socket .input client⟩]

/-- With exported keys and `NKE_GenerateCookie`'s 100-byte cookies, the exchange is a run
of the connection in which the TLS session delivers what each end wrote, and it leaves
both ends in `KE_SHUTDOWN`. -/
theorem exchange_run (env : KeEnv) (addr : IPAddr) (c2s s2c : NkeKey)
    (generateCookie : NkeKey → NkeKey → Nat → NkeCookie)
    (hlen : ∀ i, (generateCookie c2s s2c i).cookie.length = serverCookieLength) :
    let response := encodeRecords (responseRecords env (generateCookie c2s s2c))
    let events := exchangeEvents (exchangeClientIo response)
      (exchangeServerIo (some (c2s, s2c)) generateCookie)
    (Connection.start addr nkeCreateInstance).Admissible env events ∧
      ((Connection.start addr nkeCreateInstance).run env events).client.state = .shutdown ∧
      ((Connection.start addr nkeCreateInstance).run env events).server.state = .shutdown := by
  intro response events
  have hreq : (encodeRecords requestRecords).length = 16 := by decide
  have hlength : 0 < response.length ∧ response.length ≤ 16384 := by
    have := length_encodeRecords_responseHeadRecords env
    simp only [response, responseRecords, encodeRecords_append, List.length_append,
      length_encodeRecords_cookieRecords hlen, serverCookieLength, maxCookies]
    omega
  have hne : response.isEmpty = false := List.isEmpty_eq_false.mpr (List.ne_nil_of_length_pos hlength.1)
  have hcheckReq : checkMessageFormat ⟨encodeRecords requestRecords, 0, false, 0⟩ =
      (.ok, ⟨encodeRecords requestRecords, 0, false, 16⟩) := by
    rw [checkMessageFormat_encodes ⟨valid_requestRecords, rfl⟩]
    decide
  have hprocess : processRequest env (some (c2s, s2c)) generateCookie
      ⟨encodeRecords requestRecords, 0, false, 16⟩ = (true, ⟨response, 0, false, 0⟩) := by
    rw [processRequest_request env _ _ rfl, prepareResponse_accept env c2s s2c hlen]
  have hcheck : checkMessageFormat ⟨response, 0, false, 0⟩ =
      (.ok, ⟨response, 0, false, response.length⟩) := by
    rw [checkMessageFormat_encodes ⟨valid_responseRecords env hlen, rfl⟩]
    simp [msgFormat, NkeMessage.length, responseRecords, cookieRecords, endOfMessage,
      Nat.pos_iff_ne_zero.mp hlength.1]
  have hR : response.length ≤ 16384 := hlength.2
  -- the connection after each event
  have s1 : (Connection.start addr nkeCreateInstance).step env
      ⟨.client, .socket .output (exchangeClientIo response)⟩ =
      ⟨⟨.client, .handshake, true, true, true, ⟨[], 0, false, 0⟩, addr⟩,
        ⟨.server, .handshake, true, false, true, ⟨[], 0, false, 0⟩, ⟨[]⟩⟩, ⟨[], []⟩, ⟨[], []⟩⟩ := by
    simp only [Connection.start, Connection.step, nkeStep, streamStep, nkeOpenClientConnection,
      acceptServerConnection, nkeCreateInstance, readWriteSocket, updateState, BufferLog.afterIo,
      NkeInstance.advance, exchangeClientIo]
    rfl
  have s2 : Connection.step env ⟨⟨.client, .handshake, true, true, true, ⟨[], 0, false, 0⟩, addr⟩,
        ⟨.server, .handshake, true, false, true, ⟨[], 0, false, 0⟩, ⟨[]⟩⟩, ⟨[], []⟩, ⟨[], []⟩⟩
      ⟨.client, .socket .output (exchangeClientIo response)⟩ =
      ⟨⟨.client, .send, true, true, true, ⟨encodeRecords requestRecords, 0, false, 0⟩, addr⟩,
        ⟨.server, .handshake, true, false, true, ⟨[], 0, false, 0⟩, ⟨[]⟩⟩, ⟨[], []⟩, ⟨[], []⟩⟩ := by
    simp only [Connection.step, nkeStep, streamStep, readWriteSocket, updateState,
      BufferLog.afterIo, NkeInstance.advance, exchangeClientIo, prepareRequest_eq]
    rfl
  have s3 : Connection.step env
      ⟨⟨.client, .send, true, true, true, ⟨encodeRecords requestRecords, 0, false, 0⟩, addr⟩,
        ⟨.server, .handshake, true, false, true, ⟨[], 0, false, 0⟩, ⟨[]⟩⟩, ⟨[], []⟩, ⟨[], []⟩⟩
      ⟨.client, .socket .output (exchangeClientIo response)⟩ =
      ⟨⟨.client, .receive, true, false, true, ⟨[], 0, false, 0⟩, addr⟩,
        ⟨.server, .handshake, true, false, true, ⟨[], 0, false, 0⟩, ⟨[]⟩⟩,
        ⟨encodeRecords requestRecords, []⟩, ⟨[], []⟩⟩ := by
    simp only [Connection.step, nkeStep, streamStep, readWriteSocket, updateState,
      BufferLog.afterIo, NkeInstance.advance, exchangeClientIo, sentBytes, NkeMessage.length, hreq,
      List.drop_zero, List.take_of_length_le (by rw [hreq]; decide : (encodeRecords
        requestRecords).length ≤ maxMessageLength)]
    rfl
  have s4 : Connection.step env ⟨⟨.client, .receive, true, false, true, ⟨[], 0, false, 0⟩, addr⟩,
        ⟨.server, .handshake, true, false, true, ⟨[], 0, false, 0⟩, ⟨[]⟩⟩,
        ⟨encodeRecords requestRecords, []⟩, ⟨[], []⟩⟩
      ⟨.server, .socket .input (exchangeServerIo (some (c2s, s2c)) generateCookie)⟩ =
      ⟨⟨.client, .receive, true, false, true, ⟨[], 0, false, 0⟩, addr⟩,
        ⟨.server, .receive, true, false, true, ⟨[], 0, false, 0⟩, ⟨[]⟩⟩,
        ⟨encodeRecords requestRecords, []⟩, ⟨[], []⟩⟩ := by
    simp only [Connection.step, nkeStep, streamStep, readWriteSocket, updateState,
      BufferLog.afterIo, NkeInstance.advance, exchangeServerIo]
    rfl
  have s5 : Connection.step env ⟨⟨.client, .receive, true, false, true, ⟨[], 0, false, 0⟩, addr⟩,
        ⟨.server, .receive, true, false, true, ⟨[], 0, false, 0⟩, ⟨[]⟩⟩,
        ⟨encodeRecords requestRecords, []⟩, ⟨[], []⟩⟩
      ⟨.server, .socket .input (exchangeServerIo (some (c2s, s2c)) generateCookie)⟩ =
      ⟨⟨.client, .receive, true, false, true, ⟨[], 0, false, 0⟩, addr⟩,
        ⟨.server, .send, true, true, true, ⟨response, 0, false, 0⟩, ⟨[]⟩⟩,
        ⟨encodeRecords requestRecords, []⟩, ⟨[], encodeRecords requestRecords⟩⟩ := by
    simp [Connection.step, nkeStep, streamStep, readWriteSocket, updateState,
      BufferLog.afterIo, NkeInstance.advance, exchangeServerIo, receiveLoop, receivedBytes,
      NkeInstance.appendReceived, NkeMessage.length, hcheckReq, hprocess, List.take_of_length_le,
      show (encodeRecords requestRecords).isEmpty = false from rfl, hreq]
  have s6 : Connection.step env ⟨⟨.client, .receive, true, false, true, ⟨[], 0, false, 0⟩, addr⟩,
        ⟨.server, .send, true, true, true, ⟨response, 0, false, 0⟩, ⟨[]⟩⟩,
        ⟨encodeRecords requestRecords, []⟩, ⟨[], encodeRecords requestRecords⟩⟩
      ⟨.server, .socket .output (exchangeServerIo (some (c2s, s2c)) generateCookie)⟩ =
      ⟨⟨.client, .receive, true, false, true, ⟨[], 0, false, 0⟩, addr⟩,
        ⟨.server, .shutdown, true, true, true, ⟨response, maxMessageLength, false, 0⟩, ⟨[]⟩⟩,
        ⟨encodeRecords requestRecords, []⟩, ⟨response, encodeRecords requestRecords⟩⟩ := by
    simp [Connection.step, nkeStep, streamStep, readWriteSocket, updateState,
      BufferLog.afterIo, NkeInstance.advance, exchangeServerIo, sentBytes, NkeMessage.length,
      List.take_of_length_le hR, Nat.not_lt.mpr hR]
  have s7 : Connection.step env ⟨⟨.client, .receive, true, false, true, ⟨[], 0, false, 0⟩, addr⟩,
        ⟨.server, .shutdown, true, true, true, ⟨response, maxMessageLength, false, 0⟩, ⟨[]⟩⟩,
        ⟨encodeRecords requestRecords, []⟩, ⟨response, encodeRecords requestRecords⟩⟩
      ⟨.client, .socket .input (exchangeClientIo response)⟩ =
      ⟨⟨.client, .shutdown, true, true, true, ⟨response, 0, false, response.length⟩, addr⟩,
        ⟨.server, .shutdown, true, true, true, ⟨response, maxMessageLength, false, 0⟩, ⟨[]⟩⟩,
        ⟨encodeRecords requestRecords, response⟩, ⟨response, encodeRecords requestRecords⟩⟩ := by
    simp [Connection.step, nkeStep, streamStep, readWriteSocket, updateState,
      BufferLog.afterIo, NkeInstance.advance, exchangeClientIo, receiveLoop, receivedBytes,
      NkeInstance.appendReceived, NkeMessage.length, hcheck, List.take_of_length_le hR, hne]
  have hrun : (Connection.start addr nkeCreateInstance).run env events =
      ⟨⟨.client, .shutdown, true, true, true, ⟨response, 0, false, response.length⟩, addr⟩,
        ⟨.server, .shutdown, true, true, true, ⟨response, maxMessageLength, false, 0⟩, ⟨[]⟩⟩,
        ⟨encodeRecords requestRecords, response⟩, ⟨response, encodeRecords requestRecords⟩⟩ := by
    simp only [events, exchangeEvents, Connection.run_cons, Connection.run_nil, s1, s2, s3, s4, s5,
      s6, s7]
  refine ⟨⟨nofun, ?_, ?_, ?_, ?_, ?_, ?_, trivial⟩, by rw [hrun], by rw [hrun]⟩
  · rw [s1]; exact nofun
  · rw [s1, s2]; exact nofun
  · rw [s1, s2, s3]; exact nofun
  · rw [s1, s2, s3, s4]
    intro
    simp [receivedBytes, exchangeServerIo, List.take_of_length_le, hreq, NkeMessage.length]
  · rw [s1, s2, s3, s4, s5]; exact nofun
  · rw [s1, s2, s3, s4, s5, s6]
    intro
    simp [receivedBytes, exchangeClientIo, List.take_of_length_le hR, NkeMessage.length]

/-- With the plain SIV stand-in, the initial key ring and zero nonces and keys, the whole
exchange is a delivering run that leaves the server in `KE_SHUTDOWN`, having answered the
whole request. -/
theorem server_answers_whole_request_exchange :
    let env : KeEnv := ⟨serverCookieLength, ntpPortDefault, fun _ => none⟩
    let key : NkeKey := ⟨List.replicate 32 0⟩
    let generateCookie := fun c2s s2c (_ : Nat) =>
      nkeGenerateCookie SivCmac.plain KeyRing.initial c2s s2c (List.replicate 16 0)
    let events := exchangeEvents
      (exchangeClientIo (encodeRecords (responseRecords env (generateCookie key key))))
      (exchangeServerIo (some (key, key)) generateCookie)
    let c : Connection := (Connection.start ⟨[192, 0, 2, 1]⟩ nkeCreateInstance).run env events
    (Connection.start ⟨[192, 0, 2, 1]⟩ nkeCreateInstance).Admissible env events ∧
      (c.server.state = .send ∨ c.server.state = .shutdown ∨ c.serverLog.sent ≠ []) ∧
      c.serverLog.received = encodeRecords requestRecords ∧
      c.clientLog.sent = encodeRecords requestRecords ∧
      ∃ keys generateCookie, ∃ m : NkeMessage, c.server.message.data =
        (prepareResponse env keys generateCookie m errorNone nextProtocolNtpv4
          aeadAesSivCmac256).2.data := by
  intro env key generateCookie events c
  obtain ⟨hadm, -, hserver⟩ := exchange_run env ⟨[192, 0, 2, 1]⟩ key key generateCookie
    (fun _ => length_nkeGenerateCookie _ _ (List.length_replicate 32 0) (List.length_replicate 32 0)
      (List.length_replicate 16 0))
  exact ⟨hadm, .inr (.inl hserver),
    server_answers_whole_request env _ nkeCreateInstance events hadm (.inr (.inl hserver))⟩

/-- In the same exchange the client reaches `KE_SHUTDOWN` with the server's response. -/
theorem client_accepts_whole_response_exchange :
    let env : KeEnv := ⟨serverCookieLength, ntpPortDefault, fun _ => none⟩
    let key : NkeKey := ⟨List.replicate 32 0⟩
    let generateCookie := fun c2s s2c (_ : Nat) =>
      nkeGenerateCookie SivCmac.plain KeyRing.initial c2s s2c (List.replicate 16 0)
    let events := exchangeEvents
      (exchangeClientIo (encodeRecords (responseRecords env (generateCookie key key))))
      (exchangeServerIo (some (key, key)) generateCookie)
    let c : Connection := (Connection.start ⟨[192, 0, 2, 1]⟩ nkeCreateInstance).run env events
    (Connection.start ⟨[192, 0, 2, 1]⟩ nkeCreateInstance).Admissible env events ∧
      c.client.state = .shutdown ∧
      c.client.message.data = c.server.message.data ∧ c.clientLog.received = c.serverLog.sent ∧
      ∃ cookies, (∀ r ∈ responseRecords env cookies, r.Valid) ∧
        c.server.message.data = encodeRecords (responseRecords env cookies) := by
  intro env key generateCookie events c
  obtain ⟨hadm, hclient, -⟩ := exchange_run env ⟨[192, 0, 2, 1]⟩ key key generateCookie
    (fun _ => length_nkeGenerateCookie _ _ (List.length_replicate 32 0) (List.length_replicate 32 0)
      (List.length_replicate 16 0))
  exact ⟨hadm, hclient, client_accepts_whole_response env _ nkeCreateInstance events hadm hclient⟩

/-! ## Every cutting of the response -/

theorem appendReceived_append (inst : NkeInstance) {b c : List UInt8} (hb : b ≠ []) (hc : c ≠ []) :
    (inst.appendReceived b).appendReceived c = inst.appendReceived (b ++ c) := by
  obtain ⟨x, xs, rfl⟩ := List.exists_cons_of_ne_nil hb
  obtain ⟨y, ys, rfl⟩ := List.exists_cons_of_ne_nil hc
  simp [NkeInstance.appendReceived]

/-- One handler call draining the nonempty pieces `b :: parts` of a chunk, for which the
buffer has room: the receive loop appends them all and ends by itself. -/
theorem receiveLoop_parts : ∀ {inst : NkeInstance} {b : List UInt8} {parts : List (List UInt8)},
    (∀ p ∈ b :: parts, p ≠ []) →
      inst.message.length + (b :: parts).flatten.length ≤ maxMessageLength →
      receiveLoop inst (.received b) (parts.map .received) =
        (inst.appendReceived (b :: parts).flatten, true)
  | inst, b, [], hne, hroom => by
    have hb := List.length_pos.mpr (hne b (List.mem_cons_self _ _))
    simp only [List.flatten_cons, List.flatten_nil, List.append_nil] at hroom ⊢
    simp only [receiveLoop, List.map_nil, if_neg (show ¬maxMessageLength ≤ inst.message.length by
      omega), List.take_of_length_le (show b.length ≤ maxMessageLength - inst.message.length by
      omega)]
  | inst, b, p :: parts, hne, hroom => by
    have hb := hne b (List.mem_cons_self _ _)
    have hrest : ∀ q ∈ p :: parts, q ≠ [] := fun q hq => hne q (List.mem_cons_of_mem _ hq)
    have hlen := List.length_pos.mpr hb
    rw [List.flatten_cons, List.length_append] at hroom
    rw [List.map_cons, receiveLoop, if_neg (by omega)]
    dsimp only
    rw [List.take_of_length_le (by omega), receiveLoop_parts hrest
      (by simp only [NkeInstance.appendReceived, NkeMessage.length, List.length_append] at hroom ⊢
          omega),
      appendReceived_append inst hb (by simp [hrest p (List.mem_cons_self _ _)])]
    rfl

/-- A handler call reading the nonempty pieces `b :: parts` on an instance in `KE_RECEIVE`
with room for them: the bytes are appended and `update_state` follows. -/
theorem nkeStep_reads (env : KeEnv) {inst : NkeInstance} (hs : inst.state = .receive)
    (hreg : inst.registered = true) {io : Io} {b : List UInt8} {parts : List (List UInt8)}
    (hrecv : io.recv = .received b) (hpend : io.pending = parts.map .received)
    (hne : ∀ p ∈ b :: parts, p ≠ [])
    (hroom : inst.message.length + (b :: parts).flatten.length ≤ maxMessageLength) :
    nkeStep env inst (.socket .input io) =
      updateState env io (inst.appendReceived (b :: parts).flatten) := by
  simp only [nkeStep, hreg, if_true, readWriteSocket, hs, hrecv, hpend, receiveLoop_parts hne hroom]

/-- Socket events leave an instance whose handler is removed as it is. -/
theorem nkeRun_unregistered (env : KeEnv) {inst : NkeInstance} (hreg : inst.registered = false) :
    ∀ ios : List Io, nkeRun env inst (ios.map (.socket .input)) = inst
  | [] => rfl
  | io :: ios => by
    rw [List.map_cons, nkeRun_cons, nkeStep, if_neg (by simp [hreg])]
    exact nkeRun_unregistered env hreg ios

/-- A prefix of a message of records that ends inside a record is `MSG_INCOMPLETE` while
the peer has not closed, whatever the buffer's other fields. -/
theorem checkMessageFormat_incomplete_of_cut {rs : List NkeRecord} (hv : ∀ r ∈ rs, r.Valid)
    {n : Nat} (hn : n < (encodeRecords rs).length) (hcut : CutsRecord rs n) {m : NkeMessage}
    (hm : m.data = (encodeRecords rs).take n) (heof : m.eof = false) :
    (checkMessageFormat m).1 = .incomplete := by
  obtain ⟨-, hget, -, -⟩ := getRecords_spec (resetMessageParsing m)
  have hlen : m.data.length = n := by rw [hm, List.length_take]; omega
  have hlt := getRecords_parsed_lt_of_cut hv hn hcut (m := resetMessageParsing m) (by simp [hm])
  rw [hget] at hlt
  rw [checkMessageFormat_eq, hget, msgFormat.eq_def, if_pos]
  · simp [heof]
  · simp only [NkeMessage.length, resetMessageParsing_data, resetMessageParsing_parsed,
      Nat.zero_add, hlen] at hlt ⊢
    exact .inr hlt

theorem getLast?_take_ne_endOfMessage {rs : List NkeRecord} (honly : endOfMessage ∉ rs.dropLast)
    {k : Nat} (hk : k < rs.length) : (rs.take k).getLast? ≠ some endOfMessage := fun h => by
  apply honly
  rw [List.dropLast_eq_take]
  have hpre := List.take_prefix_take_left rs (show k ≤ rs.length - 1 by omega)
  exact hpre.subset (List.mem_of_getLast?_eq_some h)

/-- A nonempty proper prefix of a message whose only End-of-Message is its last record,
cut between two records, is `MSG_ERROR`. -/
theorem checkMessageFormat_boundary_error {rs : List NkeRecord} (hv : ∀ r ∈ rs, r.Valid)
    (honly : endOfMessage ∉ rs.dropLast) {m : NkeMessage} (hm : m.data <+: encodeRecords rs)
    (hne : m.data ≠ []) (hlt : m.data.length < (encodeRecords rs).length)
    (hcut : ¬CutsRecord rs m.data.length) : (checkMessageFormat m).1 = .error := by
  obtain ⟨k, hk⟩ : ∃ k, (encodeRecords (rs.take k)).length = m.data.length := by
    simpa [CutsRecord] using hcut
  have hk0 : 0 < k := Nat.pos_of_ne_zero fun h0 => hne (List.length_eq_zero.mp (by simp [← hk, h0]))
  have hkl : k < rs.length := by
    by_contra hge
    rw [List.take_of_length_le (by omega)] at hk
    omega
  have htake := List.prefix_iff_eq_take.mp hm
  have hmsg : m = ⟨(encodeRecords rs).take (encodeRecords (rs.take k)).length, m.sent, m.eof,
      m.parsed⟩ := by rw [hk, ← htake]
  rw [hmsg, checkMessageFormat_prefix_at_boundary (M := ⟨encodeRecords rs, 0, false, 0⟩) ⟨hv, rfl⟩
    hk0 hkl.le m.sent m.parsed m.eof, if_neg (getLast?_take_ne_endOfMessage honly hkl)]

/-- `update_state` in `KE_RECEIVE`, for both modes: wait for more on an incomplete
message, close on a malformed one, and on a whole one move the client to `KE_SHUTDOWN`
and the server, with the answer of `process_request`, to `KE_SEND`. -/
theorem updateState_receive (env : KeEnv) (io : Io) (inst : NkeInstance)
    (hs : inst.state = .receive) (hm : inst.mode ≠ .unknown) :
    updateState env io inst =
      match checkMessageFormat inst.message with
      | (.incomplete, m) => { inst with message := m }
      | (.ok, m) =>
        if inst.mode = .client then { inst with message := m }.advance .shutdown true
        else { inst with message := (processRequest env io.keys io.generateCookie m).2 }.advance
          .send true
      | (.error, m) => closeConnection { inst with message := m } := by
  obtain ⟨mode, state, _, _, _, _, _⟩ := inst
  cases hs
  cases mode
  · exact absurd rfl hm
  all_goals
    dsimp only [updateState]
    rcases checkMessageFormat _ with ⟨_ | _ | _, m⟩ <;> rfl

theorem appendReceived_eq (inst : NkeInstance) (bytes : List UInt8) :
    inst.appendReceived bytes = { inst with message := ⟨inst.message.data ++ bytes,
      inst.message.sent, bytes.isEmpty || inst.message.eof, inst.message.parsed⟩ } := rfl

/-- `ios` are the calls of the handler that read `chunks`, one chunk a call: its
`gnutls_record_recv` calls return the pieces of the chunk, none empty, the first one and
then one while `gnutls_record_check_pending` reports more. -/
def ReadsOf (ios : List Io) (chunks : List (List UInt8)) : Prop :=
  List.Forall₂ (fun io c => ∃ b parts, io.recv = .received b ∧
    io.pending = parts.map .received ∧ (∀ p ∈ b :: parts, p ≠ []) ∧ (b :: parts).flatten = c)
    ios chunks

theorem ReadsOf.ne_nil : ∀ {ios : List Io} {chunks : List (List UInt8)}, ReadsOf ios chunks →
    ∀ c ∈ chunks, c ≠ []
  | _, _, .nil => nofun
  | _, _, .cons ⟨b, _, _, _, hne, hc⟩ hrest => by
    rintro c (_ | ⟨_, hmem⟩)
    · rw [← hc, List.flatten_cons]
      simp [hne b (List.mem_cons_self _ _)]
    · exact ReadsOf.ne_nil hrest c hmem

/-- The cuts after the chunks `c :: cs`, from the bytes `d` on: the one after `c`, then the
cuts after `cs` from `d ++ c` on. -/
theorem forall_cuts_cons_iff {Q : Nat → Prop} {d c : List UInt8} {cs : List (List UInt8)}
    (hcs : cs ≠ []) :
    (∀ k, 0 < k → k < cs.length + 1 → Q (d ++ ((c :: cs).take k).flatten).length) ↔
      Q (d ++ c).length ∧ ∀ k, 0 < k → k < cs.length → Q (d ++ c ++ (cs.take k).flatten).length := by
  have hlen := List.length_pos.mpr hcs
  constructor
  · intro h
    refine ⟨by simpa using h 1 Nat.one_pos (by omega), fun k hk hkl => ?_⟩
    simpa using h (k + 1) (by omega) (by omega)
  · rintro ⟨h1, h⟩ (_ | _ | k) hk hkl
    · omega
    · simpa using h1
    · simpa using h (k + 1) (by omega) (by omega)

section Cutting

variable (env : KeEnv) {rs : List NkeRecord} (hv : ∀ r ∈ rs, r.Valid)
  (hend : rs.getLast? = some endOfMessage) (honly : endOfMessage ∉ rs.dropLast)
  (hfit : (encodeRecords rs).length ≤ maxMessageLength)

include hv honly hfit in
/-- The reads on an instance waiting in `KE_RECEIVE` with a prefix of a message: with every
later cut inside a record the last read hands `update_state` the whole message, and with
a cut between two records the instance ends in `KE_CLOSED`. -/
theorem nkeRun_reads : ∀ {ios : List Io} {chunks : List (List UInt8)}, ReadsOf ios chunks →
    ∀ inst : NkeInstance, inst.state = .receive → inst.mode ≠ .unknown →
      inst.registered = true → inst.message.eof = false →
      inst.message.data ++ chunks.flatten = encodeRecords rs → chunks ≠ [] →
      (∀ c ∈ chunks, c ≠ []) →
      ((∀ k, 0 < k → k < chunks.length →
          CutsRecord rs (inst.message.data ++ (chunks.take k).flatten).length) →
        ∃ io p, ios.getLast? = some io ∧ nkeRun env inst (ios.map (.socket .input)) =
          updateState env io
            { inst with message := ⟨encodeRecords rs, inst.message.sent, false, p⟩ }) ∧
      ((∃ k, 0 < k ∧ k < chunks.length ∧
          ¬CutsRecord rs (inst.message.data ++ (chunks.take k).flatten).length) →
        (nkeRun env inst (ios.map (.socket .input))).state = .closed)
  | _, _, .nil, _, _, _, _, _, _, hne, _ => absurd rfl hne
  | io :: ios, c :: chunks, .cons ⟨b, parts, hrecv, hpend, hparts, hbc⟩ hrest, inst, hs, hmode, hreg,
      heof, hdata, _, hnes => by
    have hc : c ≠ [] := hnes c (List.mem_cons_self _ _)
    have hR : (encodeRecords rs).length =
        inst.message.length + c.length + chunks.flatten.length := by
      simp [← hdata, NkeMessage.length, Nat.add_assoc]
    have heofc : (c.isEmpty || inst.message.eof) = false := by
      simp [heof, List.isEmpty_iff, hc]
    rw [List.map_cons, nkeRun_cons, nkeStep_reads env hs hreg hrecv hpend hparts (by rw [hbc]; omega), hbc]
    rcases eq_or_ne chunks [] with rfl | hmore
    · -- the last read completes the message
      cases hrest
      refine ⟨fun _ => ⟨io, inst.message.parsed, rfl, ?_⟩,
        fun ⟨k, hk, hk1, _⟩ => absurd hk1 (by simp; omega)⟩
      rw [List.map_nil, nkeRun_nil, appendReceived_eq, heofc, show inst.message.data ++ c = encodeRecords rs by
        simpa using hdata]
    · have hflat : chunks.flatten ≠ [] := fun h => by
        obtain ⟨c', hc'⟩ := List.exists_mem_of_ne_nil _ hmore
        exact hnes c' (List.mem_cons_of_mem _ hc') (List.flatten_eq_nil_iff.mp h c' hc')
      have hlt : (inst.message.data ++ c).length < (encodeRecords rs).length := by
        have := List.length_pos.mpr hflat
        simp only [List.length_append, NkeMessage.length] at hR ⊢
        omega
      have hpre : inst.message.data ++ c <+: encodeRecords rs :=
        ⟨chunks.flatten, by simpa using hdata⟩
      have hd1 : (inst.appendReceived c).message.data = inst.message.data ++ c := rfl
      have htake : (inst.appendReceived c).message.data =
          (encodeRecords rs).take (inst.message.data ++ c).length := by
        rw [hd1, ← List.prefix_iff_eq_take.mp hpre]
      obtain ⟨p, -, hsnd⟩ := checkMessageFormat_snd (inst.appendReceived c).message
      rw [updateState_receive env io (inst.appendReceived c) hs hmode]
      by_cases hcut : CutsRecord rs (inst.message.data ++ c).length
      · -- cut inside a record: the instance waits for more
        have hinc := checkMessageFormat_incomplete_of_cut hv hlt hcut htake heofc
        rcases hcmf : checkMessageFormat (inst.appendReceived c).message with ⟨_ | _ | _, m⟩ <;>
          rw [hcmf] at hinc hsnd <;> cases hinc
        dsimp only at hsnd
        subst hsnd
        obtain ⟨ih1, ih2⟩ := nkeRun_reads hrest
          { inst.appendReceived c with message := { (inst.appendReceived c).message with parsed := p } }
          hs hmode hreg heofc
          (show (inst.message.data ++ c) ++ chunks.flatten = _ by simpa using hdata) hmore
          (fun c' hc' => hnes c' (List.mem_cons_of_mem _ hc'))
        refine ⟨fun hall => ?_, fun ⟨k, hk, hkl, hnot⟩ => ih2 ?_⟩
        · obtain ⟨io', p', hlast, hrun⟩ := ih1 ((forall_cuts_cons_iff hmore).mp hall).2
          refine ⟨io', p', ?_, hrun⟩
          rw [List.getLast?_cons, hlast]
          rfl
        · by_contra hno
          simp only [not_exists, not_and, not_not] at hno
          exact hnot ((forall_cuts_cons_iff hmore).mpr ⟨hcut, hno⟩ k hk hkl)
      · -- cut between two records: the prefix is rejected and the connection closed
        have herr := checkMessageFormat_boundary_error hv honly (m := (inst.appendReceived c).message)
          (by rw [hd1]; exact hpre) (by simp [hd1, hc]) (by rwa [hd1]) (by rwa [hd1])
        rcases hcmf : checkMessageFormat (inst.appendReceived c).message with ⟨_ | _ | _, m⟩ <;>
          rw [hcmf] at herr <;> cases herr
        have hclosed : (closeConnection { inst.appendReceived c with message := m }).registered =
            false := by simp [closeConnection, NkeInstance.appendReceived, hs]
        rw [nkeRun_unregistered env hclosed]
        exact ⟨fun hall => absurd ((forall_cuts_cons_iff hmore).mp hall).1 hcut,
          fun _ => closeConnection_state _⟩

include hv hend honly hfit in
/-- `nkeRun_reads` from an empty buffer. -/
theorem nkeRun_reads_of_empty {inst : NkeInstance} (hstate : inst.state = .receive)
    (hmode : inst.mode ≠ .unknown) (hreg : inst.registered = true)
    (hempty : inst.message.data = []) (heof : inst.message.eof = false) {ios : List Io}
    {chunks : List (List UInt8)} (hios : ReadsOf ios chunks)
    (hflat : chunks.flatten = encodeRecords rs) :
    ((∀ k, 0 < k → k < chunks.length → CutsRecord rs (chunks.take k).flatten.length) →
        ∃ io p, ios.getLast? = some io ∧ nkeRun env inst (ios.map (.socket .input)) =
          updateState env io
            { inst with message := ⟨encodeRecords rs, inst.message.sent, false, p⟩ }) ∧
      ((∃ k, 0 < k ∧ k < chunks.length ∧ ¬CutsRecord rs (chunks.take k).flatten.length) →
        (nkeRun env inst (ios.map (.socket .input))).state = .closed) := by
  have hchunks : chunks ≠ [] := by
    rintro rfl
    obtain ⟨r, rs', rfl⟩ := List.exists_cons_of_ne_nil fun h : rs = [] => by simp [h] at hend
    have hlen := congrArg List.length hflat
    simp at hlen
    omega
  simpa only [hempty, List.nil_append] using
    nkeRun_reads env hv honly hfit hios inst hstate hmode hreg heof
      (by rw [hempty, hflat, List.nil_append]) hchunks hios.ne_nil

include hv hend in
/-- The whole message passes `check_message_format`, whatever its other fields. -/
theorem checkMessageFormat_whole (sent parsed : Nat) :
    ∃ m, checkMessageFormat ⟨encodeRecords rs, sent, false, parsed⟩ = (.ok, m) ∧
      m.data = encodeRecords rs := by
  have hok := checkMessageFormat_of_encodes (m := ⟨encodeRecords rs, sent, false, parsed⟩)
    ⟨hv, rfl⟩ (fun h => by simp [h] at hend)
  rw [if_pos hend] at hok
  exact ⟨_, Prod.ext hok rfl, checkMessageFormat_data _⟩

end Cutting

/-- A response of valid records that ends, and only ends, with End-of-Message and fits the
buffer, read in chunks by the calls of the handler on a client waiting in `KE_RECEIVE`
with an empty buffer, each call draining the TLS records pending: when every cut between
two calls falls strictly inside a record, the client ends in `KE_SHUTDOWN` holding the
whole response; when one falls between two records, `check_message_format` takes that
prefix for a whole message without End-of-Message and the client ends in `KE_CLOSED`.
Cuts between the reads of one call do not matter. -/
theorem client_reads_response_in_pieces (env : KeEnv) {rs : List NkeRecord}
    (hv : ∀ r ∈ rs, r.Valid) (hend : rs.getLast? = some endOfMessage)
    (honly : endOfMessage ∉ rs.dropLast) (hfit : (encodeRecords rs).length ≤ maxMessageLength)
    {inst : NkeInstance} (hmode : inst.mode = .client) (hstate : inst.state = .receive)
    (hreg : inst.registered = true) (hempty : inst.message.data = [])
    (heof : inst.message.eof = false) {ios : List Io} {chunks : List (List UInt8)}
    (hios : ReadsOf ios chunks) (hflat : chunks.flatten = encodeRecords rs) :
    ((∀ k, 0 < k → k < chunks.length → CutsRecord rs (chunks.take k).flatten.length) →
      (nkeRun env inst (ios.map (.socket .input))).state = .shutdown ∧
        (nkeRun env inst (ios.map (.socket .input))).message.data = encodeRecords rs) ∧
    ((∃ k, 0 < k ∧ k < chunks.length ∧ ¬CutsRecord rs (chunks.take k).flatten.length) →
      (nkeRun env inst (ios.map (.socket .input))).state = .closed) := by
  obtain ⟨hwhole, hcut⟩ := nkeRun_reads_of_empty env hv hend honly hfit hstate
    (by rw [hmode]; decide) hreg hempty heof hios hflat
  refine ⟨fun hall => ?_, hcut⟩
  obtain ⟨io, p, -, hrun⟩ := hwhole hall
  obtain ⟨m, hok, hdata⟩ := checkMessageFormat_whole hv hend inst.message.sent p
  rw [hrun, updateState_receive env io
    { inst with message := ⟨encodeRecords rs, inst.message.sent, false, p⟩ } hstate
    (by rw [hmode]; decide)]
  simp only [hok, hmode, if_true]
  exact ⟨rfl, hdata⟩

/-- A Next-Protocol record and End-of-Message, read in two pieces: cut inside the first
header the client accepts the response, cut between the two records it closes. -/
theorem client_reads_response_in_pieces_two_cuts :
    let env : KeEnv := ⟨serverCookieLength, ntpPortDefault, fun _ => none⟩
    let rs : List NkeRecord := [⟨true, recordNextProtocol, [0, 0]⟩, endOfMessage]
    let io := fun c : List UInt8 => (⟨0, .ok, true, .sent 0, .received c, [], .ok, none,
      fun _ _ _ => ⟨[]⟩⟩ : Io)
    let inst : NkeInstance := ⟨.client, .receive, true, false, true, ⟨[], 0, false, 0⟩, ⟨[]⟩⟩
    let run := fun n => nkeRun env inst ([io ((encodeRecords rs).take n),
      io ((encodeRecords rs).drop n)].map (.socket .input))
    (run 3).state = .shutdown ∧ (run 6).state = .closed := by
  intro env rs io inst run
  have hv : ∀ r ∈ rs, r.Valid := by decide
  have hend : rs.getLast? = some endOfMessage := rfl
  have honly : endOfMessage ∉ rs.dropLast := by decide
  have hfit : (encodeRecords rs).length ≤ maxMessageLength := by decide
  have hreads : ∀ n, (encodeRecords rs).take n ≠ [] → (encodeRecords rs).drop n ≠ [] →
      ReadsOf [io ((encodeRecords rs).take n), io ((encodeRecords rs).drop n)]
        [(encodeRecords rs).take n, (encodeRecords rs).drop n] := fun _ h1 h2 =>
    .cons ⟨_, [], rfl, rfl, by simpa using h1, by simp⟩
      (.cons ⟨_, [], rfl, rfl, by simpa using h2, by simp⟩ .nil)
  have hpieces := fun n h1 h2 =>
    @client_reads_response_in_pieces env rs hv hend honly hfit inst rfl rfl rfl rfl rfl _ _
      (hreads n h1 h2) (by simp)
  refine ⟨((hpieces 3 (by decide) (by decide)).1 fun k hk hk2 => ?_).1,
    (hpieces 6 (by decide) (by decide)).2 ⟨1, Nat.one_pos, Nat.one_lt_two, fun h => h 1 rfl⟩⟩
  obtain rfl : k = 1 := by simp at hk2; omega
  rintro (_ | _ | j) <;> simp [rs, endOfMessage]

/-- A request of valid records that ends, and only ends, with End-of-Message and fits the
buffer, read in chunks by the calls of the handler on a server waiting in `KE_RECEIVE`
with an empty buffer: when every cut between two calls falls strictly inside a record,
the server ends in `KE_SEND` holding the answer `process_request` builds for the whole
request, with the keys of the last call; when one falls between two records, it ends in
`KE_CLOSED` without answering. -/
theorem server_reads_request_in_pieces (env : KeEnv) {rs : List NkeRecord}
    (hv : ∀ r ∈ rs, r.Valid) (hend : rs.getLast? = some endOfMessage)
    (honly : endOfMessage ∉ rs.dropLast) (hfit : (encodeRecords rs).length ≤ maxMessageLength)
    {inst : NkeInstance} (hmode : inst.mode = .server) (hstate : inst.state = .receive)
    (hreg : inst.registered = true) (hempty : inst.message.data = [])
    (heof : inst.message.eof = false) {ios : List Io} {chunks : List (List UInt8)}
    (hios : ReadsOf ios chunks) (hflat : chunks.flatten = encodeRecords rs) :
    ((∀ k, 0 < k → k < chunks.length → CutsRecord rs (chunks.take k).flatten.length) →
      ∃ io, ios.getLast? = some io ∧
        (nkeRun env inst (ios.map (.socket .input))).state = .send ∧
        (nkeRun env inst (ios.map (.socket .input))).message.data =
          (processRequest env io.keys io.generateCookie ⟨encodeRecords rs, 0, false, 0⟩).2.data) ∧
    ((∃ k, 0 < k ∧ k < chunks.length ∧ ¬CutsRecord rs (chunks.take k).flatten.length) →
      (nkeRun env inst (ios.map (.socket .input))).state = .closed) := by
  obtain ⟨hwhole, hcut⟩ := nkeRun_reads_of_empty env hv hend honly hfit hstate
    (by rw [hmode]; decide) hreg hempty heof hios hflat
  refine ⟨fun hall => ?_, hcut⟩
  obtain ⟨io, p, hlast, hrun⟩ := hwhole hall
  obtain ⟨m, hok, hdata⟩ := checkMessageFormat_whole hv hend inst.message.sent p
  refine ⟨io, hlast, ?_⟩
  rw [hrun, updateState_receive env io
    { inst with message := ⟨encodeRecords rs, inst.message.sent, false, p⟩ } hstate
    (by rw [hmode]; decide)]
  simp only [hok, hmode, reduceCtorEq, if_false]
  rw [processRequest_of_data env io.keys io.generateCookie (m := ⟨encodeRecords rs, 0, false, 0⟩)
    ⟨hv, rfl⟩ hdata]
  exact ⟨rfl, rfl⟩

/-- The request of `prepare_request` read in two pieces: cut inside the first header the
server answers it, cut between the Next-Protocol and the AEAD record it closes. -/
theorem server_reads_request_in_pieces_two_cuts :
    let env : KeEnv := ⟨serverCookieLength, ntpPortDefault, fun _ => none⟩
    let io := fun c : List UInt8 => (⟨0, .ok, true, .sent 0, .received c, [], .ok, none,
      fun _ _ _ => ⟨[]⟩⟩ : Io)
    let inst : NkeInstance := ⟨.server, .receive, true, false, true, ⟨[], 0, false, 0⟩, ⟨[]⟩⟩
    let run := fun n => nkeRun env inst ([io ((encodeRecords requestRecords).take n),
      io ((encodeRecords requestRecords).drop n)].map (.socket .input))
    (run 3).state = .send ∧ (run 6).state = .closed := by
  intro env io inst run
  have hend : requestRecords.getLast? = some endOfMessage := rfl
  have honly : endOfMessage ∉ requestRecords.dropLast := by decide
  have hfit : (encodeRecords requestRecords).length ≤ maxMessageLength := by decide
  have hreads : ∀ n, (encodeRecords requestRecords).take n ≠ [] →
      (encodeRecords requestRecords).drop n ≠ [] →
      ReadsOf [io ((encodeRecords requestRecords).take n),
        io ((encodeRecords requestRecords).drop n)]
        [(encodeRecords requestRecords).take n, (encodeRecords requestRecords).drop n] :=
    fun _ h1 h2 => .cons ⟨_, [], rfl, rfl, by simpa using h1, by simp⟩
      (.cons ⟨_, [], rfl, rfl, by simpa using h2, by simp⟩ .nil)
  have hpieces := fun n h1 h2 =>
    @server_reads_request_in_pieces env requestRecords valid_requestRecords hend honly hfit inst
      rfl rfl rfl rfl rfl _ _ (hreads n h1 h2) (by simp)
  obtain ⟨_, -, hsend, -⟩ := (hpieces 3 (by decide) (by decide)).1 fun k hk hk2 => by
    obtain rfl : k = 1 := by simp at hk2; omega
    rintro (_ | _ | _ | j) <;> simp [requestRecords, endOfMessage]
  exact ⟨hsend, (hpieces 6 (by decide) (by decide)).2
    ⟨1, Nat.one_pos, Nat.one_lt_two, fun h => h 1 rfl⟩⟩

end ChronyNts.KeyExchange
