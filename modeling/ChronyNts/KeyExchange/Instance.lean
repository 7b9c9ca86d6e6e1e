import ChronyNts.KeyExchange.Exchange

/-!
# The NTS-KE instance

`struct NKE_Instance_Record` and the functions that move it: `NKE_CreateInstance`,
`NKE_OpenClientConnection`, `accept_server_connection`, the file handler
`read_write_socket` with `update_state`, `close_connection` and
`session_timeout`; and the two readers of a client's response, `NKE_GetCookies`
and `NKE_GetNtpAddress`.

`read_write_socket` performs the state's I/O and, when it completes, calls
`update_state`, which checks the state's condition and moves on:

| state         | I/O completes when                 | `update_state`, client           | `update_state`, server             |
|---------------|------------------------------------|----------------------------------|------------------------------------|
| `WAIT_CONNECT`| output event, `SO_ERROR` = 0       | to `HANDSHAKE`                   | to `HANDSHAKE`                     |
| `HANDSHAKE`   | `gnutls_handshake` succeeds        | ALPN, `prepare_request`, `SEND`  | ALPN, to `RECEIVE`                 |
| `SEND`        | every byte is sent                 | reset the buffer, to `RECEIVE`   | to `SHUTDOWN`                      |
| `RECEIVE`     | no more data is pending            | `MSG_OK`: to `SHUTDOWN`          | `MSG_OK`, `process_request`: `SEND`|
| `SHUTDOWN`    | `gnutls_bye` succeeds              | close                            | close                              |

A fatal error, a failed check and the session timeout close the connection.

The socket and the TLS session are the environment: what `get_socket_error`,
`gnutls_handshake`, `gnutls_record_send`, `gnutls_record_recv` and `gnutls_bye`
return during one call of the handler, with `check_alpn` and what
`process_request` obtains from `NKE_GetKeys` and `NKE_GenerateCookie`, is an `Io`.
-/

namespace ChronyNts.KeyExchange

/-! ## The instance record -/

/-- `NtsKeMode`. -/
inductive NtsKeMode
  | unknown
  | server
  | client
deriving DecidableEq, Repr

/-- `NtsKeState`. -/
inductive NtsKeState
  | waitConnect
  | handshake
  | send
  | receive
  | shutdown
  | closed
deriving DecidableEq, Repr

/-- `struct NKE_Instance_Record`.  `registered` says that `sock_fd` is valid and
`read_write_socket` is its file handler, whose `SCH_FILE_OUTPUT` flag is `output`;
`timeoutPending` says that `timeout_id ≠ 0`. -/
structure NkeInstance where
  mode : NtsKeMode
  state : NtsKeState
  registered : Bool
  output : Bool
  timeoutPending : Bool
  message : NkeMessage
  remoteAddr : IPAddr
deriving DecidableEq, Repr

/-- `NKE_CreateInstance`.  The C leaves `remote_addr` uninitialised; it is read only after
`NKE_OpenClientConnection` has set it. -/
def nkeCreateInstance : NkeInstance :=
  ⟨.unknown, .closed, false, false, false, resetMessage ⟨[], 0, false, 0⟩, ⟨[]⟩⟩

/-- The assignments `inst->state = next_state` and the output flag of the file handler
that end `update_state`. -/
def NkeInstance.advance (inst : NkeInstance) (next : NtsKeState) (enableOutput : Bool) :
    NkeInstance :=
  { inst with state := next, output := enableOutput }

/-- `close_connection`: remove the timeout and the file handler, and close. -/
def closeConnection (inst : NkeInstance) : NkeInstance :=
  if inst.state = .closed then inst
  else { inst with timeoutPending := false, registered := false, state := .closed }

/-- `session_timeout`. -/
def sessionTimeout (inst : NkeInstance) : NkeInstance :=
  closeConnection { inst with timeoutPending := false }

/-- `NKE_OpenClientConnection` on a closed instance; `ok` is whether `prepare_socket` and
`create_session` succeed, and the C returns it.  The buffer is not reset. -/
def nkeOpenClientConnection (inst : NkeInstance) (addr : IPAddr) (ok : Bool) :
    Bool × NkeInstance :=
  if !ok then (false, inst)
  else
    (true, { inst with
      mode := .client, state := .waitConnect, registered := true, output := true,
      timeoutPending := true, remoteAddr := addr })

/-- `accept_server_connection` on a closed instance; `ok` is whether `create_session`
succeeds, and the C returns it. -/
def acceptServerConnection (inst : NkeInstance) (ok : Bool) : Bool × NkeInstance :=
  if !ok then (false, inst)
  else
    (true, { inst with
      mode := .server, state := .handshake, registered := true, output := false,
      timeoutPending := true, message := resetMessage inst.message })

/-! ## What the environment answers -/

/-- The result of `gnutls_handshake` or `gnutls_bye`: success, an error that is not
fatal (with `gnutls_record_get_direction`), or a fatal error. -/
inductive TlsResult
  | ok
  | again (direction : Bool)
  | fatal
deriving DecidableEq, Repr

/-- The result of `gnutls_record_send`: a number of bytes, or an error. -/
inductive SendResult
  | sent (r : Nat)
  | error (fatal : Bool)
deriving DecidableEq, Repr

/-- The result of `gnutls_record_recv`: the bytes written into the buffer (none at the
end of the stream), or an error. -/
inductive RecvResult
  | received (bytes : List UInt8)
  | error (fatal : Bool)
deriving DecidableEq, Repr

/-- `SCH_FILE_INPUT` or `SCH_FILE_OUTPUT`. -/
inductive FileEvent
  | input
  | output
deriving DecidableEq, Repr

/-- The answers of the socket, the TLS session and the server's cookie code during one
call of `read_write_socket`: `get_socket_error`, `gnutls_handshake`, `check_alpn`,
`gnutls_record_send`, the first `gnutls_record_recv` and those made while
`gnutls_record_check_pending` reports more, `gnutls_bye`, and for `process_request`
`NKE_GetKeys` and `NKE_GenerateCookie`.  Each state reads only its own. -/
structure Io where
  socketError : Nat
  handshake : TlsResult
  alpn : Bool
  send : SendResult
  recv : RecvResult
  pending : List RecvResult
  bye : TlsResult
  keys : Option (NkeKey × NkeKey)
  generateCookie : NkeKey → NkeKey → Nat → NkeCookie

/-! ## `update_state` and `read_write_socket` -/

section Handler

variable (env : KeEnv) (io : Io)

/-- `update_state`.  The remaining cases are the `assert (0)` of the C, which no
reachable instance meets. -/
def updateState (inst : NkeInstance) : NkeInstance :=
  match inst.mode, inst.state with
  | .server, .waitConnect => inst.advance .handshake false
  | .server, .handshake => if !io.alpn then closeConnection inst else inst.advance .receive false
  | .server, .receive =>
    match checkMessageFormat inst.message with
    | (.incomplete, m) => { inst with message := m }
    | (.ok, m) =>
      match processRequest env io.keys io.generateCookie m with
      | (true, m) => { inst with message := m }.advance .send true
      | (false, m) => closeConnection { inst with message := m }
    | (.error, m) => closeConnection { inst with message := m }
  | .server, .send => inst.advance .shutdown true
  | .server, .shutdown => closeConnection inst
  | .client, .waitConnect => inst.advance .handshake true
  | .client, .handshake =>
    if !io.alpn then closeConnection inst
    else
      match prepareRequest inst.message with
      | (true, m) => { inst with message := m }.advance .send true
      | (false, m) => closeConnection { inst with message := m }
  | .client, .send => { inst with message := resetMessage inst.message }.advance .receive false
  | .client, .receive =>
    match checkMessageFormat inst.message with
    | (.incomplete, m) => { inst with message := m }
    | (.ok, m) => { inst with message := m }.advance .shutdown true
    | (.error, m) => closeConnection { inst with message := m }
  | .client, .shutdown => closeConnection inst
  | _, _ => inst

/-- `inst->message.length += r` once `gnutls_record_recv` has written `bytes` after the
valid data; no bytes is the end of the stream, which sets `eof`. -/
def NkeInstance.appendReceived (inst : NkeInstance) (bytes : List UInt8) : NkeInstance :=
  { inst with message := { inst.message with
    data := inst.message.data ++ bytes, eof := bytes.isEmpty || inst.message.eof } }

/-- The loop of `read_write_socket` in `KE_RECEIVE`: refuse a full buffer, then receive
into its free part, while more data is pending.  The flag says whether the loop ended
by itself, so that `update_state` follows. -/
def receiveLoop (inst : NkeInstance) : RecvResult → List RecvResult → NkeInstance × Bool
  | r, pending =>
    if maxMessageLength ≤ inst.message.length then (closeConnection inst, false)
    else
      match r with
      | .error fatal => (if fatal then closeConnection inst else inst, false)
      | .received bytes =>
        let inst := inst.appendReceived (bytes.take (maxMessageLength - inst.message.length))
        match pending with
        | [] => (inst, true)
        | r :: pending => receiveLoop inst r pending

/-- `read_write_socket` handling `event` on the instance's socket.  It is never called on
a closed instance (its handler is removed), where the C has `assert (0)`. -/
def readWriteSocket (event : FileEvent) (inst : NkeInstance) : NkeInstance :=
  match inst.state with
  | .waitConnect =>
    if event ≠ .output then inst
    else if io.socketError ≠ 0 then closeConnection inst
    else updateState env io inst
  | .handshake =>
    match io.handshake with
    | .ok => updateState env io inst
    | .again direction => { inst with output := direction }
    | .fatal => closeConnection inst
  | .send =>
    match io.send with
    | .error fatal => if fatal then closeConnection inst else inst
    | .sent r =>
      let inst := { inst with message := { inst.message with sent := inst.message.sent + r } }
      if inst.message.sent < inst.message.length then inst else updateState env io inst
  | .receive =>
    match receiveLoop inst io.recv io.pending with
    | (inst, true) => updateState env io inst
    | (inst, false) => inst
  | .shutdown =>
    match io.bye with
    | .ok => updateState env io inst
    | .again direction => { inst with output := direction }
    | .fatal => closeConnection inst
  | .closed => inst

end Handler

/-! ## Runs -/

/-- What can happen to an instance: a call of `NKE_OpenClientConnection` or
`accept_server_connection` with the outcome of its set-up, an event on its socket, or
the expiry of its session timeout. -/
inductive NkeEvent
  | openConnection (addr : IPAddr) (ok : Bool)
  | acceptConnection (ok : Bool)
  | socket (event : FileEvent) (io : Io)
  | timeout

/-- One event.  `NKE_OpenClientConnection` and `accept_server_connection` assert that the
instance is closed, and the scheduler calls `read_write_socket` only while it is the
socket's handler and `session_timeout` only while it is pending: other events do not
happen, and leave the instance as it is. -/
def nkeStep (env : KeEnv) (inst : NkeInstance) : NkeEvent → NkeInstance
  | .openConnection addr ok =>
    if inst.state = .closed then (nkeOpenClientConnection inst addr ok).2 else inst
  | .acceptConnection ok =>
    if inst.state = .closed then (acceptServerConnection inst ok).2 else inst
  | .socket event io => if inst.registered then readWriteSocket env io event inst else inst
  | .timeout => if inst.timeoutPending then sessionTimeout inst else inst

/-- The instance after `events`, in order. -/
def nkeRun (env : KeEnv) (inst : NkeInstance) (events : List NkeEvent) : NkeInstance :=
  events.foldl (nkeStep env) inst

@[simp] theorem nkeRun_nil (env : KeEnv) (inst : NkeInstance) : nkeRun env inst [] = inst := rfl

theorem nkeRun_append (env : KeEnv) (inst : NkeInstance) (events more : List NkeEvent) :
    nkeRun env inst (events ++ more) = nkeRun env (nkeRun env inst events) more :=
  List.foldl_append _ _ _ _

@[simp] theorem nkeRun_cons (env : KeEnv) (inst : NkeInstance) (e : NkeEvent)
    (events : List NkeEvent) :
    nkeRun env inst (e :: events) = nkeRun env (nkeStep env inst e) events := rfl

/-! ## Reading the response -/

/-- `NKE_GetCookies`: the number `process_response` returns and the cookies it stores.
The call also moves the buffer's `parsed`, which every reader resets first. -/
def nkeGetCookies (env : KeEnv) (inst : NkeInstance) (maxCookies : Nat) :
    Nat × List NkeCookie :=
  if inst.mode ≠ .client ∧ inst.state ≠ .closed then (0, [])
  else
    let s := (processResponse env maxCookies inst.message).1
    (s.result, s.cookies)

/-- `NTP_Remote_Address`. -/
structure NtpRemoteAddress where
  ipAddr : IPAddr
  port : Nat
deriving DecidableEq, Repr

/-- `NKE_GetNtpAddress`: the address it stores, or `none` where it returns 0.  The port
starts at 0 and the address at `IPADDR_UNSPEC`, which stands for `remote_addr`. -/
def nkeGetNtpAddress (env : KeEnv) (inst : NkeInstance) : Option NtpRemoteAddress :=
  if inst.mode ≠ .client ∧ inst.state ≠ .closed then none
  else
    let s := (processResponse env 1 inst.message).1
    let port := s.port.getD 0
    if s.result = 0 then none
    else if port = 0 then none
    else some ⟨s.addr.getD inst.remoteAddr, port⟩

end ChronyNts.KeyExchange
