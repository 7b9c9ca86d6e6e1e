import ChronyNts.KeyExchange.Lifecycle
import ChronyNts.KeyExchange.Negotiation

/-!
# What a client reads from its buffer

`NKE_GetCookies` and `NKE_GetNtpAddress` run `process_response` on whatever the
instance's buffer holds.  This file says what that is along a client's run, as
`get_nke_data` drives it: `NKE_CreateInstance`, one `NKE_OpenClientConnection`,
then the events of its connection.

Until the instance reaches `KE_RECEIVE` the buffer is empty or holds the client's
own request, from which `process_response` takes no cookie.  Once it has left
`KE_RECEIVE` the buffer no longer changes.  So a closed client that yields cookies
or an address has been through `KE_RECEIVE`, and yields them from the buffer it held
when it left (`getCookies_after_receive`).  Nothing records how it left: on
`MSG_ERROR` or the session timeout the buffer may hold a partial or rejected
response, and `process_response`, which does not look for End-of-Message, still
takes its cookies (`getCookies_from_rejected_response`).

For the port, `prepare_response` leaves the Port record out at the default port 123,
and `NKE_GetNtpAddress` fails when it finds no port (`nkeGetNtpAddress_response`).
-/

namespace ChronyNts.KeyExchange

/-! ## `process_response` on fixed buffers -/

theorem ResponseScan.result_le (s : ResponseScan) : s.result ≤ s.cookies.length := by
  unfold ResponseScan.result
  split <;> omega

/-- Only Cookie records store cookies. -/
theorem processResponseRecord_cookies (env : KeEnv) (maxCookies : Nat) (s : ResponseScan)
    {r : NkeRecord} (hr : r.type ≠ recordCookie) :
    (processResponseRecord env maxCookies s r).cookies = s.cookies := by
  simp only [processResponseRecord, hr, if_false, apply_ite ResponseScan.cookies, ite_self]
  generalize env.stringToIp _ = o
  cases o <;> simp only [ite_self]

theorem foldUntil_cookies (env : KeEnv) (maxCookies : Nat) {rs : List NkeRecord}
    (hrs : ∀ r ∈ rs, r.type ≠ recordCookie) (s : ResponseScan) :
    (foldUntil (fun s => s.error ≠ errorNone) (processResponseRecord env maxCookies) s rs).cookies =
      s.cookies := by
  induction rs generalizing s with
  | nil => rfl
  | cons r rs ih =>
    rw [foldUntil_cons]
    split
    · rfl
    · rw [ih (fun r' h => hrs r' (List.mem_cons_of_mem _ h)),
        processResponseRecord_cookies env maxCookies s (hrs r (List.mem_cons_self _ _))]

/-- A buffer holding records none of which is a Cookie yields no cookie. -/
theorem processResponse_result_of_no_cookie (env : KeEnv) (maxCookies : Nat) {m : NkeMessage}
    {rs : List NkeRecord} (hrs : EncodesRecords m.data rs)
    (hno : ∀ r ∈ rs, r.type ≠ recordCookie) :
    (processResponse env maxCookies m).1.result = 0 := by
  have hnil : (processResponse env maxCookies m).1.cookies = [] := by
    rw [processResponse, recordLoop_fst_of_encodes _ _ _ hrs.1 hrs.2.symm,
      foldUntil_cookies env maxCookies hno]
    rfl
  have := (processResponse env maxCookies m).1.result_le
  rw [hnil, List.length_nil] at this
  omega

/-- The empty buffer and the client's own request yield no cookie. -/
theorem processResponse_result_of_request (env : KeEnv) (maxCookies : Nat) {m : NkeMessage}
    (hm : m.data = [] ∨ m.data = encodeRecords requestRecords) :
    (processResponse env maxCookies m).1.result = 0 := by
  rcases hm with hm | hm
  · exact @processResponse_result_of_no_cookie env maxCookies m [] ⟨nofun, hm.symm⟩ nofun
  · exact processResponse_result_of_no_cookie env maxCookies ⟨valid_requestRecords, hm.symm⟩
      (by decide)

/-! ## The port -/

/-- `NKE_GetNtpAddress` on a client holding the response to its request: the port the
server advertised, at the client's own address; and nothing when no port was
advertised, which is the case at the default port. -/
theorem nkeGetNtpAddress_response (env : KeEnv) (hL : serverCookieLength ≤ env.maxCookieLength)
    {cookies : Nat → NkeCookie} (hlen : ∀ i, (cookies i).cookie.length = serverCookieLength)
    {inst : NkeInstance} (hclient : inst.mode = .client)
    (hm : inst.message.data = encodeRecords (responseRecords env cookies)) :
    nkeGetNtpAddress env inst =
      if env.ntpPort ≠ ntpPortDefault ∧ (env.ntpPort % 65536).toNat ≠ 0 then
        some ⟨inst.remoteAddr, (env.ntpPort % 65536).toNat⟩
      else none := by
  have hread := processResponse_response env 1 (by simp at hL; omega)
    (fun i => by simp only [hlen i, serverCookieLength] at hL ⊢; omega)
    (valid_responseRecords env hlen) hm
  unfold nkeGetNtpAddress
  rw [if_neg (by simp [hclient]), hread]
  by_cases hp : env.ntpPort = 123 <;> simp [hp, ResponseScan.result, ResponseScan.init]
  split_ifs <;> first | rfl | omega

/-- At the default port, `NKE_GetNtpAddress` fails on a client holding the response
`prepare_response` builds for the request of `prepare_request`. -/
theorem nkeGetNtpAddress_default_port :
    let env : KeEnv := ⟨serverCookieLength, ntpPortDefault, fun _ => none⟩
    let key : NkeKey := ⟨List.replicate 32 0⟩
    let generateCookie := fun c2s s2c (_ : Nat) =>
      nkeGenerateCookie SivCmac.plain KeyRing.initial c2s s2c (List.replicate 16 0)
    let request : NkeMessage := ⟨(prepareRequest ⟨[], 0, false, 0⟩).2.data, 0, false, 0⟩
    let response := (processRequest env (some (key, key)) generateCookie request).2
    nkeGetNtpAddress env
      ⟨.client, .closed, false, false, false, ⟨response.data, 0, true, 0⟩, ⟨[192, 0, 2, 1]⟩⟩ =
      none := by
  intro env key generateCookie
  have hlen : ∀ i, (generateCookie key key i).cookie.length = serverCookieLength :=
    fun i => length_nkeGenerateCookie _ _ (List.length_replicate 32 0) (List.length_replicate 32 0)
      (List.length_replicate 16 0)
  -- unfold the request and the response before the rewrite, so that the kernel never
  -- evaluates `process_request` on them
  dsimp only
  rw [processRequest_request_data env key key hlen (by simp [prepareRequest_eq]),
    nkeGetNtpAddress_response env le_rfl hlen rfl rfl]
  simp [env]

/-! ## A client's buffer along its run -/

/-- An event of the instance's own connection: on its socket, or its timeout. -/
def NkeEvent.IsConnection : NkeEvent → Prop
  | .socket _ _ => True
  | .timeout => True
  | _ => False

section Client

variable (env : KeEnv)

/-- `update_state` changes a client's buffer only to build the request, or on entering or
in `KE_RECEIVE`. -/
theorem updateState_client_data (io : Io) {inst : NkeInstance} (hc : inst.mode = .client) :
    (updateState env io inst).message.data = inst.message.data ∨ inst.state = .receive ∨
      (updateState env io inst).state = .receive ∨
      (updateState env io inst).state = .send ∧
        (updateState env io inst).message.data = encodeRecords requestRecords := by
  obtain ⟨mode, state, registered, output, timeoutPending, message, addr⟩ := inst
  subst hc
  cases state <;> simp only [updateState]
  case handshake =>
    split
    · exact .inl (by simp)
    · simp [prepareRequest_eq]
  all_goals simp

/-- The same for one event of the client's connection. -/
theorem nkeStep_client_data {inst : NkeInstance} (hc : inst.mode = .client) {e : NkeEvent}
    (he : e.IsConnection) :
    (nkeStep env inst e).message.data = inst.message.data ∨ inst.state = .receive ∨
      (nkeStep env inst e).state = .receive ∨
      (nkeStep env inst e).state = .send ∧
        (nkeStep env inst e).message.data = encodeRecords requestRecords := by
  cases e with
  | socket event io =>
    simp only [nkeStep]
    split_ifs
    · unfold readWriteSocket
      split <;> rename_i hs
      · split_ifs
        · exact .inl rfl
        · exact .inl (by simp)
        · exact updateState_client_data env io hc
      · split
        · exact updateState_client_data env io hc
        · exact .inl rfl
        · exact .inl (by simp)
      · split
        · split
          · exact .inl (by simp)
          · exact .inl rfl
        · dsimp only
          split_ifs
          · exact .inl rfl
          · exact updateState_client_data env io hc
      · exact .inr (.inl hs)
      · split
        · exact updateState_client_data env io hc
        · exact .inl rfl
        · exact .inl (by simp)
      · exact .inl rfl
    · exact .inl rfl
  | timeout =>
    simp only [nkeStep]
    split_ifs
    · exact .inl (by simp [sessionTimeout])
    · exact .inl rfl
  | _ => exact he.elim

end Client

/-- Before a client reaches `KE_RECEIVE` its buffer is empty or holds its request. -/
def BeforeReceive (inst : NkeInstance) : Prop :=
  inst.state ≠ .receive ∧ inst.state ≠ .shutdown ∧
    (inst.message.data = [] ∨ inst.message.data = encodeRecords requestRecords)

/-- Along the run from `inst₀` over `events`, the instance was in `KE_RECEIVE` and left
it, and its buffer at the end is the one it held when it left. -/
def LeftReceive (env : KeEnv) (inst₀ : NkeInstance) (events : List NkeEvent) : Prop :=
  ∃ pre e post, events = pre ++ e :: post ∧ (nkeRun env inst₀ pre).state = .receive ∧
    (nkeStep env (nkeRun env inst₀ pre) e).state ≠ .receive ∧
    (nkeRun env inst₀ events).message.data = (nkeStep env (nkeRun env inst₀ pre) e).message.data

section Client

variable (env : KeEnv)

/-- On the events of its connection a client stays a client and moves along its chain. -/
theorem nkeStep_client_state {inst : NkeInstance} (h : inst.Wf) (hc : inst.mode = .client)
    {e : NkeEvent} (he : e.IsConnection) :
    (nkeStep env inst e).mode = .client ∧
      ((nkeStep env inst e).state = inst.state ∨ (nkeStep env inst e).state = .closed ∨
        specNext .client inst.state = some (nkeStep env inst e).state) := by
  rcases (nkeStep_spec env h e).2 with ⟨hm, hs⟩ | ⟨hm, hs⟩ | ⟨hm, hs, -⟩ | ⟨-, ⟨_, rfl⟩, -⟩ | ⟨-, rfl, -⟩
  · exact ⟨hm.trans hc, .inl hs⟩
  · exact ⟨hm.trans hc, .inr (.inl hs)⟩
  · exact ⟨hm.trans hc, .inr (.inr (hc ▸ hs))⟩
  · exact he.elim
  · exact he.elim

theorem specNext_client_shutdown {s : NtsKeState} (h : specNext .client s = some .shutdown) :
    s = .receive := by
  cases s <;> simp_all [specNext]

variable {inst : NkeInstance} (h : inst.Wf) (hc : inst.mode = .client) {e : NkeEvent}
  (he : e.IsConnection)
include h hc he

/-- Before `KE_RECEIVE`, a client stays before it or enters it. -/
theorem beforeReceive_nkeStep (hb : BeforeReceive inst) :
    (nkeStep env inst e).state = .receive ∨ BeforeReceive (nkeStep env inst e) := by
  obtain ⟨-, hst⟩ := nkeStep_client_state env h hc he
  obtain ⟨hr, hsd, hdata⟩ := hb
  by_cases hrecv : (nkeStep env inst e).state = .receive
  · exact .inl hrecv
  refine .inr ⟨hrecv, ?_, ?_⟩
  · rcases hst with hs | hs | hs
    · exact hs ▸ hsd
    · exact hs ▸ nofun
    · exact fun hs' => hr (specNext_client_shutdown (hs' ▸ hs))
  · rcases nkeStep_client_data env hc he with hd | hd | hd | ⟨-, hd⟩
    · exact hd ▸ hdata
    · exact absurd hd hr
    · exact absurd hd hrecv
    · exact .inr hd

/-- Once it has left `KE_RECEIVE`, a client stays in `KE_SHUTDOWN` or `KE_CLOSED`, and its
buffer does not change. -/
theorem afterReceive_nkeStep (hs : inst.state = .shutdown ∨ inst.state = .closed) :
    ((nkeStep env inst e).state = .shutdown ∨ (nkeStep env inst e).state = .closed) ∧
      (nkeStep env inst e).message.data = inst.message.data := by
  obtain ⟨-, hst⟩ := nkeStep_client_state env h hc he
  have hs' : (nkeStep env inst e).state = .shutdown ∨ (nkeStep env inst e).state = .closed := by
    rcases hst with h1 | h1 | h1
    · exact h1 ▸ hs
    · exact .inr h1
    · rcases hs with hs | hs <;> simp_all [specNext]
  refine ⟨hs', ?_⟩
  rcases nkeStep_client_data env hc he with hd | hd | hd | ⟨hd, -⟩
  · exact hd
  · rcases hs with hs | hs <;> simp_all
  · rcases hs' with hs' | hs' <;> simp_all
  · rcases hs' with hs' | hs' <;> simp_all

end Client

/-- Along the run of a client opened as `get_nke_data` opens it, the buffer is empty or
holds the request until `KE_RECEIVE`, and after leaving `KE_RECEIVE` it is the one the
client held when it left. -/
theorem client_run_phase (env : KeEnv) (addr : IPAddr) (events : List NkeEvent)
    (hev : ∀ e ∈ events, e.IsConnection) :
    (nkeRun env (nkeOpenClientConnection nkeCreateInstance addr true).2 events).Wf ∧
      (nkeRun env (nkeOpenClientConnection nkeCreateInstance addr true).2 events).mode = .client ∧
      (BeforeReceive (nkeRun env (nkeOpenClientConnection nkeCreateInstance addr true).2 events) ∨
        (nkeRun env (nkeOpenClientConnection nkeCreateInstance addr true).2 events).state =
          .receive ∨
        ((nkeRun env (nkeOpenClientConnection nkeCreateInstance addr true).2 events).state =
            .shutdown ∨
          (nkeRun env (nkeOpenClientConnection nkeCreateInstance addr true).2 events).state =
            .closed) ∧
        LeftReceive env (nkeOpenClientConnection nkeCreateInstance addr true).2 events) := by
  induction events using List.reverseRecOn with
  | nil => exact ⟨⟨by simp [nkeOpenClientConnection], by simp [nkeOpenClientConnection],
      by simp [nkeOpenClientConnection]⟩, rfl, .inl ⟨nofun, nofun, .inl rfl⟩⟩
  | append_singleton events e ih =>
    obtain ⟨hwf, hc, hphase⟩ := ih fun x hx => hev x (List.mem_append_left _ hx)
    have he : e.IsConnection := hev e (by simp)
    simp only [nkeRun_append, nkeRun_cons, nkeRun_nil]
    refine ⟨(nkeStep_spec env hwf e).1, (nkeStep_client_state env hwf hc he).1, ?_⟩
    rcases hphase with hb | hr | ⟨hs, pre, e', post, rfl, hpre, hleft, hdata⟩
    · exact (beforeReceive_nkeStep env hwf hc he hb).elim (.inr ∘ .inl) .inl
    · rcases (nkeStep_client_state env hwf hc he).2 with hs | hs | hs
      · exact .inr (.inl (hs.trans hr))
      · exact .inr (.inr ⟨.inr hs, events, e, [], by simp, hr, by simp [hs],
          by simp [nkeRun_append]⟩)
      · rw [hr] at hs
        simp only [specNext, Option.some.injEq] at hs
        exact .inr (.inr ⟨.inl hs.symm, events, e, [], by simp, hr, by simp [← hs],
          by simp [nkeRun_append]⟩)
    · obtain ⟨hs', hd⟩ := afterReceive_nkeStep env hwf hc he hs
      exact .inr (.inr ⟨hs', pre, e', post ++ [e], by simp, hpre, hleft,
        by simpa only [nkeRun_append, nkeRun_cons, nkeRun_nil] using hd.trans hdata⟩)

/-- For a client driven as `get_nke_data` drives it (`NKE_CreateInstance`, a successful
`NKE_OpenClientConnection`, then any events of its connection): when `NKE_GetCookies` or
`NKE_GetNtpAddress` returns a nonzero result on the closed instance, the instance has
been in `KE_RECEIVE` and left it, and the buffer they read is the one it held when it
left, unchanged since. -/
theorem getCookies_after_receive (env : KeEnv) (addr : IPAddr) (events : List NkeEvent)
    (hev : ∀ e ∈ events, e.IsConnection) (maxCookies : Nat)
    (hclosed :
      (nkeRun env (nkeOpenClientConnection nkeCreateInstance addr true).2 events).state = .closed)
    (hread :
      (nkeGetCookies env (nkeRun env (nkeOpenClientConnection nkeCreateInstance addr true).2 events)
          maxCookies).1 ≠ 0 ∨
        nkeGetNtpAddress env
          (nkeRun env (nkeOpenClientConnection nkeCreateInstance addr true).2 events) ≠ none) :
    LeftReceive env (nkeOpenClientConnection nkeCreateInstance addr true).2 events := by
  obtain ⟨-, hc, hb | hr | ⟨-, hleft⟩⟩ := client_run_phase env addr events hev
  · have h0 := fun n => processResponse_result_of_request env n hb.2.2
    exfalso
    rcases hread with hread | hread
    · simp [nkeGetCookies, hc, h0] at hread
    · simp [nkeGetNtpAddress, hc, h0] at hread
  · rw [hclosed] at hr
    cases hr
  · exact hleft

/-! ## A response cut before End-of-Message -/

/-- Next-Protocol, AEAD and a Cookie record holding one byte: a response that stops
before its End-of-Message. -/
def truncatedResponse : List NkeRecord :=
  [⟨true, recordNextProtocol, htons nextProtocolNtpv4⟩,
    ⟨true, recordAeadAlgorithm, htons aeadAesSivCmac256⟩, ⟨false, recordCookie, [7]⟩]

/-- The answers of a peer that completes the handshake, takes the 16 bytes of the
request, and sends `truncatedResponse`. -/
def truncatedResponseIo : Io :=
  ⟨0, .ok, true, .sent 16, .received (encodeRecords truncatedResponse), [], .ok, none,
    fun _ _ _ => ⟨[]⟩⟩

/-- The instance `truncatedResponseIo` leaves: closed, because `check_message_format`
rejects the response, with the response in its buffer. -/
theorem nkeRun_truncatedResponse (env : KeEnv) (addr : IPAddr) :
    nkeRun env (nkeOpenClientConnection nkeCreateInstance addr true).2
        [.socket .output truncatedResponseIo, .socket .input truncatedResponseIo,
          .socket .output truncatedResponseIo, .socket .input truncatedResponseIo] =
      ⟨.client, .closed, false, false, false,
        ⟨encodeRecords truncatedResponse, 0, false, (encodeRecords truncatedResponse).length⟩,
        addr⟩ := by
  have hcheck : checkMessageFormat ⟨encodeRecords truncatedResponse, 0, false, 0⟩ =
      (.error, ⟨encodeRecords truncatedResponse, 0, false,
        (encodeRecords truncatedResponse).length⟩) := by
    rw [checkMessageFormat_encodes ⟨by decide, rfl⟩]
    decide
  have hrequest : (encodeRecords requestRecords).length = 16 := by decide
  simp [truncatedResponseIo, nkeStep, nkeOpenClientConnection, nkeCreateInstance,
    readWriteSocket, updateState, NkeInstance.advance, prepareRequest_eq, NkeMessage.length,
    hrequest, receiveLoop, NkeInstance.appendReceived, resetMessage, List.take_of_length_le,
    hcheck, closeConnection, show (encodeRecords truncatedResponse).isEmpty = false from rfl,
    show (encodeRecords truncatedResponse).length ≤ 16384 by decide]

/-- `NKE_GetCookies` takes the one cookie of `truncatedResponse`. -/
theorem nkeGetCookies_truncatedResponse (inst : NkeInstance) (hc : inst.mode = .client)
    (hm : inst.message.data = encodeRecords truncatedResponse) :
    nkeGetCookies ⟨256, ntpPortDefault, fun _ => none⟩ inst 8 = (1, [⟨[7]⟩]) := by
  have hv : ∀ r ∈ truncatedResponse, r.Valid := by decide
  simp only [nkeGetCookies, hc, ne_eq, not_true_eq_false, false_and, if_false, processResponse,
    recordLoop_fst_of_encodes _ _ _ hv hm]
  decide

theorem getCookies_after_receive_truncated :
    LeftReceive ⟨256, ntpPortDefault, fun _ => none⟩
      (nkeOpenClientConnection nkeCreateInstance ⟨[192, 0, 2, 1]⟩ true).2
      [.socket .output truncatedResponseIo, .socket .input truncatedResponseIo,
        .socket .output truncatedResponseIo, .socket .input truncatedResponseIo] :=
  getCookies_after_receive _ _ _ (by simp [NkeEvent.IsConnection]) 8
    (by rw [nkeRun_truncatedResponse])
    (.inl (by rw [nkeRun_truncatedResponse, nkeGetCookies_truncatedResponse _ rfl rfl]; decide))

/-- A client whose response stops before End-of-Message goes from `KE_RECEIVE` straight
to `KE_CLOSED`, because `check_message_format` returns `MSG_ERROR` on the buffer it still
holds; `NKE_GetCookies` then returns 1. -/
theorem getCookies_from_rejected_response :
    let env : KeEnv := ⟨256, ntpPortDefault, fun _ => none⟩
    let events := [NkeEvent.openConnection ⟨[192, 0, 2, 1]⟩ true,
      .socket .output truncatedResponseIo, .socket .input truncatedResponseIo,
      .socket .output truncatedResponseIo, .socket .input truncatedResponseIo]
    (List.range 6).map (fun n => (nkeRun env nkeCreateInstance (events.take n)).state) =
        [.closed, .waitConnect, .handshake, .send, .receive, .closed] ∧
      (checkMessageFormat (nkeRun env nkeCreateInstance events).message).1 = .error ∧
      nkeGetCookies env (nkeRun env nkeCreateInstance events) 8 = (1, [⟨[7]⟩]) := by
  intro env events
  have hrun : nkeRun env nkeCreateInstance events =
      ⟨.client, .closed, false, false, false,
        ⟨encodeRecords truncatedResponse, 0, false, (encodeRecords truncatedResponse).length⟩,
        ⟨[192, 0, 2, 1]⟩⟩ := by
    have hopen : nkeStep env nkeCreateInstance (.openConnection ⟨[192, 0, 2, 1]⟩ true) =
        (nkeOpenClientConnection nkeCreateInstance ⟨[192, 0, 2, 1]⟩ true).2 := rfl
    simp only [events]
    rw [nkeRun_cons, hopen]
    exact nkeRun_truncatedResponse env _
  refine ⟨?_, ?_, by rw [hrun, nkeGetCookies_truncatedResponse _ rfl rfl]⟩
  · have hrequest : (encodeRecords requestRecords).length = 16 := by decide
    rw [show List.range 6 = [0, 1, 2, 3, 4, 5] from rfl]
    simp only [List.map_cons, List.map_nil, show events.take 5 = events from rfl, hrun]
    simp [events, truncatedResponseIo, nkeStep, nkeOpenClientConnection, nkeCreateInstance,
      readWriteSocket, updateState, NkeInstance.advance, prepareRequest_eq, NkeMessage.length,
      hrequest]
  · rw [hrun, checkMessageFormat_encodes ⟨by decide, rfl⟩]
    decide

end ChronyNts.KeyExchange
