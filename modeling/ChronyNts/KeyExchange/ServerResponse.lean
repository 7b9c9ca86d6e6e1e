import ChronyNts.KeyExchange.Instance
import ChronyNts.KeyExchange.Negotiation

/-!
# What the server answers

`process_request` scans the request into a `RequestScan` and hands the error, the
protocol and the algorithm it found to `prepare_response`, whose result it ignores:
it always returns 1, so `update_state` always moves on to `KE_SEND`.

Two things follow.  When the request offers neither NTPv4 nor any error, the scan keeps
`NEXT_PROTOCOL_NONE`, and the response carries that value in its Next-Protocol record
next to eight cookies (`processRequest_cookies_without_ntpv4`).  When `NKE_GetKeys`
fails, `prepare_response` stops after the head records, and the server sends that
buffer, which has no End-of-Message (`server_sends_unterminated_response`).
-/

namespace ChronyNts.KeyExchange

/-! ## A request without NTPv4 -/

/-- A request offering the next protocol 1 only, and AES-SIV-CMAC-256. -/
def unsupportedProtocolRequest : List NkeRecord :=
  [⟨true, recordNextProtocol, htons 1⟩, ⟨true, recordAeadAlgorithm, htons aeadAesSivCmac256⟩,
    endOfMessage]

/-- The scan finds the Next-Protocol record but not NTPv4 in it, and no error. -/
theorem foldUntil_unsupportedProtocolRequest :
    foldUntil (fun s => s.error ≠ errorNone) processRequestRecord RequestScan.init
      unsupportedProtocolRequest = ⟨nextProtocolNone, aeadAesSivCmac256, errorNone, true⟩ := by
  decide

/-- On that request, with the keys exported, the server answers with the head records
carrying `NEXT_PROTOCOL_NONE` and with eight cookies. -/
theorem processRequest_unsupportedProtocol (env : KeEnv) (c2s s2c : NkeKey)
    {generateCookie : NkeKey → NkeKey → Nat → NkeCookie}
    (hlen : ∀ i, (generateCookie c2s s2c i).cookie.length = serverCookieLength) {m : NkeMessage}
    (hm : m.data = encodeRecords unsupportedProtocolRequest) :
    (processRequest env (some (c2s, s2c)) generateCookie m).2.data =
      encodeRecords (responseHeadRecords env nextProtocolNone aeadAesSivCmac256 ++
        cookieRecords (generateCookie c2s s2c)) := by
  simp only [processRequest, recordLoop_fst_of_encodes _ _ _ (by decide) hm,
    foldUntil_unsupportedProtocolRequest, Bool.not_true, Bool.false_eq_true, if_false]
  rw [prepareResponse_of_keys env _ _ c2s s2c hlen]

/-- A request that offers Next-Protocol 1 and no NTPv4 gets a response with no Error
record, a Next-Protocol record holding `0xffff` (`NEXT_PROTOCOL_NONE`), and eight
cookies. -/
theorem processRequest_cookies_without_ntpv4 :
    let env : KeEnv := ⟨serverCookieLength, ntpPortDefault, fun _ => none⟩
    let key : NkeKey := ⟨List.replicate 32 0⟩
    let generateCookie := fun c2s s2c (_ : Nat) =>
      nkeGenerateCookie SivCmac.plain KeyRing.initial c2s s2c (List.replicate 16 0)
    let request : NkeMessage := ⟨encodeRecords unsupportedProtocolRequest, 0, false, 0⟩
    (processRequest env (some (key, key)) generateCookie request).2.data =
      encodeRecords ([⟨true, recordNextProtocol, [0xff, 0xff]⟩,
        ⟨true, recordAeadAlgorithm, htons aeadAesSivCmac256⟩] ++
          cookieRecords (generateCookie key key)) := by
  intro env key generateCookie request
  have hlen : ∀ i, (generateCookie key key i).cookie.length = serverCookieLength :=
    fun i => length_nkeGenerateCookie _ _ (List.length_replicate 32 0) (List.length_replicate 32 0)
      (List.length_replicate 16 0)
  rw [processRequest_unsupportedProtocol env key key hlen rfl]
  rfl

/-! ## A failed export -/

/-- The answers of a client that completes the handshake and sends the request of
`prepare_request` in one record, to a server whose `NKE_GetKeys` fails. -/
def requestWithoutKeysIo (generateCookie : NkeKey → NkeKey → Nat → NkeCookie) : Io :=
  ⟨0, .ok, true, .sent 0, .received (encodeRecords requestRecords), [], .ok, none, generateCookie⟩

/-- The head records never end with End-of-Message. -/
theorem getLast_responseHeadRecords (env : KeEnv) (nextProtocol aeadAlgorithm : Int) :
    (responseHeadRecords env nextProtocol aeadAlgorithm).getLast? ≠ some endOfMessage := by
  unfold responseHeadRecords
  split <;> simp [endOfMessage]

/-- A server accepts a connection, completes the handshake, and receives the request of
`prepare_request`; `NKE_GetKeys` fails.  It moves from `KE_RECEIVE` to `KE_SEND` with
`sent = 0` and a buffer holding only the head records, which `check_message_format`
rejects. -/
theorem server_sends_unterminated_response (env : KeEnv)
    (generateCookie : NkeKey → NkeKey → Nat → NkeCookie) :
    let io := requestWithoutKeysIo generateCookie
    let events := [NkeEvent.acceptConnection true, .socket .input io, .socket .input io]
    (List.range 4).map (fun n => (nkeRun env nkeCreateInstance (events.take n)).state) =
        [.closed, .handshake, .receive, .send] ∧
      (nkeRun env nkeCreateInstance events).message =
        ⟨encodeRecords (responseHeadRecords env nextProtocolNtpv4 aeadAesSivCmac256), 0, false, 0⟩ ∧
      (checkMessageFormat (nkeRun env nkeCreateInstance events).message).1 = .error := by
  intro io events
  have hcheck : checkMessageFormat ⟨encodeRecords requestRecords, 0, false, 0⟩ =
      (.ok, ⟨encodeRecords requestRecords, 0, false, (encodeRecords requestRecords).length⟩) := by
    rw [checkMessageFormat_encodes ⟨valid_requestRecords, rfl⟩]
    decide
  have hprocess := processRequest_request env none generateCookie
    (m := ⟨encodeRecords requestRecords, 0, false, (encodeRecords requestRecords).length⟩) rfl
  rw [prepareResponse_of_no_keys] at hprocess
  have hrun : nkeRun env nkeCreateInstance events =
      ⟨.server, .send, true, true, true,
        ⟨encodeRecords (responseHeadRecords env nextProtocolNtpv4 aeadAesSivCmac256), 0, false, 0⟩,
        ⟨[]⟩⟩ := by
    simp [events, io, requestWithoutKeysIo, nkeStep, acceptServerConnection, nkeCreateInstance,
      readWriteSocket, updateState, NkeInstance.advance, receiveLoop, NkeInstance.appendReceived,
      resetMessage, NkeMessage.length, hcheck, hprocess, List.take_of_length_le,
      show (encodeRecords requestRecords).isEmpty = false from rfl,
      show (encodeRecords requestRecords).length ≤ 16384 by decide]
  refine ⟨?_, by rw [hrun], ?_⟩
  · rw [show List.range 4 = [0, 1, 2, 3] from rfl]
    simp only [List.map_cons, List.map_nil, show events.take 3 = events from rfl, hrun]
    simp [events, io, requestWithoutKeysIo, nkeStep, acceptServerConnection, nkeCreateInstance,
      readWriteSocket, updateState, NkeInstance.advance]
  · rw [hrun, checkMessageFormat_of_encodes ⟨responseHeadRecords_valid env _ _, rfl⟩
      (by unfold responseHeadRecords; simp), if_neg (getLast_responseHeadRecords env _ _)]

end ChronyNts.KeyExchange
