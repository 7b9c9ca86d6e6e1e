import ChronyNts.KeyExchange.ServerKeys

/-!
# One key exchange, end to end

The client's request and the server's response, each built by `add_record` and
read by a `get_record` loop on the other side.  For every configured NTP port,
pair of exporter keys and cookie generator, the request passes the server's
`check_message_format`, the response passes the client's, and `process_response`
hands the client the first `min (8, max_cookies)` cookies in the order the server
generated them.

## Strategy

Each message holds `encodeRecords` of a known record list, so its `get_record`
loop is a `foldUntil` over that list (`recordLoop_fst_of_encodes`).  The folds
over the fixed records compute; the fold over the Cookie records is an induction
on the cookies (`foldUntil_cookieRecords`).
-/

namespace ChronyNts.KeyExchange

/-- A reader's loop over a message that holds exactly the records `rs` is a fold over
`rs`. -/
theorem recordLoop_fst_of_encodes {σ : Type} (stop : σ → Bool) (step : σ → NkeRecord → σ)
    (s : σ) {m : NkeMessage} {rs : List NkeRecord} (hv : ∀ r ∈ rs, r.Valid)
    (hm : m.data = encodeRecords rs) :
    (recordLoop stop step s (resetMessageParsing m)).1 = foldUntil stop step s rs := by
  rw [recordLoop_fst, getRecords_of_encode_all hv (by simp [hm])]

/-! ## The request -/

theorem valid_requestRecords : ∀ r ∈ requestRecords, r.Valid := by decide

theorem prepareRequest_eq (m : NkeMessage) :
    prepareRequest m = (true, ⟨encodeRecords requestRecords, 0, false, 0⟩) := by
  rw [prepareRequest, addRecords_of_fit _ valid_requestRecords
    (by simp only [NkeMessage.length, resetMessage_data, List.length_nil, Nat.zero_add]; decide)]
  rfl

/-- The server reads the request as NTPv4 with AES-SIV-CMAC-256 and no error. -/
theorem foldUntil_requestRecords :
    foldUntil (fun s => s.error ≠ errorNone) processRequestRecord RequestScan.init
      requestRecords = ⟨nextProtocolNtpv4, aeadAesSivCmac256, errorNone, true⟩ := by
  decide

theorem processRequest_request (env : KeEnv) (keys : Option (NkeKey × NkeKey))
    (generateCookie : NkeKey → NkeKey → Nat → NkeCookie) {m : NkeMessage}
    (hm : m.data = encodeRecords requestRecords) :
    processRequest env keys generateCookie m = (true, (prepareResponse env keys generateCookie m
      errorNone nextProtocolNtpv4 aeadAesSivCmac256).2) := by
  simp only [processRequest, recordLoop_fst_of_encodes _ _ _ valid_requestRecords hm,
    foldUntil_requestRecords]
  rfl

/-! ## The response -/

/-- The records `prepare_response` writes when it accepts a request: the head, then the
cookies. -/
def responseRecords (env : KeEnv) (cookies : Nat → NkeCookie) : List NkeRecord :=
  responseHeadRecords env nextProtocolNtpv4 aeadAesSivCmac256 ++ cookieRecords cookies

section Response

variable (env : KeEnv)

theorem responseHeadRecords_valid (nextProtocol aeadAlgorithm : Int) :
    ∀ r ∈ responseHeadRecords env nextProtocol aeadAlgorithm, r.Valid := by
  unfold responseHeadRecords
  split <;> simp [NkeRecord.Valid]

theorem length_responseHeadRecords_le (nextProtocol aeadAlgorithm : Int) :
    (encodeRecords (responseHeadRecords env nextProtocol aeadAlgorithm)).length ≤ 18 := by
  unfold responseHeadRecords
  split <;> simp

theorem valid_responseHeadRecords :
    ∀ r ∈ responseHeadRecords env nextProtocolNtpv4 aeadAesSivCmac256, r.Valid :=
  responseHeadRecords_valid env _ _

theorem length_encodeRecords_responseHeadRecords :
    (encodeRecords (responseHeadRecords env nextProtocolNtpv4 aeadAesSivCmac256)).length ≤ 18 :=
  length_responseHeadRecords_le env _ _

variable {cookies : Nat → NkeCookie}

theorem valid_cookieRecords (hlen : ∀ i, (cookies i).cookie.length = serverCookieLength) :
    ∀ r ∈ cookieRecords cookies, r.Valid := by
  simp only [cookieRecords, List.mem_append, List.mem_map, List.mem_singleton]
  rintro r (⟨i, -, rfl⟩ | rfl)
  · simp [NkeRecord.Valid, hlen]
  · decide

theorem length_encodeRecords_cookieRecords
    (hlen : ∀ i, (cookies i).cookie.length = serverCookieLength) :
    (encodeRecords (cookieRecords cookies)).length = maxCookies * (4 + serverCookieLength) + 4 := by
  simp [cookieRecords, length_encodeRecords, hlen, endOfMessage, Function.comp_def]

/-- `prepare_response` without an error: the head records with the protocol and the
algorithm it is given, which always fit. -/
theorem addRecords_responseHeadRecords (m : NkeMessage) (nextProtocol aeadAlgorithm : Int) :
    addRecords (resetMessage m) (responseHeadRecords env nextProtocol aeadAlgorithm) =
      (true, ⟨encodeRecords (responseHeadRecords env nextProtocol aeadAlgorithm), 0, false, 0⟩) := by
  have hhead := length_responseHeadRecords_le env nextProtocol aeadAlgorithm
  rw [addRecords_of_fit _ (responseHeadRecords_valid env _ _)
    (by simp only [NkeMessage.length, resetMessage_data, List.length_nil, maxMessageLength]; omega),
    resetMessage_data, List.nil_append]
  rfl

/-- `prepare_response` without an error once the keys are exported: the head records,
`MAX_COOKIES` cookies and End-of-Message, which all fit, whatever protocol and algorithm
it is given. -/
theorem prepareResponse_of_keys (nextProtocol aeadAlgorithm : Int) (c2s s2c : NkeKey)
    {generateCookie : NkeKey → NkeKey → Nat → NkeCookie}
    (hlen : ∀ i, (generateCookie c2s s2c i).cookie.length = serverCookieLength) (m : NkeMessage) :
    prepareResponse env (some (c2s, s2c)) generateCookie m errorNone nextProtocol aeadAlgorithm =
      (true, ⟨encodeRecords (responseHeadRecords env nextProtocol aeadAlgorithm ++
        cookieRecords (generateCookie c2s s2c)), 0, false, 0⟩) := by
  have hhead := length_responseHeadRecords_le env nextProtocol aeadAlgorithm
  have hcookies := length_encodeRecords_cookieRecords hlen
  simp only [serverCookieLength, maxCookies] at hcookies
  unfold prepareResponse
  rw [if_neg (not_not.mpr rfl), addRecords_responseHeadRecords]
  dsimp only
  rw [addRecords_of_fit _ (valid_cookieRecords hlen) ?fit]
  case fit => simp only [NkeMessage.length, List.length_nil, maxMessageLength]; omega
  simp [encodeRecords_append]

/-- `prepare_response` without an error when `NKE_GetKeys` fails: it returns 0 with the
head records in the buffer, and no End-of-Message. -/
theorem prepareResponse_of_no_keys (nextProtocol aeadAlgorithm : Int)
    (generateCookie : NkeKey → NkeKey → Nat → NkeCookie) (m : NkeMessage) :
    prepareResponse env none generateCookie m errorNone nextProtocol aeadAlgorithm =
      (false, ⟨encodeRecords (responseHeadRecords env nextProtocol aeadAlgorithm), 0, false, 0⟩) := by
  unfold prepareResponse
  rw [if_neg (not_not.mpr rfl), addRecords_responseHeadRecords]

/-- `prepare_response` once the request is accepted and the keys exported: the head
records, `MAX_COOKIES` cookies and End-of-Message, which all fit. -/
theorem prepareResponse_accept (c2s s2c : NkeKey)
    {generateCookie : NkeKey → NkeKey → Nat → NkeCookie}
    (hlen : ∀ i, (generateCookie c2s s2c i).cookie.length = serverCookieLength) (m : NkeMessage) :
    prepareResponse env (some (c2s, s2c)) generateCookie m errorNone nextProtocolNtpv4
      aeadAesSivCmac256 =
      (true, ⟨encodeRecords (responseRecords env (generateCookie c2s s2c)), 0, false, 0⟩) :=
  prepareResponse_of_keys env _ _ c2s s2c hlen m

/-- End-of-Message comes only last in a successful response. -/
theorem endOfMessage_not_mem_dropLast (cookies : Nat → NkeCookie) :
    endOfMessage ∉ (responseRecords env cookies).dropLast := by
  rw [responseRecords, cookieRecords, ← List.append_assoc, List.dropLast_concat]
  unfold responseHeadRecords
  split <;> simp [endOfMessage]

/-- What `prepare_response` leaves for a request it accepts, whatever `NKE_GetKeys` and
`NKE_GenerateCookie` return: the first records of a successful response, each valid. -/
theorem prepareResponse_accept_take (keys : Option (NkeKey × NkeKey))
    (generateCookie : NkeKey → NkeKey → Nat → NkeCookie) (m : NkeMessage) :
    ∃ cookies k, (prepareResponse env keys generateCookie m errorNone nextProtocolNtpv4
        aeadAesSivCmac256).2.data = encodeRecords ((responseRecords env cookies).take k) ∧
      ∀ r ∈ (responseRecords env cookies).take k, r.Valid := by
  have hhead := valid_responseHeadRecords env
  unfold prepareResponse
  rw [if_neg (not_not.mpr rfl), addRecords_responseHeadRecords]
  rcases keys with _ | ⟨c2s, s2c⟩
  · refine ⟨fun _ => ⟨[]⟩, (responseHeadRecords env nextProtocolNtpv4 aeadAesSivCmac256).length,
      ?_⟩
    rw [responseRecords, List.take_left]
    exact ⟨rfl, hhead⟩
  · obtain ⟨k, hk, hb⟩ := addRecords_data
      ⟨encodeRecords (responseHeadRecords env nextProtocolNtpv4 aeadAesSivCmac256), 0, false, 0⟩
      (cookieRecords (generateCookie c2s s2c))
    refine ⟨generateCookie c2s s2c,
      (responseHeadRecords env nextProtocolNtpv4 aeadAesSivCmac256).length + k, ?_, ?_⟩
    · rw [responseRecords, List.take_append, encodeRecords_append]
      exact hk
    · rw [responseRecords, List.take_append]
      simp only [List.mem_append]
      rintro r (hr | hr)
      · exact hhead r hr
      · refine ⟨?_, hb r hr⟩
        have := List.mem_of_mem_take hr
        simp only [cookieRecords, List.mem_append, List.mem_map, List.mem_singleton] at this
        rcases this with ⟨i, -, rfl⟩ | rfl
        · show recordCookie < 0x8000; decide
        · decide

/-- The buffer `process_request` leaves after the client's request, once the keys are
exported. -/
theorem processRequest_request_data (c2s s2c : NkeKey)
    {generateCookie : NkeKey → NkeKey → Nat → NkeCookie}
    (hlen : ∀ i, (generateCookie c2s s2c i).cookie.length = serverCookieLength) {m : NkeMessage}
    (hm : m.data = encodeRecords requestRecords) :
    (processRequest env (some (c2s, s2c)) generateCookie m).2.data =
      encodeRecords (responseRecords env (generateCookie c2s s2c)) := by
  rw [processRequest_request env _ _ hm, prepareResponse_accept env c2s s2c hlen]

end Response

/-! ## The client's reading of the response -/

section Client

variable (env : KeEnv) (maxCount : Nat)

/-- A Cookie record that fits the `data` array is stored while there is room. -/
theorem processResponseRecord_cookie (s : ResponseScan) (c : NkeCookie)
    (hc : c.cookie.length ≤ 2 * (env.maxCookieLength / 2)) :
    processResponseRecord env maxCount s ⟨false, recordCookie, c.cookie⟩ =
      if s.cookies.length < maxCount then { s with cookies := s.cookies ++ [c] } else s := by
  have hL : c.cookie.length ≤ env.maxCookieLength := by omega
  simp [processResponseRecord, List.take_of_length_le hc, hL]

theorem foldUntil_cookieRecords {cookies : Nat → NkeCookie}
    (hlen : ∀ i, (cookies i).cookie.length ≤ 2 * (env.maxCookieLength / 2)) (is : List Nat)
    (s : ResponseScan) (hs : s.error = errorNone) :
    foldUntil (fun s => s.error ≠ errorNone) (processResponseRecord env maxCount) s
        (is.map fun i => ⟨false, recordCookie, (cookies i).cookie⟩) =
      { s with cookies := s.cookies ++ (is.map cookies).take (maxCount - s.cookies.length) } := by
  induction is generalizing s with
  | nil => simp
  | cons i is ih =>
    rw [List.map_cons, foldUntil_cons, if_neg (by simp [hs]),
      processResponseRecord_cookie env maxCount s _ (hlen i)]
    split
    · rw [ih { s with cookies := s.cookies ++ [cookies i] } hs]
      simp only [List.length_append, List.length_singleton, List.append_assoc, List.map_cons,
        List.singleton_append, List.take_cons (show 0 < maxCount - s.cookies.length by omega)]
      congr 4
    · rw [ih s hs, Nat.sub_eq_zero_of_le (by omega)]
      simp

section Head

variable (hL : 2 ≤ env.maxCookieLength)
include hL

theorem take_htons (v : Int) : (htons v).take (2 * (env.maxCookieLength / 2)) = htons v :=
  List.take_of_length_le (by simp only [length_htons]; omega)

theorem processResponseRecord_nextProtocol (s : ResponseScan) :
    processResponseRecord env maxCount s ⟨true, recordNextProtocol, htons nextProtocolNtpv4⟩ =
      { s with nextProtocol := nextProtocolNtpv4 } := by
  simp only [processResponseRecord, take_htons env hL, ntohs_htons]
  simp

theorem processResponseRecord_aeadAlgorithm (s : ResponseScan) :
    processResponseRecord env maxCount s ⟨true, recordAeadAlgorithm, htons aeadAesSivCmac256⟩ =
      { s with aeadAlgorithm := aeadAesSivCmac256 } := by
  simp only [processResponseRecord, take_htons env hL, ntohs_htons]
  simp

theorem processResponseRecord_port (s : ResponseScan) (port : Int) :
    processResponseRecord env maxCount s ⟨true, recordNtpv4PortNegotiation, htons port⟩ =
      { s with port := some (port % 65536).toNat } := by
  simp only [processResponseRecord, take_htons env hL, ntohs_htons]
  simp

/-- The head of the response: Next-Protocol and AEAD pass, and the port is stored when
it was advertised. -/
theorem foldUntil_responseHeadRecords :
    foldUntil (fun s => s.error ≠ errorNone) (processResponseRecord env maxCount)
        ResponseScan.init (responseHeadRecords env nextProtocolNtpv4 aeadAesSivCmac256) =
      { ResponseScan.init with
        nextProtocol := nextProtocolNtpv4, aeadAlgorithm := aeadAesSivCmac256,
        port := if env.ntpPort ≠ ntpPortDefault then some (env.ntpPort % 65536).toNat
          else none } := by
  unfold responseHeadRecords
  split <;> simp only [List.cons_append, List.nil_append, foldUntil_cons, foldUntil_nil,
    processResponseRecord_nextProtocol env maxCount hL, processResponseRecord_aeadAlgorithm env maxCount hL,
    processResponseRecord_port env maxCount hL] <;> simp_all [ResponseScan.init]

end Head

/-- What `process_response` reads from the response: NTPv4, AES-SIV-CMAC-256, no error,
the advertised port, and the first `max_cookies` of the server's cookies in order. -/
theorem processResponse_response (hL : 2 ≤ env.maxCookieLength) {cookies : Nat → NkeCookie}
    (hlen : ∀ i, (cookies i).cookie.length ≤ 2 * (env.maxCookieLength / 2))
    (hv : ∀ r ∈ responseRecords env cookies, r.Valid) {m : NkeMessage}
    (hm : m.data = encodeRecords (responseRecords env cookies)) :
    (processResponse env maxCount m).1 =
      { ResponseScan.init with
        nextProtocol := nextProtocolNtpv4, aeadAlgorithm := aeadAesSivCmac256,
        cookies := (List.range (min maxCount maxCookies)).map cookies,
        port := if env.ntpPort ≠ ntpPortDefault then some (env.ntpPort % 65536).toNat
          else none } := by
  rw [processResponse, recordLoop_fst_of_encodes _ _ _ hv hm, responseRecords, cookieRecords,
    foldUntil_append, foldUntil_append, foldUntil_responseHeadRecords env maxCount hL,
    foldUntil_cookieRecords env maxCount hlen _ _ rfl]
  simp [foldUntil, processResponseRecord, endOfMessage, ← List.map_take, List.take_range,
    ResponseScan.init]

end Client

/-! ## The whole exchange -/

theorem valid_responseRecords (env : KeEnv) {cookies : Nat → NkeCookie}
    (hlen : ∀ i, (cookies i).cookie.length = serverCookieLength) :
    ∀ r ∈ responseRecords env cookies, r.Valid := by
  simp only [responseRecords, List.mem_append]
  rintro r (h | h)
  exacts [valid_responseHeadRecords env r h, valid_cookieRecords hlen r h]

/-- For every configured port, pair of 32-byte exporter keys, server key ring, cookie
nonces and `max_cookies`: `prepare_request` builds a request that passes the server's
`check_message_format`; the response `process_request` writes in its place passes the
client's; and `process_response` returns `min (8, max_cookies)` and stores that many of
the server's cookies, in the order it generated them. -/
theorem key_exchange_end_to_end (env : KeEnv) (hL : serverCookieLength ≤ env.maxCookieLength)
    (siv : SivCmac) (ring : KeyRing) (nonces : Nat → List UInt8)
    (hn : ∀ i, (nonces i).length = 16) (c2s s2c : NkeKey) (hc : c2s.key.length = 32)
    (hs : s2c.key.length = 32) (maxCount : Nat) (client server : NkeMessage) :
    let generateCookie := fun c2s s2c i => nkeGenerateCookie siv ring c2s s2c (nonces i)
    let request := { server with data := (prepareRequest client).2.data }
    let response := { client with
      data := (processRequest env (some (c2s, s2c)) generateCookie request).2.data }
    (prepareRequest client).1 = true ∧
    (checkMessageFormat request).1 = .ok ∧
    (checkMessageFormat response).1 = .ok ∧
    (processResponse env maxCount response).1.result = min 8 maxCount ∧
    (processResponse env maxCount response).1.cookies =
      (List.range (min 8 maxCount)).map (generateCookie c2s s2c) := by
  intro generateCookie request response
  have hlen : ∀ i, (generateCookie c2s s2c i).cookie.length = serverCookieLength :=
    fun i => length_nkeGenerateCookie siv ring hc hs (hn i)
  have hreq : request.data = encodeRecords requestRecords := by simp [request, prepareRequest_eq]
  have hresp : response.data = encodeRecords (responseRecords env (generateCookie c2s s2c)) :=
    processRequest_request_data env c2s s2c hlen hreq
  have hv := valid_responseRecords env hlen
  have hread := processResponse_response env maxCount (by simp at hL; omega)
    (fun i => by simp only [hlen i, serverCookieLength] at hL ⊢; omega) hv hresp
  refine ⟨by rw [prepareRequest_eq], ?_, ?_, ?_, ?_⟩
  · rw [checkMessageFormat_of_encodes ⟨valid_requestRecords, hreq.symm⟩ (by decide)]
    rfl
  · rw [checkMessageFormat_of_encodes ⟨hv, hresp.symm⟩ (by simp [responseRecords, cookieRecords])]
    simp [responseRecords, cookieRecords]
  · simp [hread, ResponseScan.result, ResponseScan.init, Nat.min_comm]
  · rw [hread, Nat.min_comm]
    rfl

theorem key_exchange_end_to_end_default_port :
    let env : KeEnv := ⟨serverCookieLength, ntpPortDefault, fun _ => none⟩
    let generateCookie := fun c2s s2c (_ : Nat) =>
      nkeGenerateCookie SivCmac.plain KeyRing.initial c2s s2c (List.replicate 16 0)
    let key : NkeKey := ⟨List.replicate 32 0⟩
    let empty : NkeMessage := ⟨[], 0, false, 0⟩
    let request := { empty with data := (prepareRequest empty).2.data }
    let response := { empty with
      data := (processRequest env (some (key, key)) generateCookie request).2.data }
    (prepareRequest empty).1 = true ∧
    (checkMessageFormat request).1 = .ok ∧
    (checkMessageFormat response).1 = .ok ∧
    (processResponse env 8 response).1.result = min 8 8 ∧
    (processResponse env 8 response).1.cookies =
      (List.range (min 8 8)).map (generateCookie key key) :=
  key_exchange_end_to_end ⟨serverCookieLength, ntpPortDefault, fun _ => none⟩ le_rfl SivCmac.plain
    KeyRing.initial _ (fun _ => List.length_replicate 16 0) ⟨List.replicate 32 0⟩
    ⟨List.replicate 32 0⟩ (List.length_replicate 32 0) (List.length_replicate 32 0) 8
    ⟨[], 0, false, 0⟩ ⟨[], 0, false, 0⟩

end ChronyNts.KeyExchange
