import ChronyNts.KeyExchange.Framing

/-!
# Requests and responses of NTS-KE

The application layer of `nts_ke.c`: the client's request (`prepare_request`), the
server's reading of it (`process_request`) and its answer (`prepare_response`),
and the client's reading of the answer (`process_response`).

Both readers are `recordLoop`s that stop at the first error, each with its own
step function (`processRequestRecord`, `processResponseRecord`) translating one
case of the C `switch (type)`.  The copy of a body into the reader's local
`data` array is `NkeRecord.body.take` of the array's size.

What the code takes from outside `nts_ke.c` is a parameter: `NKE_MAX_COOKIE_LENGTH`
of `nts_ke.h`, the configured NTP port and the address parser `UTI_StringToIP`
(`KeEnv`), the outcome of the TLS exporter `NKE_GetKeys`, and the cookies
`NKE_GenerateCookie` returns (`ServerKeys.lean` models that function).
-/

namespace ChronyNts.KeyExchange

/-! ## Constants -/

@[simp] def errorBadResponse : Int := -2
@[simp] def errorNone : Int := -1
@[simp] def errorUnrecognizedCriticalRecord : Int := 0
@[simp] def errorBadRequest : Int := 1

@[simp] def nextProtocolNone : Int := -1
@[simp] def nextProtocolNtpv4 : Int := 0
@[simp] def aeadNone : Int := -1
@[simp] def aeadAesSivCmac256 : Int := 15

/-- `MAX_RECORD_BODY_LENGTH`: the size of `process_request`'s body buffer. -/
@[simp] def maxRecordBodyLength : Nat := 256

/-- `MAX_COOKIES`: the number of cookies a response carries. -/
@[simp] def maxCookies : Nat := 8

/-- Modelled from the spec: `NTP_PORT` of `ntp.h`, the default NTP port 123 ("The NTP
port is advertised only if it differs from 123"). -/
@[simp] def ntpPortDefault : Int := 123

/-! ## Data from outside `nts_ke.c` -/

/-- An IP address, as `IPAddr` of `addressing.h`; only its identity matters here. -/
structure IPAddr where
  bytes : List UInt8
deriving DecidableEq, Repr

/-- What the KE code reads from its collaborators: `NKE_MAX_COOKIE_LENGTH`, the value of
`CNF_GetNTPPort ()` and the parser `UTI_StringToIP`. -/
structure KeEnv where
  maxCookieLength : Nat
  ntpPort : Int
  stringToIp : List UInt8 → Option IPAddr

/-- `NKE_Key`: key material from the TLS exporter; its `length` is `key.length`. -/
structure NkeKey where
  key : List UInt8
deriving DecidableEq, Repr

/-- `NKE_Cookie`: an opaque cookie; its `length` is `cookie.length`. -/
structure NkeCookie where
  cookie : List UInt8
deriving DecidableEq, Repr

/-- The 16-bit words `ntohs (data[i])` of a byte buffer, in order; an odd last byte
belongs to no word. -/
def ntohsWords : List UInt8 → List Nat
  | a :: b :: rest => ntohs a b :: ntohsWords rest
  | _ => []

/-! ## `prepare_request` -/

/-- The records of the client's request: critical Next-Protocol NTPv4, critical AEAD
AES-SIV-CMAC-256, End-of-Message. -/
def requestRecords : List NkeRecord :=
  [⟨true, recordNextProtocol, htons nextProtocolNtpv4⟩,
    ⟨true, recordAeadAlgorithm, htons aeadAesSivCmac256⟩, endOfMessage]

/-- `prepare_request`. -/
def prepareRequest (m : NkeMessage) : Bool × NkeMessage :=
  addRecords (resetMessage m) requestRecords

/-! ## `process_request` and `prepare_response` -/

/-- The locals of `process_request` that its loop updates. -/
structure RequestScan where
  nextProtocol : Int
  aeadAlgorithm : Int
  error : Int
  hasNextProtocol : Bool
deriving DecidableEq, Repr

/-- Their values before the loop. -/
def RequestScan.init : RequestScan := ⟨nextProtocolNone, aeadNone, errorNone, false⟩

/-- One round of `process_request`'s loop: the `switch (type)` on a record whose
body was copied into the 256-byte `data` array. -/
def processRequestRecord (s : RequestScan) (r : NkeRecord) : RequestScan :=
  let length := r.body.length
  let data := r.body.take maxRecordBodyLength
  if r.type = recordNextProtocol then
    if !r.critical ∨ length < 2 ∨ length % 2 ≠ 0 then { s with error := errorBadRequest }
    else
      { s with
        nextProtocol := if (ntohsWords data).any (fun w => (w : Int) = nextProtocolNtpv4)
          then nextProtocolNtpv4 else s.nextProtocol
        hasNextProtocol := true }
  else if r.type = recordAeadAlgorithm then
    if length < 2 ∨ length % 2 ≠ 0 then { s with error := errorBadRequest }
    else
      { s with
        aeadAlgorithm := if (ntohsWords data).any (fun w => (w : Int) = aeadAesSivCmac256)
          then aeadAesSivCmac256 else s.aeadAlgorithm }
  else if r.type = recordError ∨ r.type = recordWarning ∨ r.type = recordCookie then
    { s with error := errorBadRequest }
  else if r.type = recordEndOfMessage then s
  else if r.critical then { s with error := errorUnrecognizedCriticalRecord }
  else s

/-- The records of the server's response for an error: the error code, then
End-of-Message. -/
def errorResponseRecords (error : Int) : List NkeRecord :=
  [⟨true, recordError, htons error⟩, endOfMessage]

/-- The records of a successful response before the cookies: Next-Protocol, AEAD, and
the NTPv4 port when it is not the default one. -/
def responseHeadRecords (env : KeEnv) (nextProtocol aeadAlgorithm : Int) : List NkeRecord :=
  [⟨true, recordNextProtocol, htons nextProtocol⟩,
    ⟨true, recordAeadAlgorithm, htons aeadAlgorithm⟩] ++
  if env.ntpPort ≠ ntpPortDefault then [⟨true, recordNtpv4PortNegotiation, htons env.ntpPort⟩]
  else []

/-- The `MAX_COOKIES` non-critical Cookie records, the `i`-th holding the cookie of the
`i`-th call of `NKE_GenerateCookie`, then End-of-Message. -/
def cookieRecords (cookies : Nat → NkeCookie) : List NkeRecord :=
  (List.range maxCookies).map (fun i => ⟨false, recordCookie, (cookies i).cookie⟩) ++
    [endOfMessage]

/-- `prepare_response`: rebuild the message as the response.  `keys` is the outcome of
`NKE_GetKeys`, and `generateCookie c2s s2c i` the cookie of the `i`-th call of
`NKE_GenerateCookie`, which always succeeds.  On a failure the C returns 0 and
leaves the records added so far. -/
def prepareResponse (env : KeEnv) (keys : Option (NkeKey × NkeKey))
    (generateCookie : NkeKey → NkeKey → Nat → NkeCookie) (m : NkeMessage)
    (error nextProtocol aeadAlgorithm : Int) : Bool × NkeMessage :=
  let m := resetMessage m
  if error ≠ errorNone then addRecords m (errorResponseRecords error)
  else
    match addRecords m (responseHeadRecords env nextProtocol aeadAlgorithm) with
    | (false, m) => (false, m)
    | (true, m) =>
      match keys with
      | none => (false, m)
      | some (c2s, s2c) => addRecords m (cookieRecords (generateCookie c2s s2c))

/-- `process_request`: read the request, then build the response in the same buffer.
It ignores what `prepare_response` returns and always returns 1. -/
def processRequest (env : KeEnv) (keys : Option (NkeKey × NkeKey))
    (generateCookie : NkeKey → NkeKey → Nat → NkeCookie) (m : NkeMessage) :
    Bool × NkeMessage :=
  let s := (recordLoop (fun s => s.error ≠ errorNone) processRequestRecord RequestScan.init
    (resetMessageParsing m)).1
  let error := if !s.hasNextProtocol then errorBadRequest else s.error
  (true, (prepareResponse env keys generateCookie m error s.nextProtocol s.aeadAlgorithm).2)

/-! ## `process_response` -/

/-- The locals of `process_response` that its loop updates, with what it stores through
its pointer arguments: `cookies[0 .. num_cookies)`, and `*addr` and `*port` when it
writes them. -/
structure ResponseScan where
  nextProtocol : Int
  aeadAlgorithm : Int
  error : Int
  cookies : List NkeCookie
  addr : Option IPAddr
  port : Option Nat
deriving DecidableEq, Repr

/-- Their values before the loop. -/
def ResponseScan.init : ResponseScan := ⟨nextProtocolNone, aeadNone, errorNone, [], none, none⟩

/-- One round of `process_response`'s loop, with room for `maxCookies` cookies: the
`switch (type)` on a record whose body was copied into the
`NKE_MAX_COOKIE_LENGTH`-byte `data` array.  For a server address the C string in
`data` (up to its first NUL) goes to `UTI_StringToIP`. -/
def processResponseRecord (env : KeEnv) (maxCookies : Nat) (s : ResponseScan)
    (r : NkeRecord) : ResponseScan :=
  let length := r.body.length
  let data := r.body.take (2 * (env.maxCookieLength / 2))
  let word := ntohs (data.getD 0 0) (data.getD 1 0)
  if r.type = recordNextProtocol then
    if !r.critical ∨ length ≠ 2 ∨ (word : Int) ≠ nextProtocolNtpv4 then
      { s with error := errorBadResponse }
    else { s with nextProtocol := nextProtocolNtpv4 }
  else if r.type = recordAeadAlgorithm then
    { s with
      error := if length ≠ 2 ∨ (word : Int) ≠ aeadAesSivCmac256 then errorBadResponse
        else s.error
      aeadAlgorithm := aeadAesSivCmac256 }
  else if r.type = recordError ∨ r.type = recordWarning then { s with error := errorBadResponse }
  else if r.type = recordCookie then
    if length ≤ env.maxCookieLength ∧ s.cookies.length < maxCookies then
      { s with cookies := s.cookies ++ [⟨data.take length⟩] }
    else s
  else if r.type = recordEndOfMessage then s
  else if r.type = recordNtpv4ServerNegotiation then
    if length < 2 then { s with error := errorBadResponse }
    else
      let str := data.takeWhile (· ≠ 0)
      if length ≥ maxRecordBodyLength + 1 ∨ str.length ≥ maxRecordBodyLength + 1 then
        { s with error := errorBadResponse }
      else
        match env.stringToIp (str.take length) with
        | none => { s with error := errorBadResponse }
        | some a => { s with addr := some a }
  else if r.type = recordNtpv4PortNegotiation then
    if length ≠ 2 then { s with error := errorBadResponse }
    else { s with port := some word }
  else if r.critical then { s with error := 1 }
  else s

/-- The value `process_response` returns once its loop has ended. -/
def ResponseScan.result (s : ResponseScan) : Nat :=
  if s.nextProtocol ≠ nextProtocolNtpv4 ∨ s.aeadAlgorithm ≠ aeadAesSivCmac256 ∨
    s.error ≠ errorNone then 0
  else s.cookies.length

/-- `process_response` with room for `maxCookies` cookies: the scan after the loop
(its `result` is the C return value) and the message, whose `parsed` the loop moved. -/
def processResponse (env : KeEnv) (maxCookies : Nat) (m : NkeMessage) :
    ResponseScan × NkeMessage :=
  recordLoop (fun s => s.error ≠ errorNone) (processResponseRecord env maxCookies)
    ResponseScan.init (resetMessageParsing m)

end ChronyNts.KeyExchange
