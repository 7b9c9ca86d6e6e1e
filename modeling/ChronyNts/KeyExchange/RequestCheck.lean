import ChronyNts.KeyExchange.Negotiation

/-!
# What `process_request` answers

`process_request` reads the records of the request in order and stops at the first one
whose case of the `switch` sets `error` (`requestRecordError`).  Each case looks at the
record alone, so what it hands to `prepare_response` is a function of the records read
before that one (`requestRead`): it grants NTPv4 and AES-SIV-CMAC-256 when one of them
lists it, and it reports the error of the failing record, or Bad Request when no
Next-Protocol record came before it, since `has_next_protocol` is still 0 when the loop
ends.  An Unrecognized Critical Record therefore reaches the client only when it comes
after the Next-Protocol record.

Hence `processRequest_answer`: for every request holding a list of records and every
outcome of `NKE_GetKeys`, the buffer `process_request` leaves is the Error record of that
verdict, or the head records with what was granted followed, once the keys are exported,
by `MAX_COOKIES` cookies.

## Strategy

One lemma says what a round does (`processRequestRecord_eq`): it sets the error of a
failing record and changes nothing else, or it reads the record on (`RequestScan.readOn`).
The loop is then an induction on the records (`foldUntil_processRequestRecord`), and the
answer follows from the lemmas of `prepare_response`.
-/

namespace ChronyNts.KeyExchange

/-! ## One round of the loop -/

/-- The error a round of `process_request`'s loop sets on the record `r`, case by case of
its `switch`, or `none` when it reads on: a Next-Protocol record must be critical and hold
whole words, an AEAD record whole words; an Error, Warning or Cookie record is a bad
request, an unknown critical record an unrecognised one. -/
def requestRecordError (r : NkeRecord) : Option Int :=
  if r.type = recordNextProtocol then
    if !r.critical ∨ r.body.length < 2 ∨ r.body.length % 2 ≠ 0 then some errorBadRequest
    else none
  else if r.type = recordAeadAlgorithm then
    if r.body.length < 2 ∨ r.body.length % 2 ≠ 0 then some errorBadRequest else none
  else if r.type = recordError ∨ r.type = recordWarning ∨ r.type = recordCookie then
    some errorBadRequest
  else if r.type = recordEndOfMessage then none
  else if r.critical then some errorUnrecognizedCriticalRecord
  else none

/-- Whether `r` is a record of type `t` listing the value `v` among the words of the body
that `get_record` copies into the 256-byte `data` array. -/
def recordOffers (t : Nat) (v : Int) (r : NkeRecord) : Bool :=
  decide (r.type = t) && (ntohsWords (r.body.take maxRecordBodyLength)).any fun w => (w : Int) = v

/-- A round on a record that passes its check: a Next-Protocol record is noted, and what
it or an AEAD record lists is granted. -/
def RequestScan.readOn (s : RequestScan) (r : NkeRecord) : RequestScan :=
  { s with
    nextProtocol := if recordOffers recordNextProtocol nextProtocolNtpv4 r then nextProtocolNtpv4
      else s.nextProtocol
    aeadAlgorithm := if recordOffers recordAeadAlgorithm aeadAesSivCmac256 r
      then aeadAesSivCmac256 else s.aeadAlgorithm
    hasNextProtocol := s.hasNextProtocol || decide (r.type = recordNextProtocol) }

@[simp] theorem RequestScan.readOn_error (s : RequestScan) (r : NkeRecord) :
    (s.readOn r).error = s.error := rfl

theorem recordOffers_of_ne {t : Nat} (v : Int) {r : NkeRecord} (h : r.type ≠ t) :
    recordOffers t v r = false := by
  simp [recordOffers, h]

theorem recordOffers_of_eq {t : Nat} (v : Int) {r : NkeRecord} (h : r.type = t) :
    recordOffers t v r = (ntohsWords (r.body.take maxRecordBodyLength)).any fun w => (w : Int) = v := by
  simp [recordOffers, h]

theorem requestRecordError_ne_errorNone {r : NkeRecord} {e : Int}
    (h : requestRecordError r = some e) : e ≠ errorNone := by
  unfold requestRecordError at h
  split_ifs at h <;> cases h <;> decide

/-- A record of another type than Next-Protocol and AEAD that passes its check is read
on with no change. -/
theorem RequestScan.readOn_of_ne (s : RequestScan) {r : NkeRecord}
    (hnp : r.type ≠ recordNextProtocol) (haead : r.type ≠ recordAeadAlgorithm) :
    s.readOn r = s := by
  simp only [RequestScan.readOn, recordOffers_of_ne _ hnp, recordOffers_of_ne _ haead,
    decide_eq_false hnp, Bool.false_eq_true, if_false, Bool.or_false]

/-- What one round of the loop does: it sets the error of a failing record and changes
nothing else, or it reads the record on. -/
theorem processRequestRecord_eq (s : RequestScan) (r : NkeRecord) :
    processRequestRecord s r = match requestRecordError r with
      | some e => { s with error := e }
      | none => s.readOn r := by
  unfold processRequestRecord requestRecordError
  by_cases hnp : r.type = recordNextProtocol
  · have haead : r.type ≠ recordAeadAlgorithm := by rw [hnp]; decide
    rw [if_pos hnp, if_pos hnp]
    by_cases hbad : !r.critical ∨ r.body.length < 2 ∨ r.body.length % 2 ≠ 0
    · rw [if_pos hbad, if_pos hbad]
    · rw [if_neg hbad, if_neg hbad]
      simp only [RequestScan.readOn, recordOffers_of_eq _ hnp, recordOffers_of_ne _ haead,
        decide_eq_true hnp, Bool.or_true, Bool.false_eq_true, if_false]
  rw [if_neg hnp, if_neg hnp]
  by_cases haead : r.type = recordAeadAlgorithm
  · rw [if_pos haead, if_pos haead]
    by_cases hbad : r.body.length < 2 ∨ r.body.length % 2 ≠ 0
    · rw [if_pos hbad, if_pos hbad]
    · rw [if_neg hbad, if_neg hbad]
      simp only [RequestScan.readOn, recordOffers_of_eq _ haead, recordOffers_of_ne _ hnp,
        decide_eq_false hnp, Bool.or_false, Bool.false_eq_true, if_false]
  rw [if_neg haead, if_neg haead]
  split_ifs <;> simp only [RequestScan.readOn_of_ne s hnp haead]

/-! ## The loop -/

/-- The records `process_request` reads before it stops: those before the first one whose
check fails. -/
def requestRead (rs : List NkeRecord) : List NkeRecord :=
  rs.takeWhile fun r => (requestRecordError r).isNone

/-- The error of the first record that fails its check, if one does. -/
def requestFirstError (rs : List NkeRecord) : Option Int :=
  (rs.find? fun r => (requestRecordError r).isSome).bind requestRecordError

theorem requestRead_cons_of_none {r : NkeRecord} (rs : List NkeRecord)
    (h : requestRecordError r = none) : requestRead (r :: rs) = r :: requestRead rs := by
  simp [requestRead, List.takeWhile_cons, h]

theorem requestRead_cons_of_some {r : NkeRecord} (rs : List NkeRecord) {e : Int}
    (h : requestRecordError r = some e) : requestRead (r :: rs) = [] := by
  simp [requestRead, List.takeWhile_cons, h]

theorem requestFirstError_cons_of_none {r : NkeRecord} (rs : List NkeRecord)
    (h : requestRecordError r = none) : requestFirstError (r :: rs) = requestFirstError rs := by
  simp [requestFirstError, List.find?_cons, h]

theorem requestFirstError_cons_of_some {r : NkeRecord} (rs : List NkeRecord) {e : Int}
    (h : requestRecordError r = some e) : requestFirstError (r :: rs) = some e := by
  simp [requestFirstError, List.find?_cons, h]

/-- From a state without error, the loop reads the records up to the first failing one:
it has noted a Next-Protocol record and granted what one of the records read lists, and
its error is that of the failing record. -/
theorem foldUntil_processRequestRecord (rs : List NkeRecord) {s : RequestScan}
    (hs : s.error = errorNone) :
    foldUntil (fun s => s.error ≠ errorNone) processRequestRecord s rs =
      { nextProtocol := if (requestRead rs).any (recordOffers recordNextProtocol nextProtocolNtpv4)
          then nextProtocolNtpv4 else s.nextProtocol
        aeadAlgorithm := if (requestRead rs).any (recordOffers recordAeadAlgorithm aeadAesSivCmac256)
          then aeadAesSivCmac256 else s.aeadAlgorithm
        error := (requestFirstError rs).getD errorNone
        hasNextProtocol := s.hasNextProtocol ||
          (requestRead rs).any fun r => decide (r.type = recordNextProtocol) } := by
  induction rs generalizing s with
  | nil =>
    simp only [foldUntil_nil, requestRead, requestFirstError, List.takeWhile_nil, List.any_nil,
      List.find?_nil, Option.none_bind, Option.getD_none, Bool.false_eq_true, if_false,
      Bool.or_false, ← hs]
  | cons r rs ih =>
    rw [foldUntil_cons, if_neg (by simpa using hs), processRequestRecord_eq]
    cases he : requestRecordError r with
    | some e =>
      rw [foldUntil_of_stop _ (by simpa using requestRecordError_ne_errorNone he),
        requestRead_cons_of_some rs he, requestFirstError_cons_of_some rs he]
      simp only [List.any_nil, Bool.false_eq_true, if_false, Option.getD_some, Bool.or_false]
    | none =>
      rw [ih (s := s.readOn r) hs, requestRead_cons_of_none rs he,
        requestFirstError_cons_of_none rs he]
      simp only [RequestScan.readOn, List.any_cons, Bool.or_assoc]
      by_cases h1 : recordOffers recordNextProtocol nextProtocolNtpv4 r <;>
        by_cases h2 : recordOffers recordAeadAlgorithm aeadAesSivCmac256 r <;>
        simp only [h1, h2, Bool.or_eq_true, Bool.false_eq_true, true_or, false_or, if_true, if_false,
          ite_self]

/-! ## The answer -/

/-- The error `process_request` passes to `prepare_response` for a request of the records
`rs`: that of the first failing record when a Next-Protocol record was read before it,
none when no record fails and one was read, and Bad Request when none was read. -/
def requestError (rs : List NkeRecord) : Int :=
  if (requestRead rs).any fun r => decide (r.type = recordNextProtocol) then
    (requestFirstError rs).getD errorNone
  else errorBadRequest

/-- The protocol it passes: NTPv4 when a record read lists it, `NEXT_PROTOCOL_NONE`
otherwise. -/
def requestNextProtocol (rs : List NkeRecord) : Int :=
  if (requestRead rs).any (recordOffers recordNextProtocol nextProtocolNtpv4) then
    nextProtocolNtpv4
  else nextProtocolNone

/-- The algorithm it passes: AES-SIV-CMAC-256 when a record read lists it, `AEAD_NONE`
otherwise. -/
def requestAeadAlgorithm (rs : List NkeRecord) : Int :=
  if (requestRead rs).any (recordOffers recordAeadAlgorithm aeadAesSivCmac256) then
    aeadAesSivCmac256
  else aeadNone

theorem processRequest_eq_verdict (env : KeEnv) (keys : Option (NkeKey × NkeKey))
    (generateCookie : NkeKey → NkeKey → Nat → NkeCookie) {m : NkeMessage} {rs : List NkeRecord}
    (hrs : EncodesRecords m.data rs) :
    processRequest env keys generateCookie m = (true, (prepareResponse env keys generateCookie m
      (requestError rs) (requestNextProtocol rs) (requestAeadAlgorithm rs)).2) := by
  simp only [processRequest, recordLoop_fst_of_encodes _ _ _ hrs.1 hrs.2.symm,
    foldUntil_processRequestRecord rs (s := RequestScan.init) rfl]
  simp only [RequestScan.init, Bool.false_or, requestError, requestNextProtocol,
    requestAeadAlgorithm]
  cases (requestRead rs).any fun r => decide (r.type = recordNextProtocol) <;> rfl

/-- What `process_request` answers depends on the bytes of the request alone. -/
theorem processRequest_of_data (env : KeEnv) (keys : Option (NkeKey × NkeKey))
    (generateCookie : NkeKey → NkeKey → Nat → NkeCookie) {m m' : NkeMessage}
    {rs : List NkeRecord} (hrs : EncodesRecords m.data rs) (hdata : m'.data = m.data) :
    processRequest env keys generateCookie m' = processRequest env keys generateCookie m := by
  rw [processRequest_eq_verdict env keys generateCookie hrs,
    processRequest_eq_verdict env keys generateCookie (by rwa [hdata])]
  rfl

theorem valid_errorResponseRecords (error : Int) : ∀ r ∈ errorResponseRecords error, r.Valid := by
  simp [errorResponseRecords, endOfMessage, NkeRecord.Valid]

theorem length_encodeRecords_errorResponseRecords (error : Int) :
    (encodeRecords (errorResponseRecords error)).length = 10 := rfl

/-- `prepare_response` for an error: the Error record and End-of-Message, which fit. -/
theorem prepareResponse_of_error (env : KeEnv) (keys : Option (NkeKey × NkeKey))
    (generateCookie : NkeKey → NkeKey → Nat → NkeCookie) (m : NkeMessage)
    {error : Int} (herror : error ≠ errorNone) (nextProtocol aeadAlgorithm : Int) :
    (prepareResponse env keys generateCookie m error nextProtocol aeadAlgorithm).2.data =
      encodeRecords (errorResponseRecords error) := by
  unfold prepareResponse
  rw [if_pos herror, addRecords_of_fit _ (valid_errorResponseRecords error)
    (by simp [length_encodeRecords_errorResponseRecords, NkeMessage.length])]
  exact List.nil_append _

/-- For every request holding a list of records and every outcome of `NKE_GetKeys` (with
cookies of `NKE_GenerateCookie`'s length): the buffer `process_request` leaves is the
Error record of `requestError` when the request is rejected, and otherwise the head
records granting `requestNextProtocol` and `requestAeadAlgorithm`, followed by
`MAX_COOKIES` cookies and End-of-Message once the keys are exported, and by nothing when
they are not. -/
theorem processRequest_answer (env : KeEnv) (keys : Option (NkeKey × NkeKey))
    {generateCookie : NkeKey → NkeKey → Nat → NkeCookie}
    (hlen : ∀ c2s s2c, keys = some (c2s, s2c) →
      ∀ i, (generateCookie c2s s2c i).cookie.length = serverCookieLength)
    {m : NkeMessage} {rs : List NkeRecord} (hrs : EncodesRecords m.data rs) :
    (processRequest env keys generateCookie m).2.data = encodeRecords
      (if requestError rs = errorNone then
        responseHeadRecords env (requestNextProtocol rs) (requestAeadAlgorithm rs) ++
          (keys.map fun k => cookieRecords (generateCookie k.1 k.2)).getD []
      else errorResponseRecords (requestError rs)) := by
  rw [processRequest_eq_verdict env keys generateCookie hrs]
  split_ifs with herror
  · rw [herror]
    rcases keys with _ | ⟨c2s, s2c⟩
    · rw [prepareResponse_of_no_keys, Option.map_none', Option.getD_none, List.append_nil]
    · rw [prepareResponse_of_keys env _ _ c2s s2c (hlen c2s s2c rfl)]
      rfl
  · exact prepareResponse_of_error env keys generateCookie m herror _ _

/-- An unknown critical record is answered with Unrecognized Critical Record after the
Next-Protocol record, and with Bad Request before it. -/
theorem processRequest_answer_unknown_critical :
    let env : KeEnv := ⟨serverCookieLength, ntpPortDefault, fun _ => none⟩
    let generateCookie := fun (_ _ : NkeKey) (_ : Nat) => NkeCookie.mk []
    let unknown : NkeRecord := ⟨true, 0x4000, []⟩
    let nextProtocol : NkeRecord := ⟨true, recordNextProtocol, htons nextProtocolNtpv4⟩
    let answer := fun rs => (processRequest env none generateCookie ⟨encodeRecords rs, 0, false, 0⟩).2.data
    answer [nextProtocol, unknown, endOfMessage] =
        encodeRecords (errorResponseRecords errorUnrecognizedCriticalRecord) ∧
      answer [unknown, nextProtocol, endOfMessage] =
        encodeRecords (errorResponseRecords errorBadRequest) := by
  intro env generateCookie unknown nextProtocol answer
  have hlen : ∀ c2s s2c, (none : Option (NkeKey × NkeKey)) = some (c2s, s2c) →
      ∀ i, (generateCookie c2s s2c i).cookie.length = serverCookieLength := fun _ _ h => nomatch h
  exact ⟨(@processRequest_answer env none generateCookie hlen _ [nextProtocol, unknown, endOfMessage]
      ⟨by decide, rfl⟩).trans (by decide),
    (@processRequest_answer env none generateCookie hlen _ [unknown, nextProtocol, endOfMessage]
      ⟨by decide, rfl⟩).trans (by decide)⟩

end ChronyNts.KeyExchange
