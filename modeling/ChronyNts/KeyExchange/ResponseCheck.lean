import ChronyNts.KeyExchange.ClientResponse

/-!
# What `process_response` accepts

`process_response` reads the records of the buffer in order and stops at the first one
that sets `error`.  Whether a record sets it depends on the record alone
(`ResponseRecordOk`): no case of the `switch` looks at what came before, so a second
Next-Protocol or AEAD record passes the same check as the first
(`processResponse_duplicated_negotiation`).

Hence the characterisation `processResponse_result_iff`: the function returns a nonzero
value exactly when every record passes its check and the buffer holds a Next-Protocol
record, an AEAD record and a Cookie record whose body fits in `NKE_MAX_COOKIE_LENGTH`.
The value is the number of such Cookie records capped at `max_cookies`, and the stored
cookies are their bodies in order.

## Strategy

One lemma per field says what a round of the loop does to it
(`error_processResponseRecord_eq_errorNone_iff` and the three after it).  The loop then
has two outcomes: a record that fails ends it with an error
(`error_foldUntil_of_not_ok`); otherwise it reads every record, and the fields are
functions of the whole list (`foldUntil_of_ok`).  Both need the body copy `data` to hold
a whole 2-byte word and a whole cookie, which `NKE_MAX_COOKIE_LENGTH = 256` of
`nts_ke.h` gives: it is even and at least 2.
-/

namespace ChronyNts.KeyExchange

/-! ## The check on each record -/

/-- What `process_response` requires of one record, case by case of its `switch`: a
critical Next-Protocol record holding NTPv4, an AEAD record holding AES-SIV-CMAC-256, no
Error or Warning, a server name of 2 to `MAX_RECORD_BODY_LENGTH` bytes whose C string in
the copied body parses, a 2-byte port, and no other critical record.  Cookie and
End-of-Message records always pass. -/
def ResponseRecordOk (env : KeEnv) (r : NkeRecord) : Prop :=
  if r.type = recordNextProtocol then r.critical ∧ r.body = htons nextProtocolNtpv4
  else if r.type = recordAeadAlgorithm then r.body = htons aeadAesSivCmac256
  else if r.type = recordError ∨ r.type = recordWarning then False
  else if r.type = recordCookie ∨ r.type = recordEndOfMessage then True
  else if r.type = recordNtpv4ServerNegotiation then
    2 ≤ r.body.length ∧ r.body.length ≤ maxRecordBodyLength ∧
      (env.stringToIp ((r.body.take env.maxCookieLength).takeWhile (· ≠ 0))).isSome
  else if r.type = recordNtpv4PortNegotiation then r.body.length = 2
  else r.critical = false

instance (env : KeEnv) (r : NkeRecord) : Decidable (ResponseRecordOk env r) :=
  inferInstanceAs (Decidable (ite _ _ _))

/-- A Cookie record whose body fits in an `NKE_Cookie`: the ones `process_response` stores
while it has room. -/
def storableCookie (env : KeEnv) (r : NkeRecord) : Bool :=
  decide (r.type = recordCookie ∧ r.body.length ≤ env.maxCookieLength)

theorem ite_errorBadResponse_eq_errorNone {c : Prop} [Decidable c] :
    (if c then errorBadResponse else errorNone) = errorNone ↔ ¬c := by
  rw [ite_eq_right_iff, imp_false.symm]
  exact imp_congr_right fun _ => iff_false_intro (by decide)

section Step

variable (env : KeEnv) (maxCookies : Nat) (hL : 2 ≤ env.maxCookieLength)
  (heven : env.maxCookieLength % 2 = 0)

include hL in
/-- A 2-byte body, copied into `data`, reads as the word `v` exactly when it is
`htons (v)`. -/
theorem word_eq_iff {body : List UInt8} (v : Int) (hv : 0 ≤ v ∧ v < 65536) :
    (body.length = 2 ∧ (ntohs ((body.take (2 * (env.maxCookieLength / 2))).getD 0 0)
      ((body.take (2 * (env.maxCookieLength / 2))).getD 1 0) : Int) = v) ↔ body = htons v := by
  constructor
  · rintro ⟨hb, hw⟩
    match body, hb with
    | [a, b], _ =>
      rw [List.take_of_length_le (by simp; omega)] at hw
      rw [← hw]
      exact (htons_ntohs a b).symm
  · rintro rfl
    refine ⟨rfl, ?_⟩
    rw [List.take_of_length_le (by simp; omega), ntohs_htons]
    omega

include hL heven in
/-- A round that starts without error ends without error exactly when the record passes
its check. -/
theorem error_processResponseRecord_eq_errorNone_iff {s : ResponseScan} (hs : s.error = errorNone)
    (r : NkeRecord) :
    (processResponseRecord env maxCookies s r).error = errorNone ↔ ResponseRecordOk env r := by
  obtain ⟨critical, type, body⟩ := r
  have hdata : 2 * (env.maxCookieLength / 2) = env.maxCookieLength := by omega
  simp only [processResponseRecord, ResponseRecordOk, apply_ite ResponseScan.error, hs, ite_self]
  by_cases hnp : type = recordNextProtocol
  · rw [if_pos hnp, if_pos hnp, ite_errorBadResponse_eq_errorNone,
      ← word_eq_iff env hL nextProtocolNtpv4 (by decide)]
    simp only [not_or, ne_eq, not_not, Bool.not_eq_true', Bool.not_eq_false]
  rw [if_neg hnp, if_neg hnp]
  by_cases haead : type = recordAeadAlgorithm
  · rw [if_pos haead, if_pos haead, ite_errorBadResponse_eq_errorNone,
      ← word_eq_iff env hL aeadAesSivCmac256 (by decide)]
    simp only [not_or, ne_eq, not_not]
  rw [if_neg haead, if_neg haead]
  by_cases herr : type = recordError ∨ type = recordWarning
  · rw [if_pos herr, if_pos herr]
    decide
  rw [if_neg herr, if_neg herr]
  by_cases hce : type = recordCookie ∨ type = recordEndOfMessage
  · rw [if_pos hce]
    rcases hce with h | h <;> simp [h]
  rw [if_neg hce, if_neg (fun h => hce (.inl h)), if_neg (fun h => hce (.inr h))]
  by_cases hserver : type = recordNtpv4ServerNegotiation
  · rw [if_pos hserver, if_pos hserver, hdata]
    have hstr : ((body.take env.maxCookieLength).takeWhile (· ≠ 0)).length ≤ body.length :=
      (List.takeWhile_prefix _).length_le.trans (List.length_take_le' _ _)
    rw [List.take_of_length_le hstr, maxRecordBodyLength]
    generalize env.stringToIp _ = o
    by_cases hshort : body.length < 2
    · rw [if_pos hshort]
      exact iff_of_false (by decide) (by omega)
    by_cases hlong : body.length ≤ 256
    · rw [if_neg hshort, if_neg (by omega)]
      cases o
      · exact iff_of_false (show errorBadResponse ≠ errorNone by decide)
          fun h => Bool.false_ne_true h.2.2
      · exact iff_of_true rfl ⟨by omega, hlong, rfl⟩
    · rw [if_neg hshort, if_pos (.inl (by omega))]
      simp [hlong]
  rw [if_neg hserver, if_neg hserver]
  by_cases hport : type = recordNtpv4PortNegotiation
  · rw [if_pos hport, if_pos hport, ite_errorBadResponse_eq_errorNone, not_not]
  rw [if_neg hport, if_neg hport]
  cases critical <;> decide

include hL in
/-- A record that passes its check sets `next_protocol` when it is a Next-Protocol record
and leaves it otherwise. -/
theorem nextProtocol_processResponseRecord_of_ok {s : ResponseScan} {r : NkeRecord}
    (hr : ResponseRecordOk env r) :
    (processResponseRecord env maxCookies s r).nextProtocol =
      if r.type = recordNextProtocol then nextProtocolNtpv4 else s.nextProtocol := by
  by_cases hnp : r.type = recordNextProtocol
  · obtain ⟨critical, type, body⟩ := r
    simp only [ResponseRecordOk, if_pos hnp] at hr
    obtain ⟨rfl, rfl⟩ := hr
    dsimp only at hnp
    subst hnp
    rw [processResponseRecord_nextProtocol env maxCookies hL]
    rfl
  · simp only [processResponseRecord, if_neg hnp, apply_ite ResponseScan.nextProtocol, ite_self]
    generalize env.stringToIp _ = o
    cases o <;> simp only [ite_self]

/-- Every AEAD record sets `aead_algorithm`, whether or not it passes its check. -/
theorem aeadAlgorithm_processResponseRecord (s : ResponseScan) (r : NkeRecord) :
    (processResponseRecord env maxCookies s r).aeadAlgorithm =
      if r.type = recordAeadAlgorithm then aeadAesSivCmac256 else s.aeadAlgorithm := by
  by_cases hnp : r.type = recordNextProtocol
  · simp only [processResponseRecord, if_pos hnp, apply_ite ResponseScan.aeadAlgorithm, ite_self]
    rw [if_neg (by rw [hnp]; decide)]
  · simp only [processResponseRecord, if_neg hnp, apply_ite ResponseScan.aeadAlgorithm, ite_self]
    generalize env.stringToIp _ = o
    cases o <;> simp only [ite_self]

include heven in
/-- A storable cookie is stored, with its whole body, while there is room. -/
theorem cookies_processResponseRecord (s : ResponseScan) (r : NkeRecord) :
    (processResponseRecord env maxCookies s r).cookies =
      if storableCookie env r ∧ s.cookies.length < maxCookies then s.cookies ++ [⟨r.body⟩]
      else s.cookies := by
  by_cases hc : r.type = recordCookie
  · have hdata : 2 * (env.maxCookieLength / 2) = env.maxCookieLength := by omega
    simp only [processResponseRecord, hc, recordCookie, recordNextProtocol, recordAeadAlgorithm,
      recordError, recordWarning, Nat.reduceEqDiff, if_false, if_true, false_or, storableCookie,
      hdata, decide_eq_true_eq, true_and]
    split_ifs with h
    · rw [List.take_of_length_le h.1, List.take_length]
    · rfl
  · rw [processResponseRecord_cookies env maxCookies s hc,
      if_neg fun h => hc (of_decide_eq_true h.1).1]

/-! ## The loop -/

/-- The bodies of the Cookie records `process_response` can store, in order. -/
def storableCookies (env : KeEnv) (rs : List NkeRecord) : List NkeCookie :=
  (rs.filter (storableCookie env)).map fun r => ⟨r.body⟩

variable {env} in
theorem storableCookies_cons_of_pos {r : NkeRecord} (rs : List NkeRecord)
    (h : storableCookie env r) : storableCookies env (r :: rs) = ⟨r.body⟩ :: storableCookies env rs := by
  rw [storableCookies, List.filter_cons_of_pos h, List.map_cons, storableCookies]

variable {env} in
theorem storableCookies_cons_of_neg {r : NkeRecord} (rs : List NkeRecord)
    (h : ¬storableCookie env r) : storableCookies env (r :: rs) = storableCookies env rs := by
  rw [storableCookies, List.filter_cons_of_neg h, storableCookies]

include hL heven in
/-- A record that fails its check ends the loop with an error, wherever it stands. -/
theorem error_foldUntil_of_not_ok {rs : List NkeRecord}
    (hbad : ∃ r ∈ rs, ¬ResponseRecordOk env r) (s : ResponseScan) :
    (foldUntil (fun s => s.error ≠ errorNone) (processResponseRecord env maxCookies) s
      rs).error ≠ errorNone := by
  induction rs generalizing s with
  | nil => simp at hbad
  | cons r rs ih =>
    rw [foldUntil_cons]
    split
    · rename_i hstop
      simpa using hstop
    · rename_i hstop
      have hs : s.error = errorNone := by simpa using hstop
      by_cases hr : ResponseRecordOk env r
      · obtain ⟨r', hr', hbad'⟩ := hbad
        refine ih ⟨r', ?_, hbad'⟩ _
        rcases List.mem_cons.mp hr' with rfl | h
        · exact absurd hr hbad'
        · exact h
      · have herr := (error_processResponseRecord_eq_errorNone_iff env maxCookies hL heven hs r).not.mpr hr
        rw [foldUntil_of_stop _ (by simpa using herr)]
        exact herr

/-- A field that a record of type `t` sets to `v`, read after the records `r :: rs`. -/
theorem eq_iff_exists_type_cons {α : Type} {a v x : α} {t : Nat} (r : NkeRecord)
    (rs : List NkeRecord)
    (h : a = v ↔ (∃ r' ∈ rs, r'.type = t) ∨ (if r.type = t then v else x) = v) :
    a = v ↔ (∃ r' ∈ r :: rs, r'.type = t) ∨ x = v := by
  rw [h]
  simp only [List.mem_cons, exists_eq_or_imp]
  by_cases hr : r.type = t <;> simp [hr]

include hL heven in
/-- When every record passes its check, the loop reads them all: it has set
`next_protocol` and `aead_algorithm` if a record of their type came, and stored the
storable cookies while there was room. -/
theorem foldUntil_of_ok {rs : List NkeRecord} (hok : ∀ r ∈ rs, ResponseRecordOk env r)
    {s : ResponseScan} (hs : s.error = errorNone) :
    (foldUntil (fun s => s.error ≠ errorNone) (processResponseRecord env maxCookies) s
        rs).error = errorNone ∧
      ((foldUntil (fun s => s.error ≠ errorNone) (processResponseRecord env maxCookies) s
          rs).nextProtocol = nextProtocolNtpv4 ↔
        (∃ r ∈ rs, r.type = recordNextProtocol) ∨ s.nextProtocol = nextProtocolNtpv4) ∧
      ((foldUntil (fun s => s.error ≠ errorNone) (processResponseRecord env maxCookies) s
          rs).aeadAlgorithm = aeadAesSivCmac256 ↔
        (∃ r ∈ rs, r.type = recordAeadAlgorithm) ∨ s.aeadAlgorithm = aeadAesSivCmac256) ∧
      (foldUntil (fun s => s.error ≠ errorNone) (processResponseRecord env maxCookies) s
          rs).cookies = s.cookies ++ (storableCookies env rs).take (maxCookies - s.cookies.length) := by
  induction rs generalizing s with
  | nil => simp [hs, storableCookies]
  | cons r rs ih =>
    have hr := hok r (List.mem_cons_self _ _)
    rw [foldUntil_cons, if_neg (by simpa using hs)]
    obtain ⟨herr, hnp, haead, hcookies⟩ := ih (fun r' h => hok r' (List.mem_cons_of_mem _ h))
      ((error_processResponseRecord_eq_errorNone_iff env maxCookies hL heven hs r).mpr hr)
    refine ⟨herr, ?_, ?_, ?_⟩
    · rw [nextProtocol_processResponseRecord_of_ok env maxCookies hL hr] at hnp
      exact eq_iff_exists_type_cons r rs hnp
    · rw [aeadAlgorithm_processResponseRecord] at haead
      exact eq_iff_exists_type_cons r rs haead
    · rw [hcookies, cookies_processResponseRecord env maxCookies heven]
      by_cases hc : storableCookie env r
      · by_cases hroom : s.cookies.length < maxCookies
        · rw [if_pos ⟨hc, hroom⟩, storableCookies_cons_of_pos rs hc, List.length_append,
            List.length_singleton, show maxCookies - s.cookies.length =
              maxCookies - (s.cookies.length + 1) + 1 by omega, List.take_succ_cons,
            List.append_assoc]
          rfl
        · rw [if_neg (fun h => hroom h.2), Nat.sub_eq_zero_of_le (by omega), List.take_zero,
            List.take_zero]
      · rw [if_neg (fun h => hc h.1), storableCookies_cons_of_neg rs hc]

end Step

/-! ## The value returned -/

theorem ResponseScan.result_ne_zero_iff (s : ResponseScan) :
    s.result ≠ 0 ↔ s.nextProtocol = nextProtocolNtpv4 ∧ s.aeadAlgorithm = aeadAesSivCmac256 ∧
      s.error = errorNone ∧ s.cookies ≠ [] := by
  unfold ResponseScan.result
  split <;> rename_i h
  · exact iff_of_false (not_not.mpr rfl) fun h' =>
      h.elim (· h'.1) (·.elim (· h'.2.1) (· h'.2.2.1))
  · simp only [ne_eq, not_or, not_not] at h
    simp [h]

theorem ResponseScan.result_of_ne_zero {s : ResponseScan} (h : s.result ≠ 0) :
    s.result = s.cookies.length := by
  unfold ResponseScan.result at h ⊢
  split at h
  · exact absurd rfl h
  · rw [if_neg ‹_›]

theorem storableCookies_eq_nil_iff (env : KeEnv) (rs : List NkeRecord) :
    storableCookies env rs = [] ↔ ∀ r ∈ rs, ¬storableCookie env r := by
  simp [storableCookies, List.filter_eq_nil_iff]

/-- For every buffer holding a list of records, with room for `maxCookies ≥ 1` cookies and
`NKE_MAX_COOKIE_LENGTH` even and at least 2: `process_response` returns a nonzero value
exactly when every record passes its check and there are a Next-Protocol record, an AEAD
record and a Cookie record that fits.  The value is then the number of such Cookie
records capped at `maxCookies`, and the cookies are the first of their bodies. -/
theorem processResponse_result_iff (env : KeEnv) (hL : 2 ≤ env.maxCookieLength)
    (heven : env.maxCookieLength % 2 = 0) {maxCookies : Nat} (hn : 1 ≤ maxCookies)
    {m : NkeMessage} {rs : List NkeRecord} (hrs : EncodesRecords m.data rs) :
    ((processResponse env maxCookies m).1.result ≠ 0 ↔
        (∀ r ∈ rs, ResponseRecordOk env r) ∧ (∃ r ∈ rs, r.type = recordNextProtocol) ∧
          (∃ r ∈ rs, r.type = recordAeadAlgorithm) ∧ (∃ r ∈ rs, storableCookie env r)) ∧
      ((processResponse env maxCookies m).1.result ≠ 0 →
        (processResponse env maxCookies m).1.result =
            min maxCookies (storableCookies env rs).length ∧
          (processResponse env maxCookies m).1.cookies =
            (storableCookies env rs).take maxCookies) := by
  rw [processResponse, recordLoop_fst_of_encodes _ _ _ hrs.1 hrs.2.symm]
  by_cases hok : ∀ r ∈ rs, ResponseRecordOk env r
  · obtain ⟨herr, hnp, haead, hcookies⟩ :=
      foldUntil_of_ok env maxCookies hL heven hok (s := ResponseScan.init) rfl
    simp only [eq_false (show ResponseScan.init.nextProtocol ≠ nextProtocolNtpv4 by decide),
      eq_false (show ResponseScan.init.aeadAlgorithm ≠ aeadAesSivCmac256 by decide), or_false,
      show ResponseScan.init.cookies = [] from rfl, List.nil_append, List.length_nil,
      Nat.sub_zero] at hnp haead hcookies
    refine ⟨?_, fun h => ⟨by rw [ResponseScan.result_of_ne_zero h, hcookies, List.length_take],
      hcookies⟩⟩
    rw [ResponseScan.result_ne_zero_iff, hnp, haead, hcookies, ne_eq, List.take_eq_nil_iff,
      storableCookies_eq_nil_iff]
    simp only [herr, eq_true hok, true_and, not_or, not_forall, not_not, exists_prop,
      eq_false (show maxCookies ≠ 0 by omega), not_false_eq_true, forall_const]
  · have herr := error_foldUntil_of_not_ok env maxCookies hL heven (by simpa using hok)
      ResponseScan.init
    simp only [ResponseScan.result_ne_zero_iff, herr, hok]
    simp

/-- A response that sends its Next-Protocol and its AEAD record twice each. -/
def duplicatedNegotiationResponse : List NkeRecord :=
  [⟨true, recordNextProtocol, htons nextProtocolNtpv4⟩,
    ⟨true, recordNextProtocol, htons nextProtocolNtpv4⟩,
    ⟨true, recordAeadAlgorithm, htons aeadAesSivCmac256⟩,
    ⟨true, recordAeadAlgorithm, htons aeadAesSivCmac256⟩, ⟨false, recordCookie, [7]⟩, endOfMessage]

/-- `check_message_format` accepts that response, and `process_response` returns 1 on it:
nothing counts the negotiation records. -/
theorem processResponse_duplicated_negotiation :
    let env : KeEnv := ⟨256, ntpPortDefault, fun _ => none⟩
    let m : NkeMessage := ⟨encodeRecords duplicatedNegotiationResponse, 0, false, 0⟩
    (checkMessageFormat m).1 = .ok ∧ (processResponse env 1 m).1.result = 1 := by
  intro env m
  have hrs : EncodesRecords m.data duplicatedNegotiationResponse := ⟨by decide, rfl⟩
  rw [checkMessageFormat_of_encodes hrs (by decide), processResponse,
    recordLoop_fst_of_encodes _ _ _ hrs.1 rfl]
  decide

theorem processResponse_result_iff_duplicated_negotiation :
    let env : KeEnv := ⟨256, ntpPortDefault, fun _ => none⟩
    let m : NkeMessage := ⟨encodeRecords duplicatedNegotiationResponse, 0, false, 0⟩
    2 ≤ env.maxCookieLength ∧ env.maxCookieLength % 2 = 0 ∧ 1 ≤ 1 ∧
      EncodesRecords m.data duplicatedNegotiationResponse ∧
      ((processResponse env 1 m).1.result ≠ 0 ↔
          (∀ r ∈ duplicatedNegotiationResponse, ResponseRecordOk env r) ∧
            (∃ r ∈ duplicatedNegotiationResponse, r.type = recordNextProtocol) ∧
            (∃ r ∈ duplicatedNegotiationResponse, r.type = recordAeadAlgorithm) ∧
            (∃ r ∈ duplicatedNegotiationResponse, storableCookie env r)) ∧
        ((processResponse env 1 m).1.result ≠ 0 →
          (processResponse env 1 m).1.result =
              min 1 (storableCookies env duplicatedNegotiationResponse).length ∧
            (processResponse env 1 m).1.cookies =
              (storableCookies env duplicatedNegotiationResponse).take 1) :=
  ⟨by decide, by decide, le_rfl, ⟨by decide, rfl⟩,
    processResponse_result_iff _ (by decide) (by decide) le_rfl ⟨by decide, rfl⟩⟩

end ChronyNts.KeyExchange
