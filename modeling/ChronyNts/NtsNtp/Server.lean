import ChronyNts.KeyExchange.Message

/-!
# The NTS-NTP server's extension fields

The server side of `nts_ntp.c` reads the extension fields of a client's request and
adds fields to the response: `parse_auth_and_eef` reads the header of an
Authenticator-and-EEF field, `NTS_CheckRequestAuth` scans the request's fields, and
`NTS_GenerateResponseAuth` copies the Unique-Identifier and adds a cookie for each cookie
or placeholder of the request.

The extension-field code of `ntp_ext.c` is not part of this source.  The fields of a
packet are the list `NEF_ParseField` yields, in order, until it returns an offset below
the one it was given; `NEF_AddField` is modelled from the spec.

## Strategy

Each loop is a fold over the fields, and each result is characterised once for every
list of fields: what `NTS_CheckRequestAuth` checks (`ntsCheckRequestAuth_iff`) and which
fields `NTS_GenerateResponseAuth` appends (`ntsGenerateResponseAuth_fields`).
-/

namespace ChronyNts.NtsNtp

open ChronyNts.KeyExchange (ntohs)

/-! ## Packets and extension fields -/

/-- Modelled from the spec: the NTP mode of a client's packet in `ntp.h`. -/
@[simp] def modeClient : Nat := 3

/-- Modelled from the spec: the NTP mode of a server's packet in `ntp.h`. -/
@[simp] def modeServer : Nat := 4

/-- Modelled from the spec: the type of the NTS Unique-Identifier field, as RFC 8915
assigns it. -/
@[simp] def ntpEfNtsUniqueIdentifier : Nat := 0x0104

/-- Modelled from the spec: the type of the NTS Cookie field. -/
@[simp] def ntpEfNtsCookie : Nat := 0x0204

/-- Modelled from the spec: the type of the NTS Cookie-Placeholder field. -/
@[simp] def ntpEfNtsCookiePlaceholder : Nat := 0x0304

/-- Modelled from the spec: the type of the NTS Authenticator-and-EEF field. -/
@[simp] def ntpEfNtsAuthAndEef : Nat := 0x0404

/-- An extension field as `NEF_ParseField` reports it: its type and its body. -/
structure ExtField where
  type : Nat
  body : List UInt8
deriving DecidableEq, Repr

/-- A packet with its `NTP_PacketInfo`: the mode, the length in bytes, the number of
extension fields, and the fields in order. -/
structure NtpPacket where
  mode : Nat
  length : Nat
  extFields : Nat
  fields : List ExtField
deriving DecidableEq, Repr

/-- `get_padded_length`.  The lengths it is given are 16-bit values, so the C `int`
does not overflow. -/
def getPaddedLength (length : Nat) : Nat :=
  if length % 4 ≠ 0 then length + (4 - length % 4) else length

theorem le_getPaddedLength (length : Nat) : length ≤ getPaddedLength length := by
  unfold getPaddedLength; split <;> omega

theorem getPaddedLength_le (length : Nat) : getPaddedLength length ≤ length + 3 := by
  unfold getPaddedLength; split <;> omega

theorem getPaddedLength_mod_four (length : Nat) : getPaddedLength length % 4 = 0 := by
  unfold getPaddedLength; split <;> omega

/-- Modelled from the spec: `NEF_AddField` of `ntp_ext.c`, which appends a field of a
4-byte header and a body padded to 4 bytes when the packet stays within `maxLength`
bytes (the size of `NTP_Packet`), and fails otherwise. -/
def nefAddField (maxLength : Nat) (p : NtpPacket) (f : ExtField) : Option NtpPacket :=
  if maxLength < p.length + 4 + getPaddedLength f.body.length then none
  else some { p with
    length := p.length + 4 + getPaddedLength f.body.length
    extFields := p.extFields + 1
    fields := p.fields ++ [f] }

theorem nefAddField_fields {maxLength : Nat} {p p' : NtpPacket} {f : ExtField}
    (h : nefAddField maxLength p f = some p') : p'.fields = p.fields ++ [f] := by
  unfold nefAddField at h
  split at h
  · cases h
  · cases h; rfl

/-! ## `parse_auth_and_eef` -/

/-- `struct AuthAndEEF`, with the two pointers as offsets into the field's body. -/
structure AuthAndEef where
  nonce : Nat
  ciphertext : Nat
  nonceLength : Nat
  ciphertextLength : Nat
deriving DecidableEq, Repr

/-- `parse_auth_and_eef` on a body of `ef_body_length = body.length` bytes: the two
16-bit lengths of the header, checked against the body's length once padded. -/
def parseAuthAndEef (body : List UInt8) : Option AuthAndEef :=
  if body.length < 4 then none
  else
    let nonceLength := ntohs (body.getD 0 0) (body.getD 1 0)
    let ciphertextLength := ntohs (body.getD 2 0) (body.getD 3 0)
    if getPaddedLength nonceLength + getPaddedLength ciphertextLength > body.length then none
    else some ⟨4, 4 + getPaddedLength nonceLength, nonceLength, ciphertextLength⟩

/-- What the check of `parse_auth_and_eef` does guarantee: the nonce and the ciphertext
lie within the body extended by the 4 bytes of the header, which the check leaves out. -/
theorem parseAuthAndEef_regions {body : List UInt8} {auth : AuthAndEef}
    (h : parseAuthAndEef body = some auth) :
    auth.nonce = 4 ∧ auth.nonce + auth.nonceLength ≤ body.length + 4 ∧
      auth.ciphertext = 4 + getPaddedLength auth.nonceLength ∧
      auth.ciphertext + auth.ciphertextLength ≤ body.length + 4 := by
  unfold parseAuthAndEef at h
  split at h
  · cases h
  dsimp only at h
  split at h
  · cases h
  cases h
  have := le_getPaddedLength (ntohs (body.getD 0 0) (body.getD 1 0))
  have := le_getPaddedLength (ntohs (body.getD 2 0) (body.getD 3 0))
  exact ⟨rfl, by dsimp only; omega, rfl, by dsimp only; omega⟩

/-- The bound is reached: a 4-byte body announcing a 4-byte nonce. -/
theorem parseAuthAndEef_regions_header_only :
    parseAuthAndEef [0, 4, 0, 0] = some ⟨4, 8, 4, 0⟩ ∧ 4 + 4 ≤ [(0 : UInt8), 4, 0, 0].length + 4 ∧
      8 + 0 ≤ [(0 : UInt8), 4, 0, 0].length + 4 :=
  have h : parseAuthAndEef [0, 4, 0, 0] = some ⟨4, 8, 4, 0⟩ := by decide
  ⟨h, (parseAuthAndEef_regions h).2.1, (parseAuthAndEef_regions h).2.2.2⟩

/-- A 4-byte body announcing a 4-byte nonce and no ciphertext passes the check, and
the nonce it describes is the 4 bytes after the body. -/
theorem parseAuthAndEef_nonce_past_body :
    parseAuthAndEef [0, 4, 0, 0] = some ⟨4, 8, 4, 0⟩ ∧ [(0 : UInt8), 4, 0, 0].length < 4 + 4 := by
  decide

/-! ## `NTS_CheckRequestAuth` -/

/-- The loop of `NTS_CheckRequestAuth` over the fields after `cookie`, the cookie seen so
far: a second cookie, or an authenticator `parse_auth_and_eef` rejects, returns 0;
placeholders and other fields are skipped. -/
def checkRequestFields : Option ExtField → List ExtField → Bool
  | _, [] => true
  | cookie, f :: fields =>
    if f.type = ntpEfNtsCookie then
      if cookie.isSome then false else checkRequestFields (some f) fields
    else if f.type = ntpEfNtsAuthAndEef then
      if (parseAuthAndEef f.body).isNone then false else checkRequestFields cookie fields
    else checkRequestFields cookie fields

/-- `NTS_CheckRequestAuth`.  After its loop the C tests `cookie && cookie_length` with an
empty statement, and returns 1. -/
def ntsCheckRequestAuth (request : NtpPacket) : Bool :=
  if request.extFields = 0 ∨ request.mode ≠ modeClient then false
  else checkRequestFields none request.fields

/-- The cookies among some fields. -/
def cookieFields (fields : List ExtField) : List ExtField :=
  fields.filter (·.type = ntpEfNtsCookie)

theorem checkRequestFields_iff (cookie : Option ExtField) (fields : List ExtField) :
    checkRequestFields cookie fields = true ↔
      (cookieFields fields).length + (if cookie.isSome then 1 else 0) ≤ 1 ∧
        ∀ f ∈ fields, f.type = ntpEfNtsAuthAndEef → (parseAuthAndEef f.body).isSome := by
  induction fields generalizing cookie with
  | nil => cases cookie <;> simp [checkRequestFields, cookieFields]
  | cons f fields ih =>
    by_cases hc : f.type = ntpEfNtsCookie
    · -- a cookie: refused after another one
      have hf : cookieFields (f :: fields) = f :: cookieFields fields :=
        List.filter_cons_of_pos (by simpa using hc)
      have ha : f.type ≠ ntpEfNtsAuthAndEef := by rw [hc]; decide
      cases cookie <;>
        simp only [checkRequestFields, if_pos hc, hf, ih, List.forall_mem_cons, ha,
          false_implies, true_and, Option.isSome_none, Option.isSome_some, if_true, if_false,
          Bool.false_eq_true, List.length_cons, false_iff, not_and]
      omega
    · have hf : cookieFields (f :: fields) = cookieFields fields :=
        List.filter_cons_of_neg (by simpa using hc)
      by_cases ha : f.type = ntpEfNtsAuthAndEef
      · -- an authenticator: refused when its header is
        rw [checkRequestFields, if_neg hc, if_pos ha, hf, List.forall_mem_cons]
        cases hp : parseAuthAndEef f.body <;>
          simp only [ih, ha, Option.isNone_none, Option.isNone_some, Option.isSome_none,
            Option.isSome_some, if_true, if_false, Bool.false_eq_true, false_iff, true_implies,
            true_and, false_and, and_false, not_false_eq_true]
      · rw [checkRequestFields, if_neg hc, if_neg ha, hf, List.forall_mem_cons, ih]
        simp only [ha, false_implies, true_and]

/-- What `NTS_CheckRequestAuth` checks, for every request: a client's packet with
extension fields, at most one cookie among them, and every authenticator's header
accepted by `parse_auth_and_eef`.  Nothing asks for a cookie or an authenticator. -/
theorem ntsCheckRequestAuth_iff (request : NtpPacket) :
    ntsCheckRequestAuth request = true ↔
      request.extFields ≠ 0 ∧ request.mode = modeClient ∧
        (cookieFields request.fields).length ≤ 1 ∧
        ∀ f ∈ request.fields, f.type = ntpEfNtsAuthAndEef → (parseAuthAndEef f.body).isSome := by
  unfold ntsCheckRequestAuth
  by_cases h : request.extFields = 0 ∨ request.mode ≠ modeClient
  · simp only [if_pos h, Bool.false_eq_true, false_iff]
    rintro ⟨h1, h2, -⟩
    exact h.elim h1 (· h2)
  · rw [if_neg h, checkRequestFields_iff]
    obtain ⟨h1, h2⟩ := not_or.mp h
    simp only [Option.isSome_none, Bool.false_eq_true, if_false, Nat.add_zero, ne_eq, h1,
      not_not.mp h2, not_false_eq_true, true_and]

/-- A client's request whose only extension field is a Unique-Identifier, with neither a
cookie nor an authenticator, is reported authenticated. -/
theorem ntsCheckRequestAuth_without_cookie :
    let request : NtpPacket :=
      ⟨modeClient, 48 + 36, 1, [⟨ntpEfNtsUniqueIdentifier, List.replicate 32 0⟩]⟩
    ntsCheckRequestAuth request = true ∧ cookieFields request.fields = [] ∧
      ∀ f ∈ request.fields, f.type ≠ ntpEfNtsAuthAndEef := by
  decide

/-! ## `NTS_GenerateResponseAuth` -/

/-- `add_response_cookie`: a Cookie field of 100 zero bytes. -/
def addResponseCookie (maxLength : Nat) (response : NtpPacket) : Option NtpPacket :=
  nefAddField maxLength response ⟨ntpEfNtsCookie, List.replicate 100 0⟩

/-- One round of the loop of `NTS_GenerateResponseAuth` on a field of the request.  The
Unique-Identifier case has no `break`: after the copy it falls through into the cookie
case. -/
def generateResponseField (maxLength : Nat) (response : NtpPacket) (f : ExtField) :
    Option NtpPacket :=
  if f.type = ntpEfNtsUniqueIdentifier then
    (nefAddField maxLength response f).bind (addResponseCookie maxLength)
  else if f.type = ntpEfNtsCookie ∨ f.type = ntpEfNtsCookiePlaceholder then
    addResponseCookie maxLength response
  else some response

/-- `NTS_GenerateResponseAuth` with packets of `maxLength` bytes: the response with the
fields it added, or `none` where the C returns 0. -/
def ntsGenerateResponseAuth (maxLength : Nat) (request response : NtpPacket) :
    Option NtpPacket :=
  if request.mode ≠ modeClient ∨ response.mode ≠ modeServer then none
  else request.fields.foldlM (generateResponseField maxLength) response

/-- The fields `NTS_GenerateResponseAuth` appends for one field of the request. -/
def responseFieldsFor (f : ExtField) : List ExtField :=
  if f.type = ntpEfNtsUniqueIdentifier then [f, ⟨ntpEfNtsCookie, List.replicate 100 0⟩]
  else if f.type = ntpEfNtsCookie ∨ f.type = ntpEfNtsCookiePlaceholder then
    [⟨ntpEfNtsCookie, List.replicate 100 0⟩]
  else []

theorem generateResponseField_fields {maxLength : Nat} {response response' : NtpPacket}
    {f : ExtField} (h : generateResponseField maxLength response f = some response') :
    response'.fields = response.fields ++ responseFieldsFor f := by
  unfold generateResponseField at h
  unfold responseFieldsFor
  split_ifs at h ⊢
  · obtain ⟨mid, hmid, hcookie⟩ := Option.bind_eq_some.mp h
    rw [nefAddField_fields hcookie, nefAddField_fields hmid, List.append_assoc]
    rfl
  · rw [nefAddField_fields h]
  · cases h; simp

theorem foldlM_generateResponseField_fields (maxLength : Nat) :
    ∀ (fields : List ExtField) {response response' : NtpPacket},
      fields.foldlM (generateResponseField maxLength) response = some response' →
        response'.fields = response.fields ++ fields.flatMap responseFieldsFor
  | [], _, _, h => by simp_all
  | f :: fields, response, response', h => by
    rw [List.foldlM_cons] at h
    obtain ⟨mid, hmid, hrest⟩ := Option.bind_eq_some.mp h
    rw [foldlM_generateResponseField_fields maxLength fields hrest,
      generateResponseField_fields hmid, List.flatMap_cons, List.append_assoc]

/-- Whenever `NTS_GenerateResponseAuth` succeeds, the fields it appended are, for each
field of the request in order: the Unique-Identifier's copy and a cookie, a cookie for a
cookie or a placeholder, and nothing for any other field. -/
theorem ntsGenerateResponseAuth_fields {maxLength : Nat} {request response response' : NtpPacket}
    (h : ntsGenerateResponseAuth maxLength request response = some response') :
    response'.fields = response.fields ++ request.fields.flatMap responseFieldsFor := by
  unfold ntsGenerateResponseAuth at h
  split at h
  · cases h
  · exact foldlM_generateResponseField_fields maxLength _ h

/-- A request with a Unique-Identifier and one cookie gets two cookies back. -/
theorem ntsGenerateResponseAuth_extra_cookie (maxLength : Nat)
    (hroom : 48 + (4 + 32) + 2 * (4 + 100) ≤ maxLength) :
    let uid : ExtField := ⟨ntpEfNtsUniqueIdentifier, List.replicate 32 0xab⟩
    let cookie : ExtField := ⟨ntpEfNtsCookie, List.replicate 100 7⟩
    (ntsGenerateResponseAuth maxLength ⟨modeClient, 48 + 36 + 104, 2, [uid, cookie]⟩
        ⟨modeServer, 48, 0, []⟩).map (·.fields.map ExtField.type) =
      some [ntpEfNtsUniqueIdentifier, ntpEfNtsCookie, ntpEfNtsCookie] := by
  intro uid cookie
  have hpad32 : getPaddedLength 32 = 32 := rfl
  have hpad100 : getPaddedLength 100 = 100 := rfl
  simp only [ntsGenerateResponseAuth, List.foldlM, generateResponseField, addResponseCookie,
    nefAddField, uid, cookie, List.length_replicate, hpad32, hpad100]
  simp (disch := omega) [if_neg]

theorem ntsGenerateResponseAuth_extra_cookie_exact_room :
    48 + (4 + 32) + 2 * (4 + 100) ≤ 292 ∧
      let uid : ExtField := ⟨ntpEfNtsUniqueIdentifier, List.replicate 32 0xab⟩
      let cookie : ExtField := ⟨ntpEfNtsCookie, List.replicate 100 7⟩
      (ntsGenerateResponseAuth 292 ⟨modeClient, 48 + 36 + 104, 2, [uid, cookie]⟩
          ⟨modeServer, 48, 0, []⟩).map (·.fields.map ExtField.type) =
        some [ntpEfNtsUniqueIdentifier, ntpEfNtsCookie, ntpEfNtsCookie] :=
  ⟨by decide, ntsGenerateResponseAuth_extra_cookie 292 (by decide)⟩

end ChronyNts.NtsNtp
