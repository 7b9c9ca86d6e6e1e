import ChronyNts.NtsNtp.Client
import ChronyNts.NtsNtp.Server

/-!
# Requests and responses on the wire

`NTS_GenerateRequestAuth` adds to the client's packet, with `NEF_AddField`, the
Unique-Identifier `uniq_id`, the cookie at `cookie_index`, `MAX_COOKIES - num_cookies`
placeholders whose body is that cookie's, and an Authenticator-and-EEF field whose
ciphertext is the SIV tag, under `siv_c2s`, of the packet so far.  The client model of
`Client.lean` keeps of this only which cookie goes out and how many placeholders; the
packet-level function here refines it (`ntsGenerateRequestAuth_refines`).

The server's `NTS_CheckRequestAuth` accepts every request so built
(`ntsCheckRequestAuth_generateRequestAuth`), and `NTS_GenerateResponseAuth` answers it
with the Unique-Identifier's copy and `MAX_COOKIES - num_cookies + 2` cookies
(`ntsGenerateResponseAuth_generateRequestAuth`).

`NTS_PrepareForAuth` draws `uniq_id` and `nonce` only after a key exchange, and
`NTS_GenerateRequestAuth` only reads them: every request sent between two key exchanges
carries the same Unique-Identifier and the same nonce (`requests_share_uniqId_nonce`).

## Strategy

`NEF_AddField` folded over a list of fields is `some` of the packet extended by all of
them exactly when they fit (`foldlM_nefAddField`).  The client's adds are such a fold
that keeps what it added before a failure (`nefAddFields`), and the server's loop, each
round of which adds zero, one or two fields, is one such fold over the flattened list
(`foldlM_generateResponseField`).
-/

namespace ChronyNts.NtsNtp

open ChronyNts.KeyExchange (NkeCookie NkeKey SivCmac SivContext htons ntohs sivDigestSize)

/-! ## Fields as `NEF_AddField` appends them -/

/-- Modelled from the spec: the bytes a field takes in a packet, the 4-byte header of
`NEF_AddField` and the body padded to 4 bytes. -/
def fieldLength (f : ExtField) : Nat := 4 + getPaddedLength f.body.length

/-- The packet with `fields` appended in turn as `NEF_AddField` appends each. -/
def NtpPacket.extend (p : NtpPacket) (fields : List ExtField) : NtpPacket :=
  { p with
    length := p.length + (fields.map fieldLength).sum
    extFields := p.extFields + fields.length
    fields := p.fields ++ fields }

@[simp] theorem NtpPacket.mode_extend (p : NtpPacket) (fields : List ExtField) :
    (p.extend fields).mode = p.mode := rfl

@[simp] theorem NtpPacket.length_extend (p : NtpPacket) (fields : List ExtField) :
    (p.extend fields).length = p.length + (fields.map fieldLength).sum := rfl

@[simp] theorem NtpPacket.extFields_extend (p : NtpPacket) (fields : List ExtField) :
    (p.extend fields).extFields = p.extFields + fields.length := rfl

@[simp] theorem NtpPacket.fields_extend (p : NtpPacket) (fields : List ExtField) :
    (p.extend fields).fields = p.fields ++ fields := rfl

@[simp] theorem NtpPacket.extend_nil (p : NtpPacket) : p.extend [] = p := by
  simp [NtpPacket.extend]

theorem NtpPacket.extend_append (p : NtpPacket) (fields more : List ExtField) :
    p.extend (fields ++ more) = (p.extend fields).extend more := by
  simp only [NtpPacket.extend, List.map_append, List.sum_append, List.length_append,
    List.append_assoc, Nat.add_assoc]

theorem zero_lt_fieldLength (f : ExtField) : 0 < fieldLength f := by
  unfold fieldLength; omega

/-- `NEF_AddField` adds a field exactly when it fits in the room the packet has left. -/
theorem nefAddField_eq (maxLength : Nat) (p : NtpPacket) (f : ExtField) :
    nefAddField maxLength p f =
      if fieldLength f ≤ maxLength - p.length then some (p.extend [f]) else none := by
  have := zero_lt_fieldLength f
  unfold nefAddField
  unfold fieldLength at this ⊢
  split_ifs with h1 h2 h2
  · omega
  · rfl
  · simp [NtpPacket.extend, fieldLength, Nat.add_assoc]
  · omega

/-- After a field that fits, the rest fit in what is left exactly when all fit in the
packet's room. -/
theorem fits_extend_singleton {maxLength : Nat} {p : NtpPacket} {f : ExtField}
    (hf : fieldLength f ≤ maxLength - p.length) (fields : List ExtField) :
    (fields.map fieldLength).sum ≤ maxLength - (p.extend [f]).length ↔
      ((f :: fields).map fieldLength).sum ≤ maxLength - p.length := by
  simp only [NtpPacket.length_extend, List.map_cons, List.map_nil, List.sum_cons, List.sum_nil]
  omega

theorem not_fits_cons {maxLength : Nat} {p : NtpPacket} {f : ExtField}
    (hf : ¬fieldLength f ≤ maxLength - p.length) (fields : List ExtField) :
    ¬((f :: fields).map fieldLength).sum ≤ maxLength - p.length := by
  simp only [List.map_cons, List.sum_cons]; omega

/-- `NEF_AddField` folded over `fields` adds them all when they fit in the room the
packet has left, and fails otherwise. -/
theorem foldlM_nefAddField (maxLength : Nat) :
    ∀ (fields : List ExtField) (p : NtpPacket),
      fields.foldlM (nefAddField maxLength) p =
        if (fields.map fieldLength).sum ≤ maxLength - p.length then some (p.extend fields)
        else none
  | [], p => by simp
  | f :: fields, p => by
    rw [List.foldlM_cons, nefAddField_eq]
    by_cases hf : fieldLength f ≤ maxLength - p.length
    · rw [if_pos hf, Option.bind_eq_bind, Option.some_bind, foldlM_nefAddField maxLength fields,
        ← NtpPacket.extend_append, List.singleton_append]
      simp only [fits_extend_singleton hf]
    · rw [if_neg hf, if_neg (not_fits_cons hf fields)]
      rfl

/-- `NEF_AddField` on each of `fields` in turn, as the adds of `NTS_GenerateRequestAuth`
follow one another: whether all succeeded, and the packet, which keeps the fields added
before one failed. -/
def nefAddFields (maxLength : Nat) : NtpPacket → List ExtField → Bool × NtpPacket
  | p, [] => (true, p)
  | p, f :: fields =>
    match nefAddField maxLength p f with
    | some p' => nefAddFields maxLength p' fields
    | none => (false, p)

/-- The adds all succeed exactly when the fields fit, and then leave the packet with all
of them; a failed add leaves it with those before. -/
theorem nefAddFields_eq (maxLength : Nat) :
    ∀ (p : NtpPacket) (fields : List ExtField),
      (nefAddFields maxLength p fields).1 =
          decide ((fields.map fieldLength).sum ≤ maxLength - p.length) ∧
        ((nefAddFields maxLength p fields).1 = true →
          (nefAddFields maxLength p fields).2 = p.extend fields) ∧
        ∃ k < fields.length + 1, (nefAddFields maxLength p fields).2 = p.extend (fields.take k)
  | p, [] => by simp [nefAddFields]
  | p, f :: fields => by
    rw [nefAddFields, nefAddField_eq]
    by_cases hf : fieldLength f ≤ maxLength - p.length
    · obtain ⟨h1, h2, k, hk, h3⟩ := nefAddFields_eq maxLength (p.extend [f]) fields
      simp only [if_pos hf]
      refine ⟨by rw [h1, decide_eq_decide.mpr (fits_extend_singleton hf fields)], fun h => ?_,
        k + 1, by simpa using hk, ?_⟩
      · rw [h2 h, ← NtpPacket.extend_append, List.singleton_append]
      · rw [h3, ← NtpPacket.extend_append, List.take_succ_cons, List.singleton_append]
    · simp only [if_neg hf]
      exact ⟨by simpa using not_fits_cons hf fields, nofun, 0, by omega, by simp⟩

/-! ## `NTS_GenerateResponseAuth` as one fold -/

theorem generateResponseField_eq_foldlM (maxLength : Nat) (response : NtpPacket) (f : ExtField) :
    generateResponseField maxLength response f =
      (responseFieldsFor f).foldlM (nefAddField maxLength) response := by
  unfold generateResponseField responseFieldsFor addResponseCookie
  split_ifs <;> simp

/-- The rounds of the loop, each adding the fields `responseFieldsFor` gives, are one fold
of `NEF_AddField` over all of them. -/
theorem foldlM_generateResponseField (maxLength : Nat) :
    ∀ (fields : List ExtField) (response : NtpPacket),
      fields.foldlM (generateResponseField maxLength) response =
        (fields.flatMap responseFieldsFor).foldlM (nefAddField maxLength) response
  | [], _ => rfl
  | f :: fields, response => by
    rw [List.foldlM_cons, List.flatMap_cons, List.foldlM_append, generateResponseField_eq_foldlM]
    congr 1
    funext mid
    exact foldlM_generateResponseField maxLength fields mid

/-- For every request and response, `NTS_GenerateResponseAuth` fails on the modes, or
appends what `responseFieldsFor` gives for each field of the request exactly when all of
it fits: it never answers with a part of those fields. -/
theorem ntsGenerateResponseAuth_eq (maxLength : Nat) (request response : NtpPacket) :
    ntsGenerateResponseAuth maxLength request response =
      if request.mode ≠ modeClient ∨ response.mode ≠ modeServer then none
      else if ((request.fields.flatMap responseFieldsFor).map fieldLength).sum ≤
          maxLength - response.length then
        some (response.extend (request.fields.flatMap responseFieldsFor))
      else none := by
  rw [ntsGenerateResponseAuth, foldlM_generateResponseField, foldlM_nefAddField]

/-! ## The client's request -/

/-- `NONCE_LENGTH`. -/
@[simp] def nonceLength : Nat := 16

/-- `UNIQ_ID_LENGTH`. -/
@[simp] def uniqIdLength : Nat := 32

/-- The arrays `uniq_id` and `nonce` of `struct NTS_ClientInstance_Record`, which
`NTS_PrepareForAuth` fills with `UTI_GetRandomBytes`. -/
structure AuthRandom where
  uniqId : List UInt8
  nonce : List UInt8
  length_uniqId : uniqId.length = uniqIdLength
  length_nonce : nonce.length = nonceLength
deriving DecidableEq

/-- The arrays as `NTS_CreateClientInstance` leaves them: zeroed. -/
def AuthRandom.zero : AuthRandom :=
  ⟨List.replicate uniqIdLength 0, List.replicate nonceLength 0, List.length_replicate _ _,
    List.length_replicate _ _⟩

/-- `siv_c2s`: the zero bytes of `NTS_CreateClientInstance`'s `memset` until `get_nke_data`
keys it with the C2S key of `NKE_GetKeys`. -/
def sivC2s (inst : NtsClientInstance) : SivContext :=
  match inst.keys with
  | none => .zero
  | some (c2s, _) => .keyed c2s.key

/-- The fields `NTS_GenerateRequestAuth` adds before its authenticator: the
Unique-Identifier, the cookie, and `placeholders` Cookie-Placeholders whose body is the
cookie's. -/
def requestFields (uniqId : List UInt8) (cookie : NkeCookie) (placeholders : Nat) :
    List ExtField :=
  ⟨ntpEfNtsUniqueIdentifier, uniqId⟩ :: ⟨ntpEfNtsCookie, cookie.cookie⟩ ::
    List.replicate placeholders ⟨ntpEfNtsCookiePlaceholder, cookie.cookie⟩

/-- The Authenticator-and-EEF field of `NTS_GenerateRequestAuth`: the struct `auth` of
`htons(NONCE_LENGTH)`, `htons(sizeof (auth.ciphertext))`, the nonce, and the SIV tag of
the packet's bytes `adata` with an empty plaintext. -/
def authField (siv : SivCmac) (inst : NtsClientInstance) (nonce adata : List UInt8) :
    ExtField :=
  ⟨ntpEfNtsAuthAndEef,
    htons (nonceLength : Int) ++ htons (sivDigestSize : Int) ++ nonce ++
      siv.encrypt (sivC2s inst) nonce adata []⟩

namespace Wire

/-- `NTS_GenerateRequestAuth` on a packet of at most `maxLength` bytes, `wire p` being the
`info->length` bytes of the packet `p` that the SIV tag covers: whether it returned 1, the
packet and its `info` after, and the instance after.  A failed `NEF_AddField` leaves the
fields added before it in the packet. -/
def ntsGenerateRequestAuth (siv : SivCmac) (wire : NtpPacket → List UInt8) (maxLength : Nat)
    (random : AuthRandom) (inst : NtsClientInstance) (packet : NtpPacket) :
    Bool × NtpPacket × NtsClientInstance :=
  if needsNke inst then (false, packet, inst)
  else
    let cookie := inst.cookies inst.cookieIndex.toNat
    match nefAddFields maxLength packet
        (requestFields random.uniqId cookie (maxCookies - inst.numCookies).toNat) with
    | (false, packet) => (false, packet, inst)
    | (true, packet) =>
      match nefAddField maxLength packet (authField siv inst random.nonce (wire packet)) with
      | none => (false, packet, inst)
      | some packet =>
        (true, packet, { inst with
          numCookies := inst.numCookies - 1, cookieIndex := (inst.cookieIndex + 1) % maxCookies })

end Wire

theorem fieldLength_authField (siv : SivCmac) (inst : NtsClientInstance) {nonce : List UInt8}
    (hnonce : nonce.length = nonceLength) (adata : List UInt8) :
    fieldLength (authField siv inst nonce adata) = 40 := by
  simp only [fieldLength, authField, List.length_append, ChronyNts.KeyExchange.length_htons,
    siv.length_encrypt, hnonce, List.length_nil]
  rfl

/-- Whether `packet` takes every field `NTS_GenerateRequestAuth` adds: what the `room` of
the cookie model stands for. -/
def requestRoom (maxLength : Nat) (random : AuthRandom) (inst : NtsClientInstance)
    (packet : NtpPacket) : Bool :=
  ((requestFields random.uniqId (inst.cookies inst.cookieIndex.toNat)
      (maxCookies - inst.numCookies).toNat).map fieldLength).sum + 40 ≤
    maxLength - packet.length

/-- What `NTS_GenerateRequestAuth` can do: with a cookie left and room in the packet, add
every field and consume the cookie; otherwise fail, with the instance unchanged and the
packet holding the first `k` of the fields before the authenticator. -/
theorem wire_ntsGenerateRequestAuth_cases (siv : SivCmac) (wire : NtpPacket → List UInt8)
    (maxLength : Nat) (random : AuthRandom) (inst : NtsClientInstance) (packet : NtpPacket) :
    let fields := requestFields random.uniqId (inst.cookies inst.cookieIndex.toNat)
      (maxCookies - inst.numCookies).toNat
    let out := Wire.ntsGenerateRequestAuth siv wire maxLength random inst packet
    (needsNke inst = false ∧ requestRoom maxLength random inst packet = true ∧
      out = (true,
        packet.extend (fields ++ [authField siv inst random.nonce (wire (packet.extend fields))]),
        { inst with
          numCookies := inst.numCookies - 1, cookieIndex := (inst.cookieIndex + 1) % maxCookies })) ∨
    ((needsNke inst = true ∨ requestRoom maxLength random inst packet = false) ∧
      out.1 = false ∧ out.2.2 = inst ∧ ∃ k ≤ fields.length, out.2.1 = packet.extend (fields.take k)) := by
  intro fs out
  unfold out Wire.ntsGenerateRequestAuth
  by_cases hneeds : needsNke inst = true
  · rw [if_pos hneeds]
    exact .inr ⟨.inl hneeds, rfl, rfl, 0, Nat.zero_le _, by simp⟩
  simp only [hneeds, if_false, Bool.false_eq_true, false_or, false_and, true_and]
  have hroom : requestRoom maxLength random inst packet =
      decide ((fs.map fieldLength).sum + 40 ≤ maxLength - packet.length) := rfl
  obtain ⟨h1, h2, k, hk, h3⟩ := nefAddFields_eq maxLength packet fs
  rcases hr : nefAddFields maxLength packet fs with ⟨_ | _, q⟩ <;> rw [hr] at h1 h2 h3
  · -- the fields before the authenticator do not fit
    have : requestRoom maxLength random inst packet = false := by
      rw [hroom, decide_eq_false_iff_not]
      have := of_decide_eq_false h1.symm
      omega
    exact .inr ⟨this, rfl, rfl, k, by omega, h3⟩
  · -- they fit, and the authenticator is added when it fits too
    obtain rfl := h2 rfl
    have hfit := of_decide_eq_true h1.symm
    dsimp only
    rw [nefAddField_eq, fieldLength_authField siv inst random.length_nonce]
    by_cases hauth : 40 ≤ maxLength - (packet.extend fs).length
    · have : requestRoom maxLength random inst packet = true := by
        rw [hroom, decide_eq_true_iff]
        simp only [NtpPacket.length_extend] at hauth
        omega
      rw [if_pos hauth, ← NtpPacket.extend_append]
      exact .inl ⟨this, rfl⟩
    · have : requestRoom maxLength random inst packet = false := by
        rw [hroom, decide_eq_false_iff_not]
        simp only [NtpPacket.length_extend] at hauth
        omega
      rw [if_neg hauth]
      exact .inr ⟨this, rfl, rfl, fs.length, le_rfl, by rw [List.take_length]⟩

theorem wire_ntsGenerateRequestAuth_model (siv : SivCmac) (wire : NtpPacket → List UInt8)
    (maxLength : Nat) (random : AuthRandom) (inst : NtsClientInstance) (packet : NtpPacket) :
    let out := Wire.ntsGenerateRequestAuth siv wire maxLength random inst packet
    let model := ntsGenerateRequestAuth inst (requestRoom maxLength random inst packet)
    out.1 = model.1.isSome ∧ out.2.2 = model.2 := by
  intro out model
  rcases wire_ntsGenerateRequestAuth_cases siv wire maxLength random inst packet with
    ⟨hneeds, hroom, hout⟩ | ⟨hfail, h1, h2, -⟩
  · simp [out, model, hout, ntsGenerateRequestAuth, hneeds, hroom]
  · have hmodel : model = (none, inst) := by
      rcases hfail with h | h <;> simp [model, ntsGenerateRequestAuth, h]
    rw [hmodel]
    exact ⟨h1, h2⟩

/-- The packet-level `NTS_GenerateRequestAuth` refines the cookie model's: with `room` the
packet's room for every field, it returns 1 exactly when the model sends a cookie, leaves
the instance as the model does, and on success has appended the Unique-Identifier, the
model's cookie, the model's number of placeholders and the authenticator. -/
theorem ntsGenerateRequestAuth_refines (siv : SivCmac) (wire : NtpPacket → List UInt8)
    (maxLength : Nat) (random : AuthRandom) (inst : NtsClientInstance) (packet : NtpPacket) :
    let out := Wire.ntsGenerateRequestAuth siv wire maxLength random inst packet
    let model := ntsGenerateRequestAuth inst (requestRoom maxLength random inst packet)
    out.1 = model.1.isSome ∧ out.2.2 = model.2 ∧
      ∀ cookie placeholders, model.1 = some (cookie, placeholders) →
        let fields := requestFields random.uniqId cookie placeholders
        out.2.1 = packet.extend
          (fields ++ [authField siv inst random.nonce (wire (packet.extend fields))]) := by
  intro out model
  refine ⟨(wire_ntsGenerateRequestAuth_model siv wire maxLength random inst packet).1,
    (wire_ntsGenerateRequestAuth_model siv wire maxLength random inst packet).2, ?_⟩
  intro cookie placeholders hmodel
  obtain ⟨hneeds, hroom, hout⟩ :=
    (wire_ntsGenerateRequestAuth_cases siv wire maxLength random inst packet).resolve_right
      fun ⟨hfail, _⟩ => by rcases hfail with h | h <;> simp [model, ntsGenerateRequestAuth, h] at hmodel
  simp only [model, ntsGenerateRequestAuth, hneeds, hroom, Bool.false_eq_true, if_false,
    Bool.not_true, Option.some.injEq, Prod.mk.injEq] at hmodel
  obtain ⟨rfl, rfl⟩ := hmodel
  simp only [out, hout]

/-! ## The server's answer to a request -/

/-- A packet without NTS fields: no Unique-Identifier, Cookie, Cookie-Placeholder or
Authenticator-and-EEF among its extension fields. -/
def NtpPacket.WithoutNts (p : NtpPacket) : Prop :=
  ∀ f ∈ p.fields, f.type ≠ ntpEfNtsUniqueIdentifier ∧ f.type ≠ ntpEfNtsCookie ∧
    f.type ≠ ntpEfNtsCookiePlaceholder ∧ f.type ≠ ntpEfNtsAuthAndEef

instance : DecidablePred NtpPacket.WithoutNts := fun p =>
  inferInstanceAs (Decidable (∀ f ∈ p.fields, _))

/-- `parse_auth_and_eef` reads the client's authenticator as written: a 16-byte nonce
after the header and a 16-byte ciphertext after it. -/
theorem parseAuthAndEef_authField (siv : SivCmac) (inst : NtsClientInstance)
    {nonce : List UInt8} (hnonce : nonce.length = nonceLength) (adata : List UInt8) :
    parseAuthAndEef (authField siv inst nonce adata).body = some ⟨4, 20, 16, 16⟩ := by
  have hlen : (siv.encrypt (sivC2s inst) nonce adata []).length = 16 := by
    rw [siv.length_encrypt]; rfl
  have h16 : htons ((16 : Nat) : Int) = [0, 16] := rfl
  simp only [authField, nonceLength, sivDigestSize, h16, List.append_assoc, List.cons_append,
    List.nil_append]
  simp [parseAuthAndEef, hnonce, hlen, ntohs]
  decide

theorem cookieFields_requestFields (uniqId : List UInt8) (cookie : NkeCookie) (n : Nat) :
    cookieFields (requestFields uniqId cookie n) = [⟨ntpEfNtsCookie, cookie.cookie⟩] := by
  simp [cookieFields, requestFields, List.filter_replicate]

theorem responseFieldsFor_uniqueIdentifier (body : List UInt8) :
    responseFieldsFor ⟨ntpEfNtsUniqueIdentifier, body⟩ =
      [⟨ntpEfNtsUniqueIdentifier, body⟩, ⟨ntpEfNtsCookie, List.replicate 100 0⟩] := rfl

theorem responseFieldsFor_cookie (body : List UInt8) :
    responseFieldsFor ⟨ntpEfNtsCookie, body⟩ = [⟨ntpEfNtsCookie, List.replicate 100 0⟩] := rfl

theorem responseFieldsFor_placeholder (body : List UInt8) :
    responseFieldsFor ⟨ntpEfNtsCookiePlaceholder, body⟩ =
      [⟨ntpEfNtsCookie, List.replicate 100 0⟩] := rfl

theorem flatMap_responseFieldsFor_requestFields (uniqId : List UInt8) (cookie : NkeCookie)
    (n : Nat) :
    (requestFields uniqId cookie n).flatMap responseFieldsFor =
      ⟨ntpEfNtsUniqueIdentifier, uniqId⟩ ::
        List.replicate (n + 2) ⟨ntpEfNtsCookie, List.replicate 100 0⟩ := by
  have hplace : ∀ n, (List.replicate n
      (⟨ntpEfNtsCookiePlaceholder, cookie.cookie⟩ : ExtField)).flatMap responseFieldsFor =
        List.replicate n ⟨ntpEfNtsCookie, List.replicate 100 0⟩ := by
    intro n
    induction n with
    | zero => rfl
    | succ n ih => rw [List.replicate_succ, List.flatMap_cons, ih, responseFieldsFor_placeholder]; rfl
  rw [requestFields, List.flatMap_cons, List.flatMap_cons, hplace,
    responseFieldsFor_uniqueIdentifier, responseFieldsFor_cookie]
  rfl

section Request

variable (siv : SivCmac) (inst : NtsClientInstance) {packet : NtpPacket}
  (hnts : packet.WithoutNts) (uniqId : List UInt8) (cookie : NkeCookie) (n : Nat)
  {nonce : List UInt8} (hnonce : nonce.length = nonceLength) (adata : List UInt8)

include hnts hnonce in
/-- A client's packet without NTS fields, with a request's fields added, passes
`NTS_CheckRequestAuth`: one cookie, and an authenticator `parse_auth_and_eef` reads. -/
theorem ntsCheckRequestAuth_extend_requestFields (hmode : packet.mode = modeClient) :
    ntsCheckRequestAuth (packet.extend
      (requestFields uniqId cookie n ++ [authField siv inst nonce adata])) = true := by
  rw [ntsCheckRequestAuth_iff]
  have hcookies : cookieFields packet.fields = [] :=
    List.filter_eq_nil_iff.mpr fun f hf => by simpa using (hnts f hf).2.1
  refine ⟨by simp, hmode, ?_, ?_⟩
  · simp only [NtpPacket.fields_extend, cookieFields, List.filter_append] at hcookies ⊢
    rw [hcookies, ← cookieFields, cookieFields_requestFields]
    rfl
  · intro f hf hauth
    simp only [NtpPacket.fields_extend, List.mem_append, List.mem_singleton] at hf
    rcases hf with hf | hf | rfl
    · exact absurd hauth (hnts f hf).2.2.2
    · simp only [requestFields, List.mem_cons, List.mem_replicate] at hf
      rcases hf with rfl | rfl | ⟨-, rfl⟩ <;> exact absurd hauth (by simp)
    · rw [parseAuthAndEef_authField siv inst hnonce]
      rfl

include hnts in
/-- What `NTS_GenerateResponseAuth` adds for such a request: the Unique-Identifier's copy,
and a cookie for it, for the cookie and for each placeholder. -/
theorem flatMap_responseFieldsFor_extend :
    (packet.extend (requestFields uniqId cookie n ++
        [authField siv inst nonce adata])).fields.flatMap responseFieldsFor =
      ⟨ntpEfNtsUniqueIdentifier, uniqId⟩ ::
        List.replicate (n + 2) ⟨ntpEfNtsCookie, List.replicate 100 0⟩ := by
  have hfor : ∀ f ∈ packet.fields, responseFieldsFor f = [] := fun f hf => by
    obtain ⟨h1, h2, h3, -⟩ := hnts f hf
    rw [responseFieldsFor, if_neg h1, if_neg (not_or.mpr ⟨h2, h3⟩)]
  have hauth : responseFieldsFor (authField siv inst nonce adata) = [] := rfl
  rw [NtpPacket.fields_extend, List.flatMap_append, List.flatMap_append,
    List.flatMap_eq_nil_iff.mpr hfor, flatMap_responseFieldsFor_requestFields,
    List.flatMap_singleton, hauth, List.nil_append, List.append_nil]

end Request

theorem sum_fieldLength_response (random : AuthRandom) (cookies : Nat) :
    ((⟨ntpEfNtsUniqueIdentifier, random.uniqId⟩ ::
        List.replicate cookies (⟨ntpEfNtsCookie, List.replicate 100 0⟩ : ExtField)).map
      fieldLength).sum = 36 + cookies * 104 := by
  simp only [List.map_cons, List.map_replicate, List.sum_cons, List.sum_replicate, smul_eq_mul,
    fieldLength, random.length_uniqId, List.length_replicate]
  rfl

/-- A successful `NTS_GenerateRequestAuth` added the fields of the cookie at
`cookie_index`, with `MAX_COOKIES - num_cookies` placeholders, and the authenticator. -/
theorem wire_ntsGenerateRequestAuth_of_ok {siv : SivCmac} {wire : NtpPacket → List UInt8}
    {maxLength : Nat} {random : AuthRandom} {inst : NtsClientInstance} {packet : NtpPacket}
    (hok : (Wire.ntsGenerateRequestAuth siv wire maxLength random inst packet).1 = true) :
    let fields := requestFields random.uniqId (inst.cookies inst.cookieIndex.toNat)
      (maxCookies - inst.numCookies).toNat
    (Wire.ntsGenerateRequestAuth siv wire maxLength random inst packet).2.1 =
      packet.extend (fields ++ [authField siv inst random.nonce (wire (packet.extend fields))]) := by
  rcases wire_ntsGenerateRequestAuth_cases siv wire maxLength random inst packet with
    ⟨-, -, hout⟩ | ⟨-, hfail, -⟩
  · simp only [hout]
  · exact absurd (hfail ▸ hok) Bool.false_ne_true

/-- For every client state and every client's packet without NTS fields on which
`NTS_GenerateRequestAuth` succeeds, the server's `NTS_CheckRequestAuth` accepts the
request, and `NTS_GenerateResponseAuth` answers it, exactly when the response has room,
with the Unique-Identifier's copy and `MAX_COOKIES - num_cookies + 2` cookies: one for
each cookie and placeholder, and one more for the Unique-Identifier. -/
theorem ntsGenerateResponseAuth_generateRequestAuth (siv : SivCmac)
    (wire : NtpPacket → List UInt8) (maxLength : Nat) (random : AuthRandom)
    (inst : NtsClientInstance) (packet : NtpPacket) (hmode : packet.mode = modeClient)
    (hnts : packet.WithoutNts)
    (hok : (Wire.ntsGenerateRequestAuth siv wire maxLength random inst packet).1 = true)
    (responseLength : Nat) (response : NtpPacket) (hresponse : response.mode = modeServer) :
    let request := (Wire.ntsGenerateRequestAuth siv wire maxLength random inst packet).2.1
    let cookies := (maxCookies - inst.numCookies).toNat + 2
    ntsCheckRequestAuth request = true ∧
      ntsGenerateResponseAuth responseLength request response =
        if 36 + cookies * 104 ≤ responseLength - response.length then
          some (response.extend (⟨ntpEfNtsUniqueIdentifier, random.uniqId⟩ ::
            List.replicate cookies ⟨ntpEfNtsCookie, List.replicate 100 0⟩))
        else none := by
  intro request cookies
  have hreq : request = _ := wire_ntsGenerateRequestAuth_of_ok hok
  refine ⟨?_, ?_⟩
  · rw [hreq]
    exact ntsCheckRequestAuth_extend_requestFields siv inst hnts _ _ _ random.length_nonce _ hmode
  · rw [ntsGenerateResponseAuth_eq, hreq, flatMap_responseFieldsFor_extend siv inst hnts,
      sum_fieldLength_response]
    simp only [NtpPacket.mode_extend, hmode, hresponse, ne_eq, not_true_eq_false, or_self,
      if_false]

/-- A client with seven cookies left builds its request on a packet without extension
fields; the server accepts it and answers with the Unique-Identifier and three cookies. -/
theorem ntsGenerateResponseAuth_generateRequestAuth_seven_cookies :
    let inst : NtsClientInstance := ⟨false, fun _ => ⟨[7, 7, 7, 7]⟩, 7, 1, some (⟨[]⟩, ⟨[]⟩)⟩
    let packet : NtpPacket := ⟨modeClient, 48, 0, []⟩
    let response : NtpPacket := ⟨modeServer, 48, 0, []⟩
    packet.mode = modeClient ∧ packet.WithoutNts ∧
      (Wire.ntsGenerateRequestAuth SivCmac.plain (fun _ => []) 1000 AuthRandom.zero inst
        packet).1 = true ∧ response.mode = modeServer ∧
      let request :=
        (Wire.ntsGenerateRequestAuth SivCmac.plain (fun _ => []) 1000 AuthRandom.zero inst packet).2.1
      let cookies := (maxCookies - inst.numCookies).toNat + 2
      ntsCheckRequestAuth request = true ∧
        ntsGenerateResponseAuth 1000 request response =
          if 36 + cookies * 104 ≤ 1000 - response.length then
            some (response.extend (⟨ntpEfNtsUniqueIdentifier, AuthRandom.zero.uniqId⟩ ::
              List.replicate cookies ⟨ntpEfNtsCookie, List.replicate 100 0⟩))
          else none :=
  ⟨rfl, by decide, by decide, rfl,
    ntsGenerateResponseAuth_generateRequestAuth SivCmac.plain (fun _ => []) 1000 AuthRandom.zero
      _ _ rfl (by decide) (by decide) 1000 _ rfl⟩

/-- `NTS_CheckResponseAuth`: after the checks of the packet's info it returns 0 as well,
so the client accepts no response, the server's answer above included. -/
def ntsCheckResponseAuth (_inst : NtsClientInstance) (response : NtpPacket) : Bool :=
  if response.extFields = 0 ∨ response.mode ≠ modeServer then false else false

/-! ## Runs of the client on the wire -/

namespace Wire

/-- `NTS_PrepareForAuth` with the record's `uniq_id` and `nonce`: after a key exchange that
leaves cookies it fills them with the bytes `drawn` of `UTI_GetRandomBytes`. -/
def ntsPrepareForAuth (inst : NtsClientInstance) (random : AuthRandom) (ke : KeOutcome)
    (drawn : AuthRandom) : Bool × NtsClientInstance × AuthRandom :=
  if !needsNke inst then (true, inst, random)
  else
    let inst := getNkeData inst ke
    if needsNke inst then (false, inst, random) else (true, inst, drawn)

end Wire

/-- `NTS_PrepareForAuth` on the wire does to the cookies what the cookie model's does, and
changes `uniq_id` and `nonce` only when it has run a key exchange that left cookies. -/
theorem wire_ntsPrepareForAuth_spec (inst : NtsClientInstance) (random : AuthRandom)
    (ke : KeOutcome) (drawn : AuthRandom) :
    let out := Wire.ntsPrepareForAuth inst random ke drawn
    (out.1, out.2.1) = ntsPrepareForAuth inst ke ∧
      (out.2.2 = if needsNke inst && !needsNke (getNkeData inst ke) then drawn else random) := by
  unfold Wire.ntsPrepareForAuth ntsPrepareForAuth
  by_cases h : needsNke inst = true <;> by_cases h' : needsNke (getNkeData inst ke) = true <;>
    simp [h, h']

/-- A call on the client: `NTS_PrepareForAuth`, with the outcome of the key exchange and
the bytes `UTI_GetRandomBytes` would draw, or `NTS_GenerateRequestAuth` on a packet of at
most `maxLength` bytes. -/
inductive WireCall
  | prepareForAuth (ke : KeOutcome) (drawn : AuthRandom)
  | generateRequestAuth (maxLength : Nat) (packet : NtpPacket)

/-- The client on the wire with two ghosts: how many times `NTS_PrepareForAuth` has drawn
`uniq_id` and `nonce`, and for each request sent, that number when it was sent and the
fields `NTS_GenerateRequestAuth` appended to its packet. -/
structure WireClient where
  inst : NtsClientInstance
  random : AuthRandom
  draws : Nat
  sent : List (Nat × List ExtField)

def WireClient.initial : WireClient := ⟨ntsCreateClientInstance, AuthRandom.zero, 0, []⟩

/-- The Unique-Identifier field the fields of a request start with, and the header and
nonce the body of the authenticator they end with starts with. -/
def requestIdentity (fields : List ExtField) : Option ExtField × Option (List UInt8) :=
  (fields.head?, fields.getLast?.map fun f => f.body.take (4 + nonceLength))

section Run

variable (siv : SivCmac) (wire : NtpPacket → List UInt8)

/-- One call on the client, with the SIV primitive and the packets' bytes fixed. -/
def WireClient.step (c : WireClient) : WireCall → WireClient
  | .prepareForAuth ke drawn =>
    let out := Wire.ntsPrepareForAuth c.inst c.random ke drawn
    { c with
      inst := out.2.1, random := out.2.2,
      draws := if needsNke c.inst && !needsNke (getNkeData c.inst ke) then c.draws + 1
        else c.draws }
  | .generateRequestAuth maxLength packet =>
    let out := Wire.ntsGenerateRequestAuth siv wire maxLength c.random c.inst packet
    { c with
      inst := out.2.2,
      sent := if out.1 then c.sent ++ [(c.draws, out.2.1.fields.drop packet.fields.length)]
        else c.sent }

/-- What every client satisfies: a request is tagged with a number of draws no later than
the client's; those of the latest draw carry its `uniq_id` and `nonce`; and requests of the
same draw carry the same ones. -/
structure SharedIdentity (c : WireClient) : Prop where
  draws_le : ∀ x ∈ c.sent, x.1 ≤ c.draws
  current : ∀ x ∈ c.sent, x.1 = c.draws → requestIdentity x.2 =
    (some ⟨ntpEfNtsUniqueIdentifier, c.random.uniqId⟩,
      some (htons (nonceLength : Int) ++ htons (sivDigestSize : Int) ++ c.random.nonce))
  shared : ∀ x ∈ c.sent, ∀ y ∈ c.sent, x.1 = y.1 → requestIdentity x.2 = requestIdentity y.2

theorem sharedIdentity_initial : SharedIdentity WireClient.initial :=
  ⟨nofun, nofun, nofun⟩

/-- The fields a successful `NTS_GenerateRequestAuth` appends identify it by the record's
`uniq_id` and `nonce`. -/
theorem requestIdentity_generateRequestAuth (maxLength : Nat) (random : AuthRandom)
    (inst : NtsClientInstance) (packet : NtpPacket)
    (hok : (Wire.ntsGenerateRequestAuth siv wire maxLength random inst packet).1 = true) :
    requestIdentity ((Wire.ntsGenerateRequestAuth siv wire maxLength random inst packet).2.1.fields.drop
        packet.fields.length) =
      (some ⟨ntpEfNtsUniqueIdentifier, random.uniqId⟩,
        some (htons (nonceLength : Int) ++ htons (sivDigestSize : Int) ++ random.nonce)) := by
  have hlen : (htons (nonceLength : Int) ++ htons (sivDigestSize : Int) ++ random.nonce).length =
      4 + nonceLength := by
    simp only [List.length_append, ChronyNts.KeyExchange.length_htons, random.length_nonce]
  rw [wire_ntsGenerateRequestAuth_of_ok hok]
  simp only [NtpPacket.fields_extend, List.drop_left, requestIdentity, List.getLast?_concat,
    Option.map_some', authField, List.take_left' hlen]
  rfl

theorem SharedIdentity.step {c : WireClient} (h : SharedIdentity c) (call : WireCall) :
    SharedIdentity (c.step siv wire call) := by
  cases call with
  | prepareForAuth ke drawn =>
    -- a draw starts a new tag, under which nothing has been sent yet
    obtain ⟨-, hrandom⟩ := wire_ntsPrepareForAuth_spec c.inst c.random ke drawn
    simp only [WireClient.step]
    by_cases hdraw : (needsNke c.inst && !needsNke (getNkeData c.inst ke)) = true
    · rw [if_pos hdraw]
      refine ⟨fun x hx => Nat.le_succ_of_le (h.draws_le x hx), fun x hx hx' => ?_, h.shared⟩
      exact absurd hx' (Nat.ne_of_lt (Nat.lt_succ_of_le (h.draws_le x hx)))
    · rw [if_neg hdraw] at hrandom ⊢
      exact ⟨h.draws_le, by rw [hrandom]; exact h.current, h.shared⟩
  | generateRequestAuth maxLength packet =>
    -- a request sent now carries the current `uniq_id` and `nonce`
    simp only [WireClient.step]
    split
    · rename_i hok
      have hid := requestIdentity_generateRequestAuth siv wire maxLength c.random c.inst packet hok
      have hcurrent : ∀ x ∈ c.sent ++ [(c.draws,
          (Wire.ntsGenerateRequestAuth siv wire maxLength c.random c.inst packet).2.1.fields.drop
            packet.fields.length)], x.1 = c.draws → requestIdentity x.2 =
          (some ⟨ntpEfNtsUniqueIdentifier, c.random.uniqId⟩,
            some (htons (nonceLength : Int) ++ htons (sivDigestSize : Int) ++ c.random.nonce)) := by
        intro x hx hx'
        rcases List.mem_append.mp hx with hx | hx
        · exact h.current x hx hx'
        · rw [List.mem_singleton.mp hx]; exact hid
      refine ⟨fun x hx => ?_, hcurrent, fun x hx y hy hxy => ?_⟩
      · rcases List.mem_append.mp hx with hx | hx
        · exact h.draws_le x hx
        · rw [List.mem_singleton.mp hx]
      · rcases List.mem_append.mp hx with hx' | hx' <;> rcases List.mem_append.mp hy with hy' | hy'
        · exact h.shared x hx' y hy' hxy
        · have hy1 : y.1 = c.draws := by rw [List.mem_singleton.mp hy']
          rw [hcurrent x hx (hxy.trans hy1), hcurrent y hy hy1]
        · have hx1 : x.1 = c.draws := by rw [List.mem_singleton.mp hx']
          rw [hcurrent x hx hx1, hcurrent y hy (hxy.symm.trans hx1)]
        · rw [List.mem_singleton.mp hx', List.mem_singleton.mp hy']
    · exact ⟨h.draws_le, h.current, h.shared⟩

/-- Along every run of the client, any two requests sent with no key exchange between
them (after the same number of draws) carry the same Unique-Identifier field, and
authenticators that start with the same header and nonce: `NTS_PrepareForAuth` draws
`uniq_id` and `nonce` only after a key exchange, and `NTS_GenerateRequestAuth` never. -/
theorem requests_share_uniqId_nonce (calls : List WireCall) :
    let c := calls.foldl (WireClient.step siv wire) WireClient.initial
    ∀ x ∈ c.sent, ∀ y ∈ c.sent, x.1 = y.1 → requestIdentity x.2 = requestIdentity y.2 := by
  have run : ∀ (calls : List WireCall) (c : WireClient), SharedIdentity c →
      SharedIdentity (calls.foldl (WireClient.step siv wire) c) := by
    intro calls
    induction calls with
    | nil => exact fun _ h => h
    | cons call calls ih => exact fun c h => ih _ (h.step siv wire call)
  exact (run calls _ sharedIdentity_initial).shared

/- One key exchange that leaves two cookies, then two requests: both go out under the
same draw, so with the same Unique-Identifier and nonce. -/
example :
    let calls := [WireCall.prepareForAuth ⟨true, 2, [⟨[1]⟩, ⟨[2]⟩], some (⟨[]⟩, ⟨[]⟩)⟩
        AuthRandom.zero, .generateRequestAuth 1000 ⟨modeClient, 48, 0, []⟩,
      .generateRequestAuth 1000 ⟨modeClient, 48, 0, []⟩]
    (calls.foldl (WireClient.step SivCmac.plain fun _ => []) WireClient.initial).sent.map
      Prod.fst = [1, 1] := by
  decide

/-- The key exchange's outcomes in a call are valid ones. -/
def WireCall.Valid : WireCall → Prop
  | .prepareForAuth ke _ => ke.Valid
  | .generateRequestAuth _ _ => True

/-- The call of the cookie model that a call on the wire makes on the client it finds:
`room` is the packet's room for every field. -/
def WireCall.toNtsCall (c : WireClient) : WireCall → NtsCall
  | .prepareForAuth ke _ => .prepareForAuth ke
  | .generateRequestAuth maxLength packet =>
    .generateRequestAuth (requestRoom maxLength c.random c.inst packet)

/-- The calls of the cookie model that a run on the wire makes, in order. -/
def WireClient.trace (c : WireClient) : List WireCall → List NtsCall
  | [] => []
  | call :: calls => call.toNtsCall c :: (c.step siv wire call).trace calls

/-- One call on the wire leaves the instance as the cookie model's call it makes. -/
theorem inst_step_toNtsCall (c : WireClient) (t : TrackedClient) (h : t.inst = c.inst)
    (call : WireCall) : (c.step siv wire call).inst = (t.step (call.toNtsCall c)).inst := by
  cases call with
  | prepareForAuth ke drawn =>
    have hprep := congrArg Prod.snd (wire_ntsPrepareForAuth_spec c.inst c.random ke drawn).1
    simp only [WireClient.step, WireCall.toNtsCall, TrackedClient.step, h]
    split_ifs <;> exact hprep
  | generateRequestAuth maxLength packet =>
    have hgen := (wire_ntsGenerateRequestAuth_model siv wire maxLength c.random c.inst packet).2
    simp only [WireClient.step, WireCall.toNtsCall, TrackedClient.step, h]
    split <;> rename_i hmodel <;> rw [hgen, hmodel]

/-- Every run of the packet-level client is simulated by a run of the cookie model: the
calls it makes on the model are valid when the key exchange's outcomes are, and after
every run the client's instance is the model's, so the model's invariant, with the order
in which cookies go out, holds of the client on the wire. -/
theorem wire_run_refines_model (calls : List WireCall) (hcalls : ∀ call ∈ calls, call.Valid) :
    let c := calls.foldl (WireClient.step siv wire) WireClient.initial
    let model := TrackedClient.run (WireClient.initial.trace siv wire calls)
    (∀ call ∈ WireClient.initial.trace siv wire calls, call.Valid) ∧ model.inst = c.inst ∧
      ClientInv model := by
  have sim : ∀ (calls : List WireCall) (c : WireClient) (t : TrackedClient), t.inst = c.inst →
      (∀ call ∈ calls, call.Valid) →
      (∀ call ∈ c.trace siv wire calls, call.Valid) ∧
        ((c.trace siv wire calls).foldl TrackedClient.step t).inst =
          (calls.foldl (WireClient.step siv wire) c).inst := by
    intro calls
    induction calls with
    | nil => exact fun _ _ h _ => ⟨nofun, h⟩
    | cons call calls ih =>
      intro c t h hcalls
      obtain ⟨hvalid, hinst⟩ := ih (c.step siv wire call) (t.step (call.toNtsCall c))
        (inst_step_toNtsCall siv wire c t h call).symm
        fun call' hcall' => hcalls call' (List.mem_cons_of_mem _ hcall')
      refine ⟨?_, hinst⟩
      rintro call' (_ | ⟨_, hcall'⟩)
      · have := hcalls call (List.mem_cons_self _ _)
        cases call <;> exact this
      · exact hvalid call' hcall'
  obtain ⟨hvalid, hinst⟩ := sim calls WireClient.initial TrackedClient.initial rfl hcalls
  exact ⟨hvalid, hinst, clientInv_foldl _ hvalid _ clientInv_initial⟩

theorem wire_run_refines_model_two_cookies :
    let calls := [WireCall.prepareForAuth ⟨true, 2, [⟨[1]⟩, ⟨[2]⟩], some (⟨[]⟩, ⟨[]⟩)⟩
        AuthRandom.zero, .generateRequestAuth 1000 ⟨modeClient, 48, 0, []⟩]
    let c := calls.foldl (WireClient.step SivCmac.plain fun _ => []) WireClient.initial
    let model := TrackedClient.run (WireClient.initial.trace SivCmac.plain (fun _ => []) calls)
    (∀ call ∈ calls, call.Valid) ∧
      (∀ call ∈ WireClient.initial.trace SivCmac.plain (fun _ => []) calls, call.Valid) ∧
        model.inst = c.inst ∧ ClientInv model :=
  have hcalls : ∀ call ∈ [WireCall.prepareForAuth ⟨true, 2, [⟨[1]⟩, ⟨[2]⟩], some (⟨[]⟩, ⟨[]⟩)⟩
      AuthRandom.zero, .generateRequestAuth 1000 ⟨modeClient, 48, 0, []⟩], call.Valid := by
    simp [WireCall.Valid, KeOutcome.Valid]
  ⟨hcalls, wire_run_refines_model SivCmac.plain (fun _ => []) _ hcalls⟩

end Run

end ChronyNts.NtsNtp
