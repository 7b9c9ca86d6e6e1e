import ChronyNts.KeyExchange.ClientResponse

/-!
# The NTS-NTP client's cookies

`struct NTS_ClientInstance_Record` keeps the cookies of its latest key exchange in
an array of `MAX_COOKIES` with `num_cookies` and `cookie_index`.
`NTS_PrepareForAuth` runs `get_nke_data` when no cookie is left, and
`NTS_GenerateRequestAuth` sends `cookies[cookie_index]` with `MAX_COOKIES -
num_cookies` placeholders, then consumes it.

What the key exchange answers inside `get_nke_data` is a `KeOutcome`; the outcomes
of the modelled `NKE_GetCookies` are valid ones (`valid_nkeGetCookies`).  To state
what is sent, a `TrackedClient` carries ghost copies of the count and the cookies
of the latest exchange and of the cookies sent since.

The last section follows the cookies from the server's response through
`NKE_GetCookies` and `get_nke_data` into the requests, and back into `NKE_DecodeCookie`
(`sent_cookies_open_to_client_keys`).

## Strategy

`ClientInv` holds initially and after every call (`clientInv_step`); what the next
`NTS_GenerateRequestAuth` sends is read off it.
-/

namespace ChronyNts.NtsNtp

open ChronyNts.KeyExchange (NkeCookie NkeKey)

/-- `MAX_COOKIES` of `nts_ntp.c`: the size of the client's cookie array. -/
@[simp] def maxCookies : Nat := 8

/-- `struct NTS_ClientInstance_Record`: whether `nke` is set, the cookie array, the two
counters, and the keys of `siv_c2s` and `siv_s2c` once set. -/
structure NtsClientInstance where
  nke : Bool
  cookies : Nat → NkeCookie
  numCookies : Int
  cookieIndex : Int
  keys : Option (NkeKey × NkeKey)

/-- `NTS_CreateClientInstance`, whose `memset` zeroes the record. -/
def ntsCreateClientInstance : NtsClientInstance := ⟨false, fun _ => ⟨[]⟩, 0, 0, none⟩

/-- `needs_nke`. -/
def needsNke (inst : NtsClientInstance) : Bool := inst.numCookies = 0

/-- What `get_nke_data` obtains from the key exchange: whether `NKE_OpenClientConnection`
succeeds (when it has to create an instance), what `NKE_GetCookies` returns and the
cookies it stores, and the keys of `NKE_GetKeys`, if it succeeds. -/
structure KeOutcome where
  opened : Bool
  count : Nat
  cookies : List NkeCookie
  keys : Option (NkeKey × NkeKey)

/-- An outcome `NKE_GetCookies` can give with room for `MAX_COOKIES`: at most that many
cookies stored, and a count of at most the cookies stored. -/
def KeOutcome.Valid (ke : KeOutcome) : Prop :=
  ke.count ≤ ke.cookies.length ∧ ke.cookies.length ≤ maxCookies

/-- The array after `NKE_GetCookies` wrote `cookies` at its start. -/
def storeCookies (cookies : List NkeCookie) (old : Nat → NkeCookie) : Nat → NkeCookie :=
  fun i => cookies.getD i (old i)

/-- `get_nke_data`.  A failed open destroys the new instance and changes nothing else;
after a successful `NKE_GetKeys` the instance is destroyed. -/
def getNkeData (inst : NtsClientInstance) (ke : KeOutcome) : NtsClientInstance :=
  if !inst.nke ∧ !ke.opened then inst
  else
    let inst := { inst with
      nke := true, cookieIndex := 0, numCookies := ke.count,
      cookies := storeCookies ke.cookies inst.cookies }
    if inst.numCookies = 0 then inst
    else
      match ke.keys with
      | none => { inst with numCookies := 0 }
      | some keys => { inst with keys := some keys, nke := false }

/-- `NTS_PrepareForAuth`; the random `uniq_id` and `nonce` it draws are not modelled. -/
def ntsPrepareForAuth (inst : NtsClientInstance) (ke : KeOutcome) : Bool × NtsClientInstance :=
  if !needsNke inst then (true, inst)
  else
    let inst := getNkeData inst ke
    (!needsNke inst, inst)

/-- `NTS_GenerateRequestAuth`, with `room` whether the packet takes every field
`NEF_AddField` adds: on success the cookie sent and the number of placeholders. -/
def ntsGenerateRequestAuth (inst : NtsClientInstance) (room : Bool) :
    Option (NkeCookie × Nat) × NtsClientInstance :=
  if needsNke inst then (none, inst)
  else if !room then (none, inst)
  else
    (some (inst.cookies inst.cookieIndex.toNat, (maxCookies - inst.numCookies).toNat),
      { inst with
        numCookies := inst.numCookies - 1, cookieIndex := (inst.cookieIndex + 1) % maxCookies })

/-! ## Runs with the latest exchange tracked -/

/-- A call on the client. -/
inductive NtsCall
  | prepareForAuth (ke : KeOutcome)
  | generateRequestAuth (room : Bool)

/-- The outcomes of the key exchange in a call are valid ones. -/
def NtsCall.Valid : NtsCall → Prop
  | .prepareForAuth ke => ke.Valid
  | .generateRequestAuth _ => True

/-- The client with ghost copies of the count and the cookies of its latest key
exchange, and of the cookies it has sent since. -/
structure TrackedClient where
  inst : NtsClientInstance
  count : Nat
  batch : List NkeCookie
  sent : List NkeCookie

def TrackedClient.initial : TrackedClient := ⟨ntsCreateClientInstance, 0, [], []⟩

/-- One call.  A key exchange takes place when `get_nke_data` reaches `NKE_GetCookies`. -/
def TrackedClient.step (t : TrackedClient) : NtsCall → TrackedClient
  | .prepareForAuth ke =>
    if needsNke t.inst ∧ (t.inst.nke ∨ ke.opened) then
      ⟨(ntsPrepareForAuth t.inst ke).2, ke.count, ke.cookies, []⟩
    else { t with inst := (ntsPrepareForAuth t.inst ke).2 }
  | .generateRequestAuth room =>
    match ntsGenerateRequestAuth t.inst room with
    | (some (cookie, _), inst) => { t with inst := inst, sent := t.sent ++ [cookie] }
    | (none, inst) => { t with inst := inst }

/-- The client after `calls`, in order. -/
def TrackedClient.run (calls : List NtsCall) : TrackedClient :=
  calls.foldl TrackedClient.step TrackedClient.initial

/-! ## Outcomes of the modelled key exchange -/

open ChronyNts.KeyExchange in
/-- `process_response` stores at most `max_cookies` cookies. -/
theorem length_cookies_processResponse (env : KeEnv) (n : Nat) (m : NkeMessage) :
    (processResponse env n m).1.cookies.length ≤ n := by
  have step : ∀ s r, s.cookies.length ≤ n →
      (processResponseRecord env n s r).cookies.length ≤ n := by
    intro s r hs
    by_cases hr : r.type = recordCookie
    · simp only [processResponseRecord, hr, recordCookie, recordNextProtocol, recordAeadAlgorithm,
        recordError, recordWarning, Nat.reduceEqDiff, if_false, if_true, false_or]
      split_ifs
      · simp only [List.length_append, List.length_singleton]
        omega
      · exact hs
    · rw [processResponseRecord_cookies env n s hr]
      exact hs
  have fold : ∀ rs (s : ResponseScan), s.cookies.length ≤ n →
      (foldUntil (fun s => s.error ≠ errorNone) (processResponseRecord env n) s rs).cookies.length ≤
        n := by
    intro rs
    induction rs with
    | nil => exact fun _ hs => hs
    | cons r rs ih =>
      intro s hs
      rw [foldUntil_cons]
      split
      · exact hs
      · exact ih _ (step s r hs)
  rw [processResponse, recordLoop_fst]
  exact fold _ _ (Nat.zero_le _)

open ChronyNts.KeyExchange in
/-- What the modelled `NKE_GetCookies` returns with room for `MAX_COOKIES` is a valid
outcome. -/
theorem valid_nkeGetCookies (env : KeEnv) (nke : NkeInstance) (opened : Bool)
    (keys : Option (NkeKey × NkeKey)) :
    (⟨opened, (nkeGetCookies env nke maxCookies).1, (nkeGetCookies env nke maxCookies).2, keys⟩ :
      KeOutcome).Valid := by
  unfold nkeGetCookies
  split
  · exact ⟨le_rfl, by simp⟩
  · exact ⟨ResponseScan.result_le _, length_cookies_processResponse env _ _⟩

/-! ## The invariant -/

/-- What every tracked client satisfies: the counters in range; while cookies remain,
`cookie_index` of them sent, and those are the first ones of the latest exchange; the
cookies of that exchange stored at the start of the array. -/
structure ClientInv (t : TrackedClient) : Prop where
  index_nonneg : 0 ≤ t.inst.cookieIndex
  index_lt : t.inst.cookieIndex < maxCookies
  num_nonneg : 0 ≤ t.inst.numCookies
  count_le : t.count ≤ t.batch.length
  batch_le : t.batch.length ≤ maxCookies
  stored : ∀ j < t.batch.length, t.inst.cookies j = t.batch.getD j ⟨[]⟩
  pending : t.inst.numCookies = 0 ∨
    t.inst.cookieIndex + t.inst.numCookies = t.count ∧
      t.sent = t.batch.take t.inst.cookieIndex.toNat
  sent_prefix : t.sent <+: t.batch.take t.count

theorem clientInv_initial : ClientInv TrackedClient.initial :=
  ⟨le_rfl, by decide, le_rfl, le_rfl, by decide, nofun, .inl rfl, List.nil_prefix⟩

/-- `get_nke_data` once `NKE_GetCookies` is reached: the index restarts, the count is
taken (or dropped when the keys fail), and the cookies are stored. -/
theorem getNkeData_of_exchange {inst : NtsClientInstance} {ke : KeOutcome}
    (h : inst.nke = true ∨ ke.opened = true) :
    (getNkeData inst ke).cookieIndex = 0 ∧
      (getNkeData inst ke).cookies = storeCookies ke.cookies inst.cookies ∧
      ((getNkeData inst ke).numCookies = 0 ∨ (getNkeData inst ke).numCookies = ke.count) := by
  unfold getNkeData
  rw [if_neg (by cases h <;> simp_all)]
  dsimp only
  split
  · exact ⟨rfl, rfl, .inr rfl⟩
  · split
    · exact ⟨rfl, rfl, .inl rfl⟩
    · exact ⟨rfl, rfl, .inr rfl⟩

/-- Without an exchange, `NTS_PrepareForAuth` changes nothing. -/
theorem ntsPrepareForAuth_of_no_exchange {inst : NtsClientInstance} {ke : KeOutcome}
    (h : ¬(needsNke inst = true ∧ (inst.nke = true ∨ ke.opened = true))) :
    (ntsPrepareForAuth inst ke).2 = inst := by
  unfold ntsPrepareForAuth getNkeData
  by_cases hn : needsNke inst = true
  · simp_all
  · simp_all

/-- A successful `NTS_GenerateRequestAuth` sends `cookies[cookie_index]` and consumes it. -/
theorem ntsGenerateRequestAuth_of_some {inst : NtsClientInstance} {room : Bool}
    {cookie : NkeCookie} {placeholders : Nat}
    (h : (ntsGenerateRequestAuth inst room).1 = some (cookie, placeholders)) :
    inst.numCookies ≠ 0 ∧ cookie = inst.cookies inst.cookieIndex.toNat ∧
      placeholders = (maxCookies - inst.numCookies).toNat ∧
      (ntsGenerateRequestAuth inst room).2 = { inst with
        numCookies := inst.numCookies - 1, cookieIndex := (inst.cookieIndex + 1) % maxCookies } := by
  unfold ntsGenerateRequestAuth at h ⊢
  split_ifs at h ⊢ with hneeds hroom
  simp only [Option.some.injEq, Prod.mk.injEq] at h
  exact ⟨by simpa [needsNke] using hneeds, h.1.symm, h.2.symm, rfl⟩

theorem ntsGenerateRequestAuth_of_none {inst : NtsClientInstance} {room : Bool}
    (h : (ntsGenerateRequestAuth inst room).1 = none) : (ntsGenerateRequestAuth inst room).2 = inst := by
  unfold ntsGenerateRequestAuth at h ⊢
  split_ifs at h ⊢ <;> rfl

/-- `NTS_PrepareForAuth` keeps the invariant: an exchange starts a new batch, and without
one nothing changes. -/
theorem clientInv_prepareForAuth {t : TrackedClient} (h : ClientInv t) {ke : KeOutcome}
    (hke : ke.Valid) : ClientInv (t.step (.prepareForAuth ke)) := by
  simp only [TrackedClient.step]
  split_ifs with hex
  · obtain ⟨hindex, hcookies, hnum⟩ := getNkeData_of_exchange hex.2
    have hprep : (ntsPrepareForAuth t.inst ke).2 = getNkeData t.inst ke := by
      simp [ntsPrepareForAuth, hex.1]
    refine ⟨?_, ?_, ?_, hke.1, hke.2, ?_, ?_, List.nil_prefix⟩
    · simp [hprep, hindex]
    · simp [hprep, hindex]
    · rcases hnum with hnum | hnum <;> simp [hprep, hnum]
    · intro j hj
      simp [hprep, hcookies, storeCookies, hj]
    · rcases hnum with hnum | hnum
      · exact .inl (by rw [hprep, hnum])
      · exact .inr ⟨by simp [hprep, hindex, hnum], by simp [hprep, hindex]⟩
  · rw [ntsPrepareForAuth_of_no_exchange hex]
    exact h

/-- `NTS_GenerateRequestAuth` keeps the invariant: the cookie it sends is the next one of
the batch. -/
theorem clientInv_generateRequestAuth {t : TrackedClient} (h : ClientInv t) (room : Bool) :
    ClientInv (t.step (.generateRequestAuth room)) := by
  simp only [TrackedClient.step]
  split
  · rename_i cookie placeholders inst hgen
    obtain ⟨hnum, hcookie, -, hinst⟩ := ntsGenerateRequestAuth_of_some (congrArg Prod.fst hgen)
    rw [hgen] at hinst
    subst hinst hcookie
    obtain ⟨hpend, hsent⟩ := h.pending.resolve_left hnum
    obtain ⟨i, hi⟩ : ∃ i : Nat, t.inst.cookieIndex = i :=
      ⟨_, (Int.toNat_of_nonneg h.index_nonneg).symm⟩
    have hnum1 := h.num_nonneg
    have hcount := h.count_le
    have hbatch := h.batch_le
    simp only [maxCookies] at hbatch
    have hi8 : i + 1 ≤ t.count := by omega
    have hnext : ((i : Int) + 1).toNat = i + 1 := by omega
    have htake : t.sent ++ [t.inst.cookies i] = t.batch.take (i + 1) := by
      rw [hsent, hi, Int.toNat_ofNat, h.stored i (by omega), List.take_succ,
        List.getElem?_eq_getElem (by omega), List.getD_eq_getElem _ _ (by omega)]
      rfl
    simp only [hi, Int.toNat_ofNat]
    refine ⟨Int.emod_nonneg _ (by decide), Int.emod_lt_of_pos _ (by decide),
      show 0 ≤ t.inst.numCookies - 1 by omega, h.count_le, h.batch_le, h.stored, ?_, ?_⟩
    · by_cases hlast : t.inst.numCookies = 1
      · exact .inl (by simp [hlast])
      · simp only [maxCookies]
        rw [Int.emod_eq_of_lt (by omega) (by omega), hnext]
        exact .inr ⟨by omega, htake⟩
    · rw [htake]
      exact List.take_prefix_take_left _ hi8
  · rename_i inst hgen
    have hsame := ntsGenerateRequestAuth_of_none (congrArg Prod.fst hgen)
    rw [hgen] at hsame
    subst hsame
    exact h

/-- Every call keeps the invariant. -/
theorem clientInv_step {t : TrackedClient} (h : ClientInv t) {c : NtsCall} (hc : c.Valid) :
    ClientInv (t.step c) := by
  cases c with
  | prepareForAuth ke => exact clientInv_prepareForAuth h hc
  | generateRequestAuth room => exact clientInv_generateRequestAuth h room

theorem clientInv_foldl (calls : List NtsCall) (hcalls : ∀ c ∈ calls, c.Valid) :
    ∀ t : TrackedClient, ClientInv t → ClientInv (calls.foldl TrackedClient.step t) := by
  induction calls with
  | nil => exact fun _ h => h
  | cons c calls ih =>
    intro t h
    exact ih (fun c' hc' => hcalls c' (List.mem_cons_of_mem _ hc'))
      _ (clientInv_step h (hcalls c (List.mem_cons_self _ _)))

/-- Over any calls of `NTS_PrepareForAuth` and `NTS_GenerateRequestAuth`, with any valid
outcomes of the key exchange: `0 ≤ cookie_index < 8`, and either `num_cookies = 0` or
`cookie_index + num_cookies` is the count `k ≤ 8` of the latest exchange; the cookies
sent since that exchange are its first ones, in order.  A successful
`NTS_GenerateRequestAuth` sends the next of them, `cookies[j]` for `j = cookie_index`,
the number sent so far, below `k`, and adds `8 - num_cookies` placeholders, at most 7. -/
theorem ntsClient_cookie_order (calls : List NtsCall) (hcalls : ∀ c ∈ calls, c.Valid) :
    (0 ≤ (TrackedClient.run calls).inst.cookieIndex ∧
      (TrackedClient.run calls).inst.cookieIndex < maxCookies ∧
      ((TrackedClient.run calls).inst.numCookies = 0 ∨
        (TrackedClient.run calls).inst.cookieIndex + (TrackedClient.run calls).inst.numCookies =
          (TrackedClient.run calls).count) ∧
      (TrackedClient.run calls).count ≤ maxCookies ∧
      (TrackedClient.run calls).sent <+:
        (TrackedClient.run calls).batch.take (TrackedClient.run calls).count) ∧
    ∀ room cookie placeholders,
      (ntsGenerateRequestAuth (TrackedClient.run calls).inst room).1 = some (cookie, placeholders) →
        (TrackedClient.run calls).inst.cookieIndex = (TrackedClient.run calls).sent.length ∧
        (TrackedClient.run calls).sent.length < (TrackedClient.run calls).count ∧
        cookie = (TrackedClient.run calls).batch.getD (TrackedClient.run calls).sent.length ⟨[]⟩ ∧
        (placeholders : Int) = maxCookies - (TrackedClient.run calls).inst.numCookies ∧
        placeholders ≤ 7 := by
  have h : ClientInv (TrackedClient.run calls) := clientInv_foldl calls hcalls _ clientInv_initial
  refine ⟨⟨h.index_nonneg, h.index_lt, h.pending.imp_right And.left,
    h.count_le.trans h.batch_le, h.sent_prefix⟩, ?_⟩
  intro room cookie placeholders hgen
  obtain ⟨hnum, hcookie, hplace, -⟩ := ntsGenerateRequestAuth_of_some hgen
  obtain ⟨hpend, hsent⟩ := h.pending.resolve_left hnum
  obtain ⟨i, hi⟩ : ∃ i : Nat, (TrackedClient.run calls).inst.cookieIndex = i :=
    ⟨_, (Int.toNat_of_nonneg h.index_nonneg).symm⟩
  have hnum1 := h.num_nonneg
  have hcount := h.count_le
  have hbatch := h.batch_le
  simp only [maxCookies] at hbatch hplace ⊢
  have hlen : (TrackedClient.run calls).sent.length = i := by
    rw [hsent, hi, Int.toNat_ofNat, List.length_take]
    omega
  rw [hlen, hcookie, hi, Int.toNat_ofNat, h.stored i (by omega), hplace]
  exact ⟨rfl, by omega, rfl, by omega, by omega⟩

theorem ntsClient_cookie_order_two_cookies :
    let calls := [NtsCall.prepareForAuth ⟨true, 2, [⟨[1]⟩, ⟨[2]⟩], some (⟨[]⟩, ⟨[]⟩)⟩,
      .generateRequestAuth true]
    (0 ≤ (TrackedClient.run calls).inst.cookieIndex ∧
      (TrackedClient.run calls).inst.cookieIndex < maxCookies ∧
      ((TrackedClient.run calls).inst.numCookies = 0 ∨
        (TrackedClient.run calls).inst.cookieIndex + (TrackedClient.run calls).inst.numCookies =
          (TrackedClient.run calls).count) ∧
      (TrackedClient.run calls).count ≤ maxCookies ∧
      (TrackedClient.run calls).sent <+:
        (TrackedClient.run calls).batch.take (TrackedClient.run calls).count) ∧
    ∀ room cookie placeholders,
      (ntsGenerateRequestAuth (TrackedClient.run calls).inst room).1 = some (cookie, placeholders) →
        (TrackedClient.run calls).inst.cookieIndex = (TrackedClient.run calls).sent.length ∧
        (TrackedClient.run calls).sent.length < (TrackedClient.run calls).count ∧
        cookie = (TrackedClient.run calls).batch.getD (TrackedClient.run calls).sent.length ⟨[]⟩ ∧
        (placeholders : Int) = maxCookies - (TrackedClient.run calls).inst.numCookies ∧
        placeholders ≤ 7 :=
  ntsClient_cookie_order _ (by simp [NtsCall.Valid, KeOutcome.Valid])

/-! ## Cookies from the key exchange to the server -/

section EndToEnd

open ChronyNts.KeyExchange (KeEnv NkeInstance NkeMessage SivCmac KeyRing rotate
  serverCookieLength maxServerKeys nkeGenerateCookie nkeDecodeCookie nkeGetCookies processRequest
  prepareRequest)

theorem keys_ntsGenerateRequestAuth (inst : NtsClientInstance) (room : Bool) :
    (ntsGenerateRequestAuth inst room).2.keys = inst.keys := by
  unfold ntsGenerateRequestAuth
  split_ifs <;> rfl

/-- `NTS_GenerateRequestAuth` keeps the keys and the batch of the latest exchange. -/
theorem generateRequestAuth_run (rooms : List Bool) :
    ∀ t : TrackedClient,
      ((rooms.map NtsCall.generateRequestAuth).foldl TrackedClient.step t).batch = t.batch ∧
        ((rooms.map NtsCall.generateRequestAuth).foldl TrackedClient.step t).inst.keys =
          t.inst.keys := by
  induction rooms with
  | nil => exact fun _ => ⟨rfl, rfl⟩
  | cons room rooms ih =>
    intro t
    have hstep : (t.step (.generateRequestAuth room)).batch = t.batch ∧
        (t.step (.generateRequestAuth room)).inst.keys = t.inst.keys := by
      have hkeys := keys_ntsGenerateRequestAuth t.inst room
      simp only [TrackedClient.step]
      split <;> rename_i hgen <;> rw [hgen] at hkeys <;> exact ⟨rfl, hkeys⟩
    obtain ⟨h1, h2⟩ := ih (t.step (.generateRequestAuth room))
    exact ⟨h1.trans hstep.1, h2.trans hstep.2⟩

/-- From the key exchange to the server's cookie check, with the same exported keys `c2s`
and `s2c` on both ends of the TLS session: the server answers the client's request with
the cookies of `NKE_GenerateCookie` under a reachable key ring; the client's
`NKE_GetCookies` reads that answer, and `get_nke_data` stores its cookies and keys.  Over
any calls of `NTS_GenerateRequestAuth` after that, the client authenticates with `c2s` and
`s2c`, and every cookie it sends opens with `NKE_DecodeCookie`, after at most three more
rotations of the ring, to exactly those keys. -/
theorem sent_cookies_open_to_client_keys (env : KeEnv)
    (hL : serverCookieLength ≤ env.maxCookieLength) (siv : SivCmac)
    (inputs more : List (List UInt8 × Nat)) (hmore : more.length ≤ 3)
    (nonces : Nat → List UInt8) (hn : ∀ i, (nonces i).length = 16) (c2s s2c : NkeKey)
    (hc : c2s.key.length = 32) (hs : s2c.key.length = 32) (client server : NkeMessage)
    (nke : NkeInstance) (hmode : nke.mode = .client)
    (hbuf : nke.message.data = (processRequest env (some (c2s, s2c))
      (fun c2s s2c i => nkeGenerateCookie siv (rotate KeyRing.initial inputs) c2s s2c (nonces i))
      { server with data := (prepareRequest client).2.data }).2.data)
    (rooms : List Bool) :
    let ke : KeOutcome := ⟨true, (nkeGetCookies env nke maxCookies).1,
      (nkeGetCookies env nke maxCookies).2, some (c2s, s2c)⟩
    let t := TrackedClient.run (.prepareForAuth ke :: rooms.map .generateRequestAuth)
    t.inst.keys = some (c2s, s2c) ∧
      ∀ cookie ∈ t.sent,
        nkeDecodeCookie siv (rotate (rotate KeyRing.initial inputs) more) cookie = some (c2s, s2c) := by
  intro ke t
  set generateCookie := fun c2s s2c i =>
    nkeGenerateCookie siv (rotate KeyRing.initial inputs) c2s s2c (nonces i)
  have hlen : ∀ i, (generateCookie c2s s2c i).cookie.length = serverCookieLength :=
    fun i => ChronyNts.KeyExchange.length_nkeGenerateCookie siv _ hc hs (hn i)
  -- the client's buffer holds the server's response, and yields its eight cookies
  have hresp := hbuf.trans (ChronyNts.KeyExchange.processRequest_request_data env c2s s2c hlen
    (by simp [ChronyNts.KeyExchange.prepareRequest_eq]))
  have hread := ChronyNts.KeyExchange.processResponse_response env maxCookies
    (by simp at hL; omega) (fun i => by simp only [hlen i, serverCookieLength] at hL ⊢; omega)
    (ChronyNts.KeyExchange.valid_responseRecords env hlen) hresp
  have hget : nkeGetCookies env nke 8 = (8, (List.range 8).map (generateCookie c2s s2c)) := by
    simp only [maxCookies, ChronyNts.KeyExchange.maxCookies, Nat.min_self] at hread
    simp [nkeGetCookies, hmode, hread, ChronyNts.KeyExchange.ResponseScan.result,
      ChronyNts.KeyExchange.ResponseScan.init]
  -- the exchange starts the batch and sets the keys, which the requests keep
  have hvalid : ∀ c ∈ NtsCall.prepareForAuth ke :: rooms.map NtsCall.generateRequestAuth,
      c.Valid := by
    rintro c (_ | ⟨_, hc⟩)
    · simp [NtsCall.Valid, KeOutcome.Valid, ke, hget]
    · obtain ⟨room, -, rfl⟩ := List.mem_map.mp hc
      trivial
  have hinv : ClientInv t := clientInv_foldl _ hvalid _ clientInv_initial
  obtain ⟨hbatch, hkeys⟩ := generateRequestAuth_run rooms
    (TrackedClient.initial.step (.prepareForAuth ke))
  have hfirst : (TrackedClient.initial.step (.prepareForAuth ke)).batch = ke.cookies ∧
      (TrackedClient.initial.step (.prepareForAuth ke)).inst.keys = some (c2s, s2c) := by
    simp [TrackedClient.step, TrackedClient.initial, ntsPrepareForAuth, getNkeData, needsNke,
      ntsCreateClientInstance, ke, hget]
  refine ⟨hkeys.trans hfirst.2, fun cookie hcookie => ?_⟩
  have hmem : cookie ∈ ke.cookies := by
    rw [← hfirst.1, ← hbatch]
    exact List.mem_of_mem_take (hinv.sent_prefix.subset hcookie)
  simp only [ke, maxCookies, hget, List.mem_map, List.mem_range] at hmem
  obtain ⟨i, -, rfl⟩ := hmem
  exact ChronyNts.KeyExchange.nkeDecodeCookie_nkeGenerateCookie siv
    (ChronyNts.KeyExchange.invariant_rotate ChronyNts.KeyExchange.KeyRing.invariant_initial inputs)
    (KeyExchange.rotate_keys_current _ more hmore) hc hs (hn i)

/-- With the plain SIV stand-in, the ring after `NKE_Initialise`'s rotation, zero nonces
and keys, a client that sends two requests, and three more rotations before the server
looks at them. -/
theorem sent_cookies_open_to_client_keys_two_requests :
    let env : KeEnv := ⟨serverCookieLength, ChronyNts.KeyExchange.ntpPortDefault, fun _ => none⟩
    let key : NkeKey := ⟨List.replicate 32 0⟩
    let inputs : List (List UInt8 × Nat) := [([], 0)]
    let more : List (List UInt8 × Nat) := [([], 1), ([], 2), ([], 3)]
    let nonces : Nat → List UInt8 := fun _ => List.replicate 16 0
    let empty : NkeMessage := ⟨[], 0, false, 0⟩
    let data := (processRequest env (some (key, key))
      (fun c2s s2c i => nkeGenerateCookie SivCmac.plain (rotate KeyRing.initial inputs) c2s s2c
        (nonces i)) { empty with data := (prepareRequest empty).2.data }).2.data
    let nke : NkeInstance := ⟨.client, .closed, false, false, false, ⟨data, 0, false, 0⟩, ⟨[]⟩⟩
    let ke : KeOutcome := ⟨true, (nkeGetCookies env nke maxCookies).1,
      (nkeGetCookies env nke maxCookies).2, some (key, key)⟩
    let t := TrackedClient.run (.prepareForAuth ke :: [true, true].map .generateRequestAuth)
    serverCookieLength ≤ env.maxCookieLength ∧ more.length ≤ 3 ∧ (∀ i, (nonces i).length = 16) ∧
      key.key.length = 32 ∧ nke.mode = .client ∧ nke.message.data = data ∧
      t.inst.keys = some (key, key) ∧
      ∀ cookie ∈ t.sent, nkeDecodeCookie SivCmac.plain (rotate (rotate KeyRing.initial inputs) more)
        cookie = some (key, key) :=
  ⟨le_rfl, by decide, fun _ => List.length_replicate _ _, List.length_replicate _ _, rfl, rfl,
    sent_cookies_open_to_client_keys _ le_rfl SivCmac.plain _ _ (by decide) _
      (fun _ => List.length_replicate _ _) _ _ (List.length_replicate _ _)
      (List.length_replicate _ _) _ _ _ rfl rfl _⟩

end EndToEnd

end ChronyNts.NtsNtp
