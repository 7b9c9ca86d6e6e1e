import ChronyNts.KeyExchange.Exchange
import Mathlib.Tactic.IntervalCases

/-!
# The server key ring and its cookies

The server seals each client's pair of keys into a cookie under one of
`MAX_SERVER_KEYS = 4` master keys, which `generate_server_key` replaces in turn
every `SERVER_KEY_TIMEOUT` seconds.  A key's id carries its slot in its low
`KEY_ID_INDEX_BITS` bits, and `NKE_DecodeCookie` finds the key of a cookie in the
slot its id names and accepts it only if that slot's id is the cookie's.

```text
  cookie = key_id (4 bytes, host order) | nonce (16) | SIV (C2S | S2C) (64 + 16)
```

The array `server_keys` is static, so before a rotation reaches a slot its id is 0
and its SIV context is all zero bytes (`SivContext.zero`).  `NKE_Initialise` starts
with `current_server_key = 0` and rotates once, which fills slot 1: slot 0 keeps
id 0 until the fourth rotation, and a cookie with key id 0 passes the id check
there (`nkeDecodeCookie_opens_unfilled_slot`).

The AES-SIV-CMAC primitive is a parameter (`SivCmac`) with the two properties
the code relies on: the tag adds 16 bytes, and decryption inverts encryption
under the same context.
-/

namespace ChronyNts.KeyExchange

/-! ## The primitive -/

/-- Modelled from the spec: `SIV_DIGEST_SIZE` of `siv_cmac.h`, the 16-byte
authenticator of AES-SIV-CMAC-256. -/
@[simp] def sivDigestSize : Nat := 16

/-- A `struct siv_cmac_aes128_ctx`: the all-zero bytes of static storage, or the
context `siv_cmac_aes128_set_key` derives from a key. -/
inductive SivContext
  | zero
  | keyed (key : List UInt8)
deriving DecidableEq, Repr

/-- AES-SIV-CMAC (`siv_cmac_aes128_encrypt_message` and `..._decrypt_message`) with a
context, a nonce and associated data. -/
structure SivCmac where
  encrypt : SivContext → List UInt8 → List UInt8 → List UInt8 → List UInt8
  decrypt : SivContext → List UInt8 → List UInt8 → List UInt8 → Option (List UInt8)
  length_encrypt : ∀ ctx nonce adata plaintext,
    (encrypt ctx nonce adata plaintext).length = plaintext.length + sivDigestSize
  decrypt_encrypt : ∀ ctx nonce adata plaintext,
    decrypt ctx nonce adata (encrypt ctx nonce adata plaintext) = some plaintext

/-- A primitive with the two properties and no secrecy (its tag is 16 zero bytes), on
which the model can be run. -/
def SivCmac.plain : SivCmac where
  encrypt _ _ _ plaintext := plaintext ++ List.replicate sivDigestSize 0
  decrypt _ _ _ ciphertext :=
    if sivDigestSize ≤ ciphertext.length then some (ciphertext.take (ciphertext.length - 16))
    else none
  length_encrypt _ _ _ _ := by simp
  decrypt_encrypt _ _ _ _ := by simp

/-! ## The ring -/

@[simp] def keyIdIndexBits : Nat := 2

/-- `MAX_SERVER_KEYS`: `1U << KEY_ID_INDEX_BITS`. -/
@[simp] def maxServerKeys : Nat := 4

/-- `ServerKey`. -/
structure ServerKey where
  id : Nat
  siv : SivContext
deriving DecidableEq, Repr

/-- `server_keys` and `current_server_key`. -/
structure KeyRing where
  keys : Fin maxServerKeys → ServerKey
  current : Fin maxServerKeys

/-- The static storage before any rotation: every slot zero, `current_server_key = 0`. -/
def KeyRing.initial : KeyRing := ⟨fun _ => ⟨0, .zero⟩, ⟨0, by decide⟩⟩

/-- `-1U << KEY_ID_INDEX_BITS`: the `uint32_t` mask of the random bits of an id. -/
def keyIdMask : Nat := (0xFFFFFFFF <<< keyIdIndexBits) % 2 ^ 32

/-- `generate_server_key`, given the 32 bytes from `UTI_GetRandomBytesUrandom` and the
random `uint32_t` from `UTI_GetRandomBytes`: advance `current_server_key`, key its
slot, and give it a random id whose low bits are the slot. -/
def generateServerKey (ring : KeyRing) (key : List UInt8) (random : Nat) : KeyRing :=
  let current : Fin maxServerKeys :=
    ⟨(ring.current.val + 1) % maxServerKeys, Nat.mod_lt _ (by decide)⟩
  { keys := Function.update ring.keys current ⟨random &&& keyIdMask ||| current.val, .keyed key⟩
    current := current }

/-- The ring after the rotations whose random inputs are `inputs`, in order. -/
def rotate (ring : KeyRing) (inputs : List (List UInt8 × Nat)) : KeyRing :=
  inputs.foldl (fun ring input => generateServerKey ring input.1 input.2) ring

@[simp] theorem rotate_nil (ring : KeyRing) : rotate ring [] = ring := rfl

@[simp] theorem rotate_cons (ring : KeyRing) (input : List UInt8 × Nat)
    (inputs : List (List UInt8 × Nat)) :
    rotate ring (input :: inputs) = rotate (generateServerKey ring input.1 input.2) inputs := rfl

theorem rotate_append (ring : KeyRing) (inputs more : List (List UInt8 × Nat)) :
    rotate ring (inputs ++ more) = rotate (rotate ring inputs) more := by
  simp [rotate, List.foldl_append]

/-- The low bits of a generated id are its slot. -/
theorem keyId_mod (random c : Nat) (hc : c < maxServerKeys) :
    (random &&& keyIdMask ||| c) % maxServerKeys = c := by
  rw [keyIdMask, show (0xFFFFFFFF <<< keyIdIndexBits) % 2 ^ 32 = 0xFFFFFFFC from rfl]
  apply Nat.eq_of_testBit_eq
  intro i
  rw [maxServerKeys, show (4 : Nat) = 2 ^ 2 from rfl, Nat.testBit_mod_two_pow, Nat.testBit_or,
    Nat.testBit_and]
  rcases Nat.lt_or_ge i 2 with hi | hi
  · have : Nat.testBit 0xFFFFFFFC i = false := by interval_cases i <;> decide
    simp [hi, this]
  · have : c < 2 ^ i := lt_of_lt_of_le hc (Nat.pow_le_pow_right (n := 2) (by norm_num) hi)
    simp [Nat.not_lt.mpr hi, Nat.testBit_lt_two_pow this]

/-- A generated id is a `uint32_t`. -/
theorem keyId_lt (random c : Nat) (hc : c < maxServerKeys) :
    (random &&& keyIdMask ||| c) < 2 ^ 32 :=
  Nat.or_lt_two_pow (Nat.and_lt_two_pow _ (Nat.mod_lt _ (by norm_num)))
    (by simp only [maxServerKeys] at hc; omega)

@[simp] theorem generateServerKey_current (ring : KeyRing) (key : List UInt8) (random : Nat) :
    (generateServerKey ring key random).current.val = (ring.current.val + 1) % maxServerKeys :=
  rfl

theorem generateServerKey_keys (ring : KeyRing) (key : List UInt8) (random : Nat)
    (i : Fin maxServerKeys) :
    (generateServerKey ring key random).keys i =
      if i = (generateServerKey ring key random).current
      then ⟨random &&& keyIdMask ||| i.val, .keyed key⟩ else ring.keys i := by
  simp only [generateServerKey, Function.update_apply]
  split <;> simp_all

/-! ## Cookies -/

/-- `sizeof (ServerCookie)`: key id, nonce and sealed keys. -/
@[simp] def serverCookieLength : Nat := 4 + 16 + (64 + 16)

/-- The 4 bytes of a `uint32_t` in host byte order (little-endian). -/
def hostBytes32 (v : Nat) : List UInt8 :=
  [UInt8.ofNat v, UInt8.ofNat (v / 256), UInt8.ofNat (v / 65536), UInt8.ofNat (v / 16777216)]

/-- A `uint32_t` read from 4 bytes in host byte order. -/
def hostValue32 (b0 b1 b2 b3 : UInt8) : Nat :=
  b0.toNat + 256 * b1.toNat + 65536 * b2.toNat + 16777216 * b3.toNat

theorem hostValue32_hostBytes32 {v : Nat} (hv : v < 2 ^ 32) :
    hostValue32 (UInt8.ofNat v) (UInt8.ofNat (v / 256)) (UInt8.ofNat (v / 65536))
      (UInt8.ofNat (v / 16777216)) = v := by
  show v % 256 + 256 * (v / 256 % 256) + 65536 * (v / 65536 % 256) +
    16777216 * (v / 16777216 % 256) = v
  omega

/-- `NKE_GenerateCookie` with the 16 random bytes of the nonce: seal `C2S | S2C` under the
current key with empty associated data.  The C asserts that both keys are 32 bytes
long and copies 32 bytes of each. -/
def nkeGenerateCookie (siv : SivCmac) (ring : KeyRing) (c2s s2c : NkeKey)
    (nonce : List UInt8) : NkeCookie :=
  let key := ring.keys ring.current
  ⟨hostBytes32 key.id ++ nonce ++ siv.encrypt key.siv nonce [] (c2s.key.take 32 ++ s2c.key.take 32)⟩

/-- `cookie->key_id`: the first 4 bytes of a cookie. -/
def cookieKeyId (c : NkeCookie) : Nat :=
  hostValue32 (c.cookie.getD 0 0) (c.cookie.getD 1 0) (c.cookie.getD 2 0) (c.cookie.getD 3 0)

/-- `NKE_DecodeCookie`: check the length, find the key in the slot the id names, reject
an id that differs from the slot's, then open the keys. -/
def nkeDecodeCookie (siv : SivCmac) (ring : KeyRing) (c : NkeCookie) :
    Option (NkeKey × NkeKey) :=
  if c.cookie.length ≠ serverCookieLength then none
  else
    let key := ring.keys ⟨cookieKeyId c % maxServerKeys, Nat.mod_lt _ (by decide)⟩
    if cookieKeyId c ≠ key.id then none
    else
      match siv.decrypt key.siv ((c.cookie.drop 4).take 16) [] (c.cookie.drop 20) with
      | none => none
      | some plaintext => some (⟨plaintext.take 32⟩, ⟨(plaintext.drop 32).take 32⟩)

theorem length_nkeGenerateCookie (siv : SivCmac) (ring : KeyRing) {c2s s2c : NkeKey}
    {nonce : List UInt8} (hc : c2s.key.length = 32) (hs : s2c.key.length = 32)
    (hn : nonce.length = 16) :
    (nkeGenerateCookie siv ring c2s s2c nonce).cookie.length = serverCookieLength := by
  simp [nkeGenerateCookie, hostBytes32, siv.length_encrypt, hc, hs, hn]

/-- What `NKE_DecodeCookie` does with a cookie laid out as `ServerCookie`: look up the
slot the id names, compare ids, and open the sealed keys. -/
theorem nkeDecodeCookie_layout (siv : SivCmac) (ring : KeyRing) {id : Nat}
    {nonce ciphertext : List UInt8} (hid : id < 2 ^ 32) (hn : nonce.length = 16)
    (hct : ciphertext.length = 64 + 16) :
    nkeDecodeCookie siv ring ⟨hostBytes32 id ++ nonce ++ ciphertext⟩ =
      if id ≠ (ring.keys ⟨id % maxServerKeys, Nat.mod_lt _ (by decide)⟩).id then none
      else (siv.decrypt (ring.keys ⟨id % maxServerKeys, Nat.mod_lt _ (by decide)⟩).siv nonce []
        ciphertext).map fun plaintext => (⟨plaintext.take 32⟩, ⟨(plaintext.drop 32).take 32⟩) := by
  have hkey : cookieKeyId ⟨hostBytes32 id ++ nonce ++ ciphertext⟩ = id := by
    simpa [cookieKeyId, hostBytes32] using hostValue32_hostBytes32 hid
  have hnonce : ((hostBytes32 id ++ nonce ++ ciphertext).drop 4).take 16 = nonce := by
    simp [hostBytes32, hn]
  have hct' : (hostBytes32 id ++ nonce ++ ciphertext).drop 20 = ciphertext := by
    rw [List.append_assoc, show 20 = (hostBytes32 id).length + 16 by rfl, ← List.drop_drop,
      List.drop_left, ← hn, List.drop_left]
  unfold nkeDecodeCookie
  rw [if_neg (by simp [hostBytes32, hn, hct])]
  simp only [hkey, hnonce, hct']
  split
  · rfl
  · split <;> rename_i hdec <;> simp only [hdec, Option.map_none', Option.map_some']

/-! ## Invariants of the ring -/

/-- What every reachable ring satisfies: the current slot's id names that slot, so does
the id of every slot a rotation has filled, and every id is a `uint32_t`. -/
structure KeyRing.Invariant (ring : KeyRing) : Prop where
  current_id : (ring.keys ring.current).id % maxServerKeys = ring.current.val
  filled_id : ∀ i, (ring.keys i).siv ≠ .zero → (ring.keys i).id % maxServerKeys = i.val
  id_lt : ∀ i, (ring.keys i).id < 2 ^ 32

theorem KeyRing.invariant_initial : KeyRing.initial.Invariant :=
  ⟨rfl, fun _ h => absurd rfl h, fun _ => Nat.two_pow_pos 32⟩

theorem invariant_generateServerKey {ring : KeyRing} (h : ring.Invariant)
    (key : List UInt8) (random : Nat) : (generateServerKey ring key random).Invariant := by
  have hcur := (generateServerKey ring key random).current.isLt
  refine ⟨?_, fun i hi => ?_, fun i => ?_⟩
  · rw [generateServerKey_keys, if_pos rfl]
    exact keyId_mod _ _ hcur
  · rw [generateServerKey_keys] at hi ⊢
    split
    · rename_i hieq; subst hieq; exact keyId_mod _ _ hcur
    · rw [if_neg ‹_›] at hi; exact h.filled_id i hi
  · rw [generateServerKey_keys]
    split
    · rename_i hieq; subst hieq; exact keyId_lt _ _ hcur
    · exact h.id_lt i

theorem invariant_rotate {ring : KeyRing} (h : ring.Invariant)
    (inputs : List (List UInt8 × Nat)) : (rotate ring inputs).Invariant := by
  induction inputs generalizing ring with
  | nil => exact h
  | cons input inputs ih => exact ih (invariant_generateServerKey h _ _)

theorem current_rotate (ring : KeyRing) (inputs : List (List UInt8 × Nat)) :
    (rotate ring inputs).current.val = (ring.current.val + inputs.length) % maxServerKeys := by
  induction inputs generalizing ring with
  | nil => exact (Nat.mod_eq_of_lt ring.current.isLt).symm
  | cons input inputs ih =>
    rw [rotate_cons, ih, generateServerKey_current]
    simp only [List.length_cons, maxServerKeys]
    omega

/-- A rotation only writes the slot it moves to: after `inputs`, a slot none of the next
`inputs.length` positions reaches is as it was. -/
theorem rotate_keys_of_ne (ring : KeyRing) (inputs : List (List UInt8 × Nat))
    (i : Fin maxServerKeys)
    (hi : ∀ j, 1 ≤ j → j ≤ inputs.length → (ring.current.val + j) % maxServerKeys ≠ i.val) :
    (rotate ring inputs).keys i = ring.keys i := by
  induction inputs generalizing ring with
  | nil => rfl
  | cons input inputs ih =>
    rw [rotate_cons, ih]
    · rw [generateServerKey_keys, if_neg]
      intro hieq
      exact hi 1 le_rfl (by simp) (by rw [hieq]; rfl)
    · intro j hj hjl
      have := hi (j + 1) (by omega) (by simp; omega)
      simp only [generateServerKey_current, maxServerKeys] at this ⊢
      omega

/-- Fewer than `MAX_SERVER_KEYS` rotations leave the current key in its slot. -/
theorem rotate_keys_current (ring : KeyRing) (more : List (List UInt8 × Nat))
    (hmore : more.length ≤ 3) : (rotate ring more).keys ring.current = ring.keys ring.current := by
  apply rotate_keys_of_ne
  intro j hj hjl
  have := ring.current.isLt
  simp only [maxServerKeys] at this ⊢
  omega

/-- A cookie opens under any later ring that still holds the key it was sealed with. -/
theorem nkeDecodeCookie_nkeGenerateCookie (siv : SivCmac) {ring ring' : KeyRing}
    (h : ring.Invariant) (hkeep : ring'.keys ring.current = ring.keys ring.current)
    {c2s s2c : NkeKey} {nonce : List UInt8} (hc : c2s.key.length = 32)
    (hs : s2c.key.length = 32) (hn : nonce.length = 16) :
    nkeDecodeCookie siv ring' (nkeGenerateCookie siv ring c2s s2c nonce) = some (c2s, s2c) := by
  have hslot : (⟨(ring.keys ring.current).id % maxServerKeys, Nat.mod_lt _ (by decide)⟩ :
      Fin maxServerKeys) = ring.current := Fin.ext h.current_id
  rw [nkeGenerateCookie, nkeDecodeCookie_layout siv ring' (h.id_lt _) hn
    (by simp [siv.length_encrypt, hc, hs]), hslot, hkeep, if_neg (not_not.mpr rfl),
    siv.decrypt_encrypt]
  simp [List.take_of_length_le, hc, hs]

/-- The key ring keeps its invariants from the static zero state on (`NKE_Initialise`
performs the first rotation): `current_server_key` counts the rotations modulo 4, and
every slot a rotation has filled carries an id naming it.  A cookie generated in any
reachable state opens to exactly the keys sealed in it after at most 3 further
rotations. -/
theorem server_cookie_round_trip (siv : SivCmac) (inputs more : List (List UInt8 × Nat)) :
    (rotate KeyRing.initial inputs).current.val = inputs.length % maxServerKeys ∧
    (∀ i, ((rotate KeyRing.initial inputs).keys i).siv ≠ .zero →
      ((rotate KeyRing.initial inputs).keys i).id % maxServerKeys = i.val) ∧
    (more.length ≤ 3 → ∀ c2s s2c : NkeKey, ∀ nonce : List UInt8,
      c2s.key.length = 32 → s2c.key.length = 32 → nonce.length = 16 →
      nkeDecodeCookie siv (rotate (rotate KeyRing.initial inputs) more)
        (nkeGenerateCookie siv (rotate KeyRing.initial inputs) c2s s2c nonce) = some (c2s, s2c)) := by
  have h := invariant_rotate KeyRing.invariant_initial inputs
  refine ⟨by simpa [KeyRing.initial] using current_rotate KeyRing.initial inputs, h.filled_id,
    fun hmore c2s s2c nonce hc hs hn => nkeDecodeCookie_nkeGenerateCookie siv h ?_ hc hs hn⟩
  apply rotate_keys_of_ne
  intro j hj hjl
  have := (rotate KeyRing.initial inputs).current.isLt
  simp only [maxServerKeys] at this ⊢
  omega

theorem server_cookie_round_trip_three_rotations :
    nkeDecodeCookie SivCmac.plain (rotate (rotate KeyRing.initial [([], 0)]) [([], 1), ([], 2), ([], 3)])
      (nkeGenerateCookie SivCmac.plain (rotate KeyRing.initial [([], 0)])
        ⟨List.replicate 32 1⟩ ⟨List.replicate 32 2⟩ (List.replicate 16 0)) =
      some (⟨List.replicate 32 1⟩, ⟨List.replicate 32 2⟩) :=
  (server_cookie_round_trip SivCmac.plain [([], 0)] [([], 1), ([], 2), ([], 3)]).2.2 (by decide)
    _ _ _ (by simp) (by simp) (by simp)

/-! ## Slots no rotation has reached -/

/-- Until the fourth rotation slot 0 is as the static storage left it: id 0 and the zero
context. -/
theorem rotate_initial_slot_zero (inputs : List (List UInt8 × Nat))
    (h : inputs.length < maxServerKeys) :
    (rotate KeyRing.initial inputs).keys ⟨0, by decide⟩ = ⟨0, .zero⟩ :=
  rotate_keys_of_ne _ _ _ fun j hj hjl => by
    simp only [KeyRing.initial, maxServerKeys] at h ⊢
    omega

/-- Before the fourth rotation a cookie with key id 0, sealed under the zero context,
opens to the keys in it. -/
theorem nkeDecodeCookie_slot_zero (siv : SivCmac) {inputs : List (List UInt8 × Nat)}
    (h : inputs.length < maxServerKeys) {c2s s2c : NkeKey} {nonce : List UInt8}
    (hc : c2s.key.length = 32) (hs : s2c.key.length = 32) (hn : nonce.length = 16) :
    nkeDecodeCookie siv (rotate KeyRing.initial inputs)
      ⟨hostBytes32 0 ++ nonce ++ siv.encrypt .zero nonce [] (c2s.key ++ s2c.key)⟩ =
      some (c2s, s2c) := by
  rw [nkeDecodeCookie_layout siv _ (Nat.two_pow_pos 32) hn (by simp [siv.length_encrypt, hc, hs]),
    show (⟨0 % maxServerKeys, _⟩ : Fin maxServerKeys) = ⟨0, by decide⟩ from rfl,
    rotate_initial_slot_zero inputs h, if_neg (not_not.mpr rfl), siv.decrypt_encrypt]
  simp [List.take_of_length_le, hc, hs]

/-- After `NKE_Initialise`, whose one rotation fills slot 1, slot 0 holds no generated
key, yet a cookie naming key id 0 and sealed under the all-zero context decodes. -/
theorem nkeDecodeCookie_opens_unfilled_slot (siv : SivCmac) (key : List UInt8) (random : Nat) :
    ((generateServerKey KeyRing.initial key random).keys ⟨0, by decide⟩).siv = .zero ∧
    nkeDecodeCookie siv (generateServerKey KeyRing.initial key random)
      ⟨hostBytes32 0 ++ List.replicate 16 0 ++
        siv.encrypt .zero (List.replicate 16 0) [] (List.replicate 64 0)⟩ =
      some (⟨List.replicate 32 0⟩, ⟨List.replicate 32 0⟩) := by
  have hring : generateServerKey KeyRing.initial key random =
      rotate KeyRing.initial [(key, random)] := rfl
  have hone : [(key, random)].length < maxServerKeys := by simp
  refine ⟨by rw [hring, rotate_initial_slot_zero _ hone], ?_⟩
  rw [hring, show List.replicate 64 (0 : UInt8) = List.replicate 32 0 ++ List.replicate 32 0
    from rfl]
  exact nkeDecodeCookie_slot_zero siv hone (by simp) (by simp) (by simp)

end ChronyNts.KeyExchange
