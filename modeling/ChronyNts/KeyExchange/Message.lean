import Mathlib.Data.Nat.Bitwise
import Mathlib.Data.List.Basic
import Mathlib.Algebra.Order.Ring.Nat

/-!
# The NTS-KE message buffer and its records

This file models the record layer of `nts_ke.c`: the message buffer
`struct NKE_Message`, the encoder `add_record`, the decoder `get_record`, and
the validator `check_message_format`.

A record is a 4-byte header followed by its body:

```text
  type | critical << 15   (2 bytes, network order)
  body length             (2 bytes, network order)
  body
```

The C buffer is a fixed array of `MAX_MESSAGE_LENGTH` bytes of which the first
`length` are valid; `NkeMessage.data` holds exactly those valid bytes, so
`length` is `data.length`.  Bytes past `length` are never read by the code and
are not modelled.

Every loop of the form `while (... get_record (...))` is `recordLoop`: one
definition, with the body of the loop and its exit test as parameters.  The
validator, `process_request` and `process_response` are instances of it.
-/

namespace ChronyNts.KeyExchange

/-! ## Constants of `nts_ke.c` -/

/-- `MAX_MESSAGE_LENGTH`: the size of the data array of `struct NKE_Message`. -/
@[simp] def maxMessageLength : Nat := 16384

/-- `RECORD_CRITICAL_BIT`: `1U << 15`. -/
@[simp] def recordCriticalBit : Nat := 0x8000

@[simp] def recordEndOfMessage : Nat := 0
@[simp] def recordNextProtocol : Nat := 1
@[simp] def recordError : Nat := 2
@[simp] def recordWarning : Nat := 3
@[simp] def recordAeadAlgorithm : Nat := 4
@[simp] def recordCookie : Nat := 5
@[simp] def recordNtpv4ServerNegotiation : Nat := 6
@[simp] def recordNtpv4PortNegotiation : Nat := 7

/-! ## 16-bit words in network order -/

/-- The two bytes of `htons (v)`: the C value `v` converted to `uint16_t` (so taken
modulo 2^16), most significant byte first. -/
def htons (v : Int) : List UInt8 :=
  [UInt8.ofNat ((v % 65536).toNat / 256), UInt8.ofNat (v % 65536).toNat]

/-- `ntohs` of the two bytes `hi lo` read from the wire. -/
def ntohs (hi lo : UInt8) : Nat := hi.toNat * 256 + lo.toNat

@[simp] theorem length_htons (v : Int) : (htons v).length = 2 := rfl

theorem ntohs_lt (hi lo : UInt8) : ntohs hi lo < 0x10000 := by
  have := hi.toNat_lt_size
  have := lo.toNat_lt_size
  simp only [ntohs, UInt8.size] at *
  omega

theorem ntohs_ofNat {w : Nat} (hw : w < 0x10000) :
    ntohs (UInt8.ofNat (w / 256)) (UInt8.ofNat w) = w := by
  show (w / 256) % 256 * 256 + w % 256 = w
  omega

theorem htons_natCast_of_lt {w : Nat} (hw : w < 0x10000) :
    htons w = [UInt8.ofNat (w / 256), UInt8.ofNat w] := by
  have : ((w : Int) % 65536).toNat = w := by omega
  simp only [htons, this]

/-- Every pair of bytes is `htons` of its `ntohs`. -/
theorem htons_ntohs (hi lo : UInt8) : htons (ntohs hi lo) = [hi, lo] := by
  rw [htons_natCast_of_lt (ntohs_lt hi lo)]
  have h1 := hi.toNat_lt_size
  have h2 := lo.toNat_lt_size
  simp only [UInt8.size] at h1 h2
  congr 1
  · apply UInt8.toNat.inj
    show (ntohs hi lo / 256) % 256 = hi.toNat
    simp only [ntohs]; omega
  · congr 1
    apply UInt8.toNat.inj
    show ntohs hi lo % 256 = lo.toNat
    simp only [ntohs]; omega

/-- The word `ntohs` reads back from `htons (v)`: `v` as a `uint16_t`. -/
theorem ntohs_htons (v : Int) :
    ntohs ((htons v).getD 0 0) ((htons v).getD 1 0) = (v % 65536).toNat :=
  ntohs_ofNat (by omega)

/-! ### The type word `!!critical * RECORD_CRITICAL_BIT | type` -/

theorem typeWord_eq (critical : Bool) {type : Nat} (ht : type < 0x8000) :
    critical.toNat * recordCriticalBit ||| type = 0x8000 * critical.toNat + type := by
  rw [recordCriticalBit, Nat.mul_comm, show (0x8000 : Nat) = 2 ^ 15 by rfl,
    Nat.mul_add_lt_is_or ht]

theorem and_lowBits (w : Nat) : w &&& 0x7fff = w % 0x8000 :=
  Nat.and_pow_two_sub_one_eq_mod w 15

theorem and_criticalBit_ne_zero (w : Nat) : (w &&& 0x8000 ≠ 0) ↔ w.testBit 15 := by
  rw [Nat.land_comm, show (0x8000 : Nat) = 2 ^ 15 by rfl, Nat.two_pow_and]
  cases w.testBit 15 <;> simp

theorem testBit_typeWord (critical : Bool) {type : Nat} (ht : type < 0x8000) :
    (0x8000 * critical.toNat + type).testBit 15 = critical := by
  rw [show (0x8000 : Nat) = 2 ^ 15 by rfl, Nat.testBit_mul_pow_two_add _ ht]
  cases critical <;> rfl

theorem typeWord_split {w : Nat} (hw : w < 0x10000) :
    0x8000 * (w.testBit 15).toNat + w % 0x8000 = w := by
  rw [Nat.testBit_to_div_mod]
  rcases (show w / 32768 = 0 ∨ w / 32768 = 1 by omega) with h | h <;> simp [h] <;> omega

/-! ## The buffer -/

/-- `struct NKE_Message`.  `data` holds the valid bytes `data[0 .. length)` of the
C array. -/
structure NkeMessage where
  data : List UInt8
  sent : Nat
  eof : Bool
  parsed : Nat
deriving DecidableEq, Repr

/-- `message->length`. -/
def NkeMessage.length (m : NkeMessage) : Nat := m.data.length

/-- `reset_message`. -/
def resetMessage (_m : NkeMessage) : NkeMessage :=
  { data := [], sent := 0, eof := false, parsed := 0 }

/-- `reset_message_parsing`. -/
def resetMessageParsing (m : NkeMessage) : NkeMessage := { m with parsed := 0 }

@[simp] theorem resetMessage_data (m : NkeMessage) : (resetMessage m).data = [] := rfl
@[simp] theorem resetMessage_parsed (m : NkeMessage) : (resetMessage m).parsed = 0 := rfl
@[simp] theorem resetMessageParsing_data (m : NkeMessage) :
    (resetMessageParsing m).data = m.data := rfl
@[simp] theorem resetMessageParsing_parsed (m : NkeMessage) :
    (resetMessageParsing m).parsed = 0 := rfl
@[simp] theorem resetMessageParsing_eof (m : NkeMessage) :
    (resetMessageParsing m).eof = m.eof := rfl

/-! ## Records -/

/-- A record as `get_record` reports it: the critical flag, the 15-bit type and the
body. -/
structure NkeRecord where
  critical : Bool
  type : Nat
  body : List UInt8
deriving DecidableEq, Repr

/-- The critical End-of-Message record with an empty body, which ends every message
`prepare_request` and `prepare_response` build and which `check_message_format`
requires last. -/
def endOfMessage : NkeRecord := ⟨true, recordEndOfMessage, []⟩

/-- The bytes `add_record` appends for a record: the header, then the body. -/
def recordBytes (critical : Bool) (type : Nat) (body : List UInt8) : List UInt8 :=
  htons (critical.toNat * recordCriticalBit ||| type : Nat) ++ htons body.length ++ body

/-- The bytes of a record. -/
def NkeRecord.bytes (r : NkeRecord) : List UInt8 := recordBytes r.critical r.type r.body

/-- The bytes of a list of records, one after the other. -/
def encodeRecords (rs : List NkeRecord) : List UInt8 := rs.flatMap NkeRecord.bytes

/-- A record the wire format can carry: a 15-bit type and a body of at most
`0xffff` bytes. -/
def NkeRecord.Valid (r : NkeRecord) : Prop := r.type < 0x8000 ∧ r.body.length ≤ 0xffff

instance (r : NkeRecord) : Decidable r.Valid := inferInstanceAs (Decidable (_ ∧ _))

@[simp] theorem length_bytes (r : NkeRecord) : r.bytes.length = 4 + r.body.length := by
  simp [NkeRecord.bytes, recordBytes]; omega

@[simp] theorem encodeRecords_nil : encodeRecords [] = [] := rfl

@[simp] theorem encodeRecords_cons (r : NkeRecord) (rs : List NkeRecord) :
    encodeRecords (r :: rs) = r.bytes ++ encodeRecords rs := rfl

theorem encodeRecords_append (rs ss : List NkeRecord) :
    encodeRecords (rs ++ ss) = encodeRecords rs ++ encodeRecords ss := by
  simp [encodeRecords]

theorem length_encodeRecords (rs : List NkeRecord) :
    (encodeRecords rs).length = 4 * rs.length + (rs.map fun r => r.body.length).sum := by
  induction rs with
  | nil => rfl
  | cons r rs ih => simp only [encodeRecords_cons, List.length_append, length_bytes, ih,
      List.length_cons, List.map_cons, List.sum_cons]; omega

/-- The header and body of a valid record, as the bytes `get_record` reads. -/
theorem bytes_eq_of_valid {r : NkeRecord} (hr : r.Valid) :
    r.bytes = UInt8.ofNat ((0x8000 * r.critical.toNat + r.type) / 256) ::
      UInt8.ofNat (0x8000 * r.critical.toNat + r.type) ::
      UInt8.ofNat (r.body.length / 256) :: UInt8.ofNat r.body.length :: r.body := by
  obtain ⟨ht, hb⟩ := hr
  have hw : 0x8000 * r.critical.toNat + r.type < 0x10000 := by
    cases r.critical <;> simp <;> omega
  rw [NkeRecord.bytes, recordBytes, typeWord_eq _ ht, htons_natCast_of_lt hw,
    htons_natCast_of_lt (by omega : r.body.length < 0x10000)]
  rfl

/-! ## `add_record` -/

/-- `add_record`: append one record, or fail (`none`, the C `return 0`) without
touching the message when the body is too long or the buffer would overflow.
The C check `body_length < 0` cannot fail on a list. -/
def addRecord (m : NkeMessage) (critical : Bool) (type : Nat) (body : List UInt8) :
    Option NkeMessage :=
  if body.length > 0xffff ∨ m.length + 4 + body.length > maxMessageLength then none
  else some { m with data := m.data ++ recordBytes critical type body }

/-- A sequence of `if (!add_record (...)) return 0;` statements: the records are
appended in order until one does not fit; the flag is the C return value. -/
def addRecords (m : NkeMessage) : List NkeRecord → Bool × NkeMessage
  | [] => (true, m)
  | r :: rs =>
    match addRecord m r.critical r.type r.body with
    | none => (false, m)
    | some m' => addRecords m' rs

theorem addRecord_eq_none_iff (m : NkeMessage) (critical : Bool) (type : Nat)
    (body : List UInt8) :
    addRecord m critical type body = none ↔
      body.length > 0xffff ∨ m.length + 4 + body.length > maxMessageLength := by
  unfold addRecord
  split <;> simp_all

theorem addRecords_append (m : NkeMessage) (rs ss : List NkeRecord) :
    addRecords m (rs ++ ss) =
      if (addRecords m rs).1 then addRecords (addRecords m rs).2 ss else addRecords m rs := by
  induction rs generalizing m with
  | nil => rfl
  | cons r rs ih =>
    simp only [List.cons_append, addRecords]
    split
    · rfl
    · exact ih _

/-- Records that fit are all appended: the buffer grows by their encoding. -/
theorem addRecords_of_fit (m : NkeMessage) {rs : List NkeRecord} (hv : ∀ r ∈ rs, r.Valid)
    (hfit : m.length + (encodeRecords rs).length ≤ maxMessageLength) :
    addRecords m rs = (true, { m with data := m.data ++ encodeRecords rs }) := by
  induction rs generalizing m with
  | nil => simp [addRecords]
  | cons r rs ih =>
    have hr := hv r (List.mem_cons_self _ _)
    simp only [encodeRecords_cons, List.length_append, length_bytes, maxMessageLength,
      NkeMessage.length] at hfit
    have hadd : addRecord m r.critical r.type r.body =
        some { m with data := m.data ++ r.bytes } := by
      unfold addRecord
      rw [if_neg (by simp only [NkeMessage.length, maxMessageLength]; have := hr.2; omega)]
      rfl
    simp only [addRecords, hadd]
    rw [ih _ (fun s hs => hv s (List.mem_cons_of_mem _ hs))
      (by simp only [NkeMessage.length, List.length_append, length_bytes, maxMessageLength]
          omega)]
    simp

/-- What `addRecords` leaves, whether or not every record fits: the records it appended, a
prefix of those it was given, each with a body `add_record` accepted. -/
theorem addRecords_data (m : NkeMessage) (rs : List NkeRecord) :
    ∃ k, (addRecords m rs).2.data = m.data ++ encodeRecords (rs.take k) ∧
      ∀ r ∈ rs.take k, r.body.length ≤ 0xffff := by
  induction rs generalizing m with
  | nil => exact ⟨0, by simp [addRecords], by simp⟩
  | cons r rs ih =>
    simp only [addRecords]
    split
    · exact ⟨0, by simp, by simp⟩
    · rename_i m' hm'
      unfold addRecord at hm'
      split at hm' <;> rename_i hfit <;> cases hm'
      obtain ⟨k, hk, hb⟩ := ih { m with data := m.data ++ recordBytes r.critical r.type r.body }
      refine ⟨k + 1, by simp [hk, NkeRecord.bytes], ?_⟩
      simp only [List.take_succ_cons, List.mem_cons, forall_eq_or_imp]
      exact ⟨by omega, hb⟩

/-! ## `get_record` -/

/-- `get_record`: decode the record at `parsed` and move `parsed` past it, or fail
(`none`) when fewer than 4 bytes remain or the declared body does not fit in the
buffer.  The C copies the first `MIN (*body_length, blen)` body bytes into the
caller's buffer; here the whole body is returned and each caller takes its prefix. -/
def getRecord (m : NkeMessage) : Option (NkeRecord × NkeMessage) :=
  if m.length < m.parsed + 4 then none else
  match m.data.drop m.parsed with
  | t0 :: t1 :: l0 :: l1 :: rest =>
    if m.length < m.parsed + (4 + ntohs l0 l1) then none
    else some (⟨ntohs t0 t1 &&& 0x8000 ≠ 0, ntohs t0 t1 &&& 0x7fff, rest.take (ntohs l0 l1)⟩,
      { m with parsed := m.parsed + (4 + ntohs l0 l1) })
  | _ => none

/-- The bytes of the record `get_record` decodes from a header `t0 t1 l0 l1` are
that header followed by the body. -/
theorem recordBytes_decode (t0 t1 l0 l1 : UInt8) {body : List UInt8}
    (hb : body.length = ntohs l0 l1) :
    recordBytes (decide (ntohs t0 t1 &&& 0x8000 ≠ 0)) (ntohs t0 t1 &&& 0x7fff) body =
      t0 :: t1 :: l0 :: l1 :: body := by
  have hw := ntohs_lt t0 t1
  have hcrit : decide (ntohs t0 t1 &&& 0x8000 ≠ 0) = (ntohs t0 t1).testBit 15 :=
    Bool.eq_iff_iff.mpr (by simpa using and_criticalBit_ne_zero _)
  rw [recordBytes, typeWord_eq _ (by rw [and_lowBits]; omega), hcrit, and_lowBits,
    typeWord_split hw, hb, htons_ntohs, htons_ntohs]
  rfl

/-- What a successful `get_record` did: it read a valid record whose bytes sit at
`parsed`, and moved `parsed` past them. -/
theorem getRecord_eq_some {m m' : NkeMessage} {r : NkeRecord}
    (h : getRecord m = some (r, m')) :
    r.Valid ∧ m' = { m with parsed := m.parsed + r.bytes.length } ∧
      m.data.drop m.parsed = r.bytes ++ m.data.drop m'.parsed := by
  unfold getRecord at h
  split at h
  · cases h
  split at h
  · rename_i t0 t1 l0 l1 rest hdrop
    split at h
    · cases h
    cases h
    have hrest : rest.length = m.length - m.parsed - 4 := by
      have := congrArg List.length hdrop
      simp only [List.length_drop, List.length_cons] at this
      simp only [NkeMessage.length]; omega
    have hbl : (rest.take (ntohs l0 l1)).length = ntohs l0 l1 := by
      rw [List.length_take]; omega
    have hbytes : NkeRecord.bytes ⟨decide (ntohs t0 t1 &&& 0x8000 ≠ 0), ntohs t0 t1 &&& 0x7fff,
        rest.take (ntohs l0 l1)⟩ = t0 :: t1 :: l0 :: l1 :: rest.take (ntohs l0 l1) :=
      recordBytes_decode t0 t1 l0 l1 hbl
    have hw := ntohs_lt t0 t1
    have hl := ntohs_lt l0 l1
    refine ⟨⟨?_, ?_⟩, ?_, ?_⟩
    · show ntohs t0 t1 &&& 0x7fff < 0x8000
      rw [and_lowBits]; omega
    · show (rest.take (ntohs l0 l1)).length ≤ 0xffff
      omega
    · rw [hbytes]; simp [hbl]; omega
    · rw [hbytes, ← List.drop_drop, hdrop, Nat.add_comm]
      simp
  · cases h

/-- `get_record` reads a valid record back from its bytes. -/
theorem getRecord_of_bytes {m : NkeMessage} {r : NkeRecord} {post : List UInt8}
    (hr : r.Valid) (hdrop : m.data.drop m.parsed = r.bytes ++ post) :
    getRecord m = some (r, { m with parsed := m.parsed + r.bytes.length }) := by
  have hlen := congrArg List.length hdrop
  simp only [List.length_drop, List.length_append, length_bytes] at hlen
  have hw : 0x8000 * r.critical.toNat + r.type < 0x10000 := by
    have := hr.1
    cases r.critical <;> simp <;> omega
  have hb := hr.2
  unfold getRecord
  rw [if_neg (by simp only [NkeMessage.length]; omega)]
  simp only [hdrop, bytes_eq_of_valid hr, List.cons_append]
  rw [ntohs_ofNat (by omega), if_neg (by simp only [NkeMessage.length]; omega), ntohs_ofNat hw]
  have hcrit : decide (0x8000 * r.critical.toNat + r.type &&& 0x8000 ≠ 0) = r.critical :=
    Bool.eq_iff_iff.mpr (by rw [decide_eq_true_iff, and_criticalBit_ne_zero,
      testBit_typeWord _ hr.1])
  have htype : 0x8000 * r.critical.toNat + r.type &&& 0x7fff = r.type := by
    rw [and_lowBits]; have := hr.1; omega
  simp [hcrit, htype]
  omega

/-- A successful `get_record` moves `parsed` forward and stays inside the buffer. -/
theorem getRecord_progress {m m' : NkeMessage} {r : NkeRecord}
    (h : getRecord m = some (r, m')) :
    m'.length = m.length ∧ m.parsed < m'.parsed ∧ m'.parsed ≤ m.length := by
  obtain ⟨-, rfl, hdrop⟩ := getRecord_eq_some h
  have := congrArg List.length hdrop
  simp only [List.length_drop, List.length_append, length_bytes, NkeMessage.length] at this ⊢
  exact ⟨trivial, by omega, by omega⟩

/-! ## Loops over the records of a message -/

/-- `while (!stop (s) && get_record (message, ...)) s = step (s, record);`: the loops
of `check_message_format`, `process_request` and `process_response`.  The loop ends
when `stop` holds before a call or when `get_record` fails. -/
def recordLoop {σ : Type} (stop : σ → Bool) (step : σ → NkeRecord → σ) (s : σ)
    (m : NkeMessage) : σ × NkeMessage :=
  if stop s then (s, m) else
  match _hr : getRecord m with
  | none => (s, m)
  | some (r, m') => recordLoop stop step (step s r) m'
termination_by m.length - m.parsed
decreasing_by have := getRecord_progress _hr; omega

/-- The records that repeated `get_record` calls return, and the message after the
first call that fails. -/
def getRecords (m : NkeMessage) : List NkeRecord × NkeMessage :=
  match _hr : getRecord m with
  | none => ([], m)
  | some (r, m') => (r :: (getRecords m').1, (getRecords m').2)
termination_by m.length - m.parsed
decreasing_by have := getRecord_progress _hr; omega

/-- A left fold that stops as soon as `stop` holds of the accumulator. -/
def foldUntil {σ α : Type} (stop : σ → Bool) (step : σ → α → σ) : σ → List α → σ
  | s, [] => s
  | s, a :: as => if stop s then s else foldUntil stop step (step s a) as

@[simp] theorem foldUntil_nil {σ α : Type} (stop : σ → Bool) (step : σ → α → σ) (s : σ) :
    foldUntil stop step s [] = s := rfl

theorem foldUntil_cons {σ α : Type} (stop : σ → Bool) (step : σ → α → σ) (s : σ) (a : α)
    (as : List α) :
    foldUntil stop step s (a :: as) = if stop s then s else foldUntil stop step (step s a) as :=
  rfl

theorem foldUntil_of_stop {σ α : Type} {stop : σ → Bool} (step : σ → α → σ) {s : σ}
    (hs : stop s) (as : List α) : foldUntil stop step s as = s := by
  cases as <;> simp [foldUntil, hs]

theorem foldUntil_append {σ α : Type} (stop : σ → Bool) (step : σ → α → σ) (s : σ)
    (as bs : List α) :
    foldUntil stop step s (as ++ bs) = foldUntil stop step (foldUntil stop step s as) bs := by
  induction as generalizing s with
  | nil => rfl
  | cons a as ih =>
    by_cases hs : stop s
    · rw [List.cons_append, foldUntil_cons, if_pos hs, foldUntil_of_stop step hs,
        foldUntil_of_stop step hs]
    · rw [List.cons_append, foldUntil_cons, if_neg hs, foldUntil_cons, if_neg hs, ih]

theorem getRecords_of_none {m : NkeMessage} (h : getRecord m = none) : getRecords m = ([], m) := by
  rw [getRecords]; split <;> simp_all

theorem getRecords_of_some {m m' : NkeMessage} {r : NkeRecord} (h : getRecord m = some (r, m')) :
    getRecords m = (r :: (getRecords m').1, (getRecords m').2) := by
  rw [getRecords]; split <;> simp_all

/-- The loop computes a fold over the records `get_record` returns. -/
theorem recordLoop_fst {σ : Type} (stop : σ → Bool) (step : σ → NkeRecord → σ) (s : σ)
    (m : NkeMessage) :
    (recordLoop stop step s m).1 = foldUntil stop step s (getRecords m).1 := by
  induction s, m using recordLoop.induct stop step with
  | case1 s m hs => rw [recordLoop, if_pos hs]; cases (getRecords m).1 <;> simp [foldUntil, hs]
  | case2 s m hs hr => rw [recordLoop, if_neg hs, getRecords_of_none hr]; split <;> simp_all
  | case3 s m hs r m' hr ih =>
    rw [recordLoop, if_neg hs, getRecords_of_some hr, foldUntil_cons, if_neg hs, ← ih]
    split <;> simp_all

/-- Without an exit test the loop ends where `getRecords` does. -/
theorem recordLoop_snd {σ : Type} (step : σ → NkeRecord → σ) (s : σ) (m : NkeMessage) :
    (recordLoop (fun _ => false) step s m).2 = (getRecords m).2 := by
  induction s, m using recordLoop.induct (fun _ => false) step with
  | case1 s m hs => cases hs
  | case2 s m hs hr => rw [recordLoop, if_neg hs, getRecords_of_none hr]; split <;> simp_all
  | case3 s m hs r m' hr ih =>
    rw [recordLoop, if_neg hs, getRecords_of_some hr, ← ih]
    split <;> simp_all

/-! ## `check_message_format` -/

/-- `NtsKeMsgFormat`. -/
inductive NtsKeMsgFormat
  | incomplete
  | error
  | ok
deriving DecidableEq, Repr

/-- The verdict of `check_message_format` once its loop has stopped, from the last
record read and the message.  When the buffer is nonempty and parsed to its end a
record was read, so the `none` case is unreachable (the C reads uninitialised
variables there). -/
def msgFormat (last : Option NkeRecord) (m : NkeMessage) : NtsKeMsgFormat :=
  if m.length = 0 ∨ m.parsed < m.length then (if m.eof then .error else .incomplete)
  else match last with
    | some r =>
      if !r.critical ∨ r.type ≠ recordEndOfMessage ∨ r.body.length ≠ 0 then .error else .ok
    | none => .error

/-- `check_message_format`: parse every record from the start, then judge.  It
leaves `parsed` where `get_record` failed. -/
def checkMessageFormat (m : NkeMessage) : NtsKeMsgFormat × NkeMessage :=
  let loop := recordLoop (fun _ => false) (fun _ r => some r) none (resetMessageParsing m)
  (msgFormat loop.1 loop.2, loop.2)

end ChronyNts.KeyExchange
