import ChronyNts.KeyExchange.Message

/-!
# What the record layer accepts

The decoder `get_record` is the inverse of the encoder `add_record` on valid
records (`getRecord_of_bytes`, `getRecord_eq_some`), so repeated `get_record`
calls split a buffer into the unique list of records it encodes, followed by a
tail on which `get_record` fails (`getRecords_spec`, `getRecords_of_encode`).
Everything about framing follows from these two facts:

* `record_round_trip`: encoding then decoding gives the records back, and every
  buffer that decodes completely re-encodes to itself;
* `checkMessageFormat_ok_iff`: `check_message_format` accepts exactly the buffers
  that split into valid records ending with a critical, empty End-of-Message.
  Nothing stops an End-of-Message record from appearing earlier
  (`checkMessageFormat_accepts_early_end`);
* `checkMessageFormat_prefix_incomplete`: a prefix of an accepted message that
  ends inside a record is `MSG_INCOMPLETE`.  A prefix that ends between two
  records is judged by its last record like a complete message, so it is
  `MSG_ERROR` unless that record is an End-of-Message
  (`checkMessageFormat_prefix_at_boundary`).
-/

namespace ChronyNts.KeyExchange

/-- The bytes `data` split exactly into the valid records `rs`. -/
def EncodesRecords (data : List UInt8) (rs : List NkeRecord) : Prop :=
  (∀ r ∈ rs, r.Valid) ∧ encodeRecords rs = data

/-! ## Repeated `get_record` -/

/-- Repeated `get_record` reads valid records lying back to back from `parsed`
and stops on a tail where `get_record` fails. -/
theorem getRecords_spec (m : NkeMessage) :
    (∀ r ∈ (getRecords m).1, r.Valid) ∧
      (getRecords m).2 = { m with parsed := m.parsed + (encodeRecords (getRecords m).1).length } ∧
      m.data.drop m.parsed =
        encodeRecords (getRecords m).1 ++ m.data.drop (getRecords m).2.parsed ∧
      getRecord (getRecords m).2 = none := by
  induction m using getRecords.induct with
  | case1 m hr => simp [getRecords_of_none hr, hr]
  | case2 m r m' hr ih =>
    obtain ⟨hv, rfl, hdrop⟩ := getRecord_eq_some hr
    obtain ⟨ihv, ihm, ihdrop, ihnone⟩ := ih
    rw [getRecords_of_some hr]
    refine ⟨?_, ?_, ?_, ihnone⟩
    · simpa [hv] using ihv
    · rw [ihm]; simp [Nat.add_assoc]
    · rw [hdrop, ihdrop]; simp

/-- Records lying back to back from `parsed`, followed by a tail where `get_record`
fails, are exactly what repeated `get_record` returns. -/
theorem getRecords_of_encode {m : NkeMessage} {rs : List NkeRecord} {tail : List UInt8}
    (hv : ∀ r ∈ rs, r.Valid) (hdrop : m.data.drop m.parsed = encodeRecords rs ++ tail)
    (hstop : getRecord { m with parsed := m.parsed + (encodeRecords rs).length } = none) :
    getRecords m = (rs, { m with parsed := m.parsed + (encodeRecords rs).length }) := by
  induction rs generalizing m with
  | nil => simpa [getRecords_of_none hstop] using getRecords_of_none hstop
  | cons r rs ih =>
    have hr := getRecord_of_bytes (hv r (List.mem_cons_self _ _))
      (by rw [hdrop, encodeRecords_cons, List.append_assoc])
    rw [getRecords_of_some hr, ih (fun s hs => hv s (List.mem_cons_of_mem _ hs))]
    · simp [Nat.add_assoc]
    · simp only
      rw [← List.drop_drop, hdrop, encodeRecords_cons, List.append_assoc, List.drop_left]
    · simpa [Nat.add_assoc] using hstop

/-- `get_record` fails at the end of the buffer. -/
theorem getRecord_at_end (m : NkeMessage) : getRecord { m with parsed := m.length } = none := by
  unfold getRecord
  rw [if_pos (by simp [NkeMessage.length])]

/-- A buffer holding exactly the bytes of valid records from `parsed` on decodes to
them and is then consumed completely. -/
theorem getRecords_of_encode_all {m : NkeMessage} {rs : List NkeRecord}
    (hv : ∀ r ∈ rs, r.Valid) (hdrop : m.data.drop m.parsed = encodeRecords rs) :
    getRecords m = (rs, { m with parsed := m.parsed + (encodeRecords rs).length }) := by
  refine getRecords_of_encode hv (by rw [hdrop, List.append_nil]) ?_
  have := congrArg List.length hdrop
  simp only [List.length_drop] at this
  unfold getRecord
  rw [if_pos (by simp only [NkeMessage.length]; omega)]

/-- `get_record` fails on a nonempty proper prefix of a valid record's bytes: the
header is cut, or the body it announces is. -/
theorem getRecord_of_cut {m : NkeMessage} {r : NkeRecord} {n : Nat} (hr : r.Valid)
    (hn : n < r.bytes.length) (hdrop : m.data.drop m.parsed = r.bytes.take n) :
    getRecord m = none := by
  have hlen := congrArg List.length hdrop
  simp only [List.length_drop, List.length_take, length_bytes] at hlen hn
  unfold getRecord
  split
  · rfl
  obtain ⟨k, rfl⟩ : ∃ k, n = k + 4 := ⟨n - 4, by simp only [NkeMessage.length] at *; omega⟩
  have hb := hr.2
  simp only [hdrop, bytes_eq_of_valid hr, List.take_succ_cons]
  rw [ntohs_ofNat (by omega), if_pos (by simp only [NkeMessage.length] at *; omega)]

/-- Two lists of valid records with the same bytes are equal: a buffer encodes at
most one record list. -/
theorem encodesRecords_unique {data : List UInt8} {rs ss : List NkeRecord}
    (hrs : EncodesRecords data rs) (hss : EncodesRecords data ss) : rs = ss := by
  have key : ∀ {ts : List NkeRecord}, EncodesRecords data ts →
      getRecords ⟨data, 0, false, 0⟩ = (ts, ⟨data, 0, false, (encodeRecords ts).length⟩) := by
    intro ts ⟨hv, henc⟩
    simpa using getRecords_of_encode_all (m := ⟨data, 0, false, 0⟩) hv (by simp [henc])
  have h := (key hrs).symm.trans (key hss)
  simp only [Prod.mk.injEq] at h
  exact h.1

/-! ## `check_message_format` -/

theorem foldUntil_false {σ α : Type} (step : σ → α → σ) (s : σ) (as : List α) :
    foldUntil (fun _ => false) step s as = as.foldl step s := by
  induction as generalizing s with
  | nil => rfl
  | cons a as ih => exact ih _

theorem foldl_keep_last (rs : List NkeRecord) (o : Option NkeRecord) :
    rs.foldl (fun _ r => some r) o = rs.getLast?.or o := by
  induction rs generalizing o with
  | nil => rfl
  | cons r rs ih =>
    rw [List.foldl_cons, ih]
    cases rs with
    | nil => rfl
    | cons a t => simp [List.getLast?_eq_getLast (a :: t) (List.cons_ne_nil a t)]

/-- `check_message_format` judges the last record `get_record` returns from the
start of the buffer, and where the decoding stopped. -/
theorem checkMessageFormat_eq (m : NkeMessage) :
    checkMessageFormat m =
      (msgFormat (getRecords (resetMessageParsing m)).1.getLast?
        (getRecords (resetMessageParsing m)).2, (getRecords (resetMessageParsing m)).2) := by
  simp [checkMessageFormat, recordLoop_fst, recordLoop_snd, foldUntil_false, foldl_keep_last]

/-- `check_message_format` only moves `parsed`. -/
@[simp] theorem checkMessageFormat_data (m : NkeMessage) :
    (checkMessageFormat m).2.data = m.data := by
  rw [checkMessageFormat_eq, (getRecords_spec _).2.1]
  rfl

theorem msgFormat_eq_ok_iff (last : Option NkeRecord) (m : NkeMessage) :
    msgFormat last m = .ok ↔ m.length ≠ 0 ∧ m.length ≤ m.parsed ∧ last = some endOfMessage := by
  unfold msgFormat
  split
  · rename_i h; split <;> simp only [reduceCtorEq, false_iff] <;> omega
  · rename_i h
    rcases last with _ | ⟨critical, type, body⟩
    · simp
    · simp only [endOfMessage, Option.some.injEq, NkeRecord.mk.injEq, recordEndOfMessage]
      by_cases hc : critical <;> by_cases ht : type = 0 <;> by_cases hb : body = [] <;>
        simp [hc, ht, hb]
      omega

/-- On a buffer holding a list of valid records, `check_message_format` decodes all of
them and judges the last. -/
theorem checkMessageFormat_encodes {m : NkeMessage} {rs : List NkeRecord}
    (hrs : EncodesRecords m.data rs) :
    checkMessageFormat m =
      (msgFormat rs.getLast? { m with parsed := m.length }, { m with parsed := m.length }) := by
  obtain ⟨hv, henc⟩ := hrs
  have hget : getRecords (resetMessageParsing m) =
      (rs, { resetMessageParsing m with parsed := m.length }) := by
    simpa [henc, NkeMessage.length] using
      getRecords_of_encode_all (m := resetMessageParsing m) hv (by simp [henc])
  rw [checkMessageFormat_eq, hget]
  rfl

/-- A buffer holding a nonempty list of valid records is judged by its last
record: accepted when it is the critical, empty End-of-Message, rejected otherwise,
whatever `eof` says. -/
theorem checkMessageFormat_of_encodes {m : NkeMessage} {rs : List NkeRecord}
    (hrs : EncodesRecords m.data rs) (hne : rs ≠ []) :
    (checkMessageFormat m).1 = if rs.getLast? = some endOfMessage then .ok else .error := by
  have hlen : m.length ≠ 0 := by
    obtain ⟨r, rs', rfl⟩ := List.exists_cons_of_ne_nil hne
    simp [NkeMessage.length, ← hrs.2]
  rw [checkMessageFormat_encodes hrs]
  simp only [msgFormat]
  rw [if_neg (by simpa [NkeMessage.length] using hlen)]
  rcases hlast : rs.getLast? with _ | r
  · simp_all
  · simp only [Option.some.injEq]
    split <;> rename_i h
    · rw [if_neg]; rintro rfl; simp [endOfMessage] at h
    · rw [if_pos]; cases r; simp_all [endOfMessage, List.length_eq_zero]

/-- `check_message_format` accepts exactly the buffers that split into valid records
ending with the critical, empty End-of-Message. -/
theorem checkMessageFormat_ok_iff (m : NkeMessage) :
    (checkMessageFormat m).1 = .ok ↔
      ∃ rs, EncodesRecords m.data rs ∧ rs.getLast? = some endOfMessage := by
  constructor
  · intro hok
    rw [checkMessageFormat_eq, msgFormat_eq_ok_iff] at hok
    obtain ⟨hlen, hparsed, hlast⟩ := hok
    obtain ⟨hv, hm, hdrop, -⟩ := getRecords_spec (resetMessageParsing m)
    refine ⟨_, ⟨hv, ?_⟩, hlast⟩
    rw [hm] at hparsed
    simp only [resetMessageParsing_data, resetMessageParsing_parsed, List.drop_zero] at hdrop
    rw [hdrop, hm, List.drop_eq_nil_of_le (by simpa [NkeMessage.length] using hparsed)]
    simp
  · rintro ⟨rs, hrs, hlast⟩
    rw [checkMessageFormat_of_encodes hrs (by rintro rfl; simp at hlast), if_pos hlast]

/-- An End-of-Message record before the last one does not stop a buffer from being
accepted: the validator only looks at the last record. -/
theorem checkMessageFormat_accepts_early_end :
    (checkMessageFormat ⟨encodeRecords [endOfMessage, endOfMessage], 0, false, 0⟩).1 = .ok ∧
      ∀ rs, EncodesRecords (encodeRecords [endOfMessage, endOfMessage]) rs →
        ∃ r ∈ rs.dropLast, r.type = recordEndOfMessage := by
  have hv : EncodesRecords (encodeRecords [endOfMessage, endOfMessage])
      [endOfMessage, endOfMessage] := ⟨by decide, rfl⟩
  refine ⟨(checkMessageFormat_ok_iff _).2 ⟨_, hv, rfl⟩, fun rs hrs => ?_⟩
  rw [encodesRecords_unique hrs hv]
  exact ⟨endOfMessage, by simp, rfl⟩

/-! ## Prefixes of a message -/

/-- `n` is no boundary between the records `rs`: it ends strictly inside one. -/
def CutsRecord (rs : List NkeRecord) (n : Nat) : Prop :=
  ∀ k, (encodeRecords (rs.take k)).length ≠ n

/-- Decoding a prefix that ends inside a record stops before the prefix's end. -/
theorem getRecords_parsed_lt_of_cut {rs : List NkeRecord} (hv : ∀ r ∈ rs, r.Valid) {n : Nat}
    (hn : n < (encodeRecords rs).length) (hcut : CutsRecord rs n) {m : NkeMessage}
    (hdrop : m.data.drop m.parsed = (encodeRecords rs).take n) :
    (getRecords m).2.parsed < m.parsed + n := by
  induction rs generalizing n m with
  | nil => simp at hn
  | cons r rs ih =>
    have hr := hv r (List.mem_cons_self _ _)
    have hn' : n < r.bytes.length + (encodeRecords rs).length := by
      rw [encodeRecords_cons, List.length_append] at hn; exact hn
    rw [encodeRecords_cons, List.take_append_eq_append_take] at hdrop
    by_cases hin : n < r.bytes.length
    · have hpos : n ≠ 0 := fun h => hcut 0 (by simp [h])
      rw [Nat.sub_eq_zero_of_le hin.le, List.take_zero, List.append_nil] at hdrop
      rw [getRecords_of_none (getRecord_of_cut hr hin hdrop)]
      show m.parsed < m.parsed + n
      omega
    · rw [List.take_of_length_le (by omega)] at hdrop
      have hget := getRecord_of_bytes hr hdrop
      rw [getRecords_of_some hget]
      have hcut' : CutsRecord rs (n - r.bytes.length) := by
        intro k hk
        apply hcut (k + 1)
        rw [List.take_succ_cons, encodeRecords_cons, List.length_append, hk]
        omega
      have hdrop' : List.drop (m.parsed + r.bytes.length) m.data =
          (encodeRecords rs).take (n - r.bytes.length) := by
        rw [← List.drop_drop, hdrop, List.drop_left]
      have := ih (fun s hs => hv s (List.mem_cons_of_mem _ hs)) (by omega) hcut'
        (m := { m with parsed := m.parsed + r.bytes.length }) hdrop'
      simp only at this ⊢
      omega

/-- A prefix of a message of records that ends inside one of the records is
`MSG_INCOMPLETE` while the peer has not closed, and so is the empty prefix.  Every
accepted message is such a message (`checkMessageFormat_ok_iff`). -/
theorem checkMessageFormat_prefix_incomplete {M : NkeMessage} {rs : List NkeRecord}
    (hrs : EncodesRecords M.data rs) {n : Nat}
    (hn : n < M.length) (hcut : n = 0 ∨ CutsRecord rs n) (sent parsed : Nat) :
    (checkMessageFormat ⟨M.data.take n, sent, false, parsed⟩).1 = .incomplete := by
  set P : NkeMessage := ⟨M.data.take n, sent, false, parsed⟩
  have hPlen : P.data.length = n := by simp [P, NkeMessage.length] at hn ⊢; omega
  obtain ⟨-, hm, -, -⟩ := getRecords_spec (resetMessageParsing P)
  rw [checkMessageFormat_eq, hm, msgFormat.eq_def, if_pos]
  · rfl
  simp only [NkeMessage.length, resetMessageParsing_data, resetMessageParsing_parsed, hPlen,
    Nat.zero_add]
  rcases hcut with rfl | hcut
  · exact .inl rfl
  · have := getRecords_parsed_lt_of_cut hrs.1 (by rw [hrs.2]; exact hn) hcut
      (m := resetMessageParsing P) (by simp [P, ← hrs.2])
    rw [hm] at this
    exact .inr (by simpa using this)

-- Cutting `{critical Next-Protocol [0, 0]} {End-of-Message}` after 3 bytes, inside the
-- first header, leaves it incomplete.
example : (checkMessageFormat ⟨(encodeRecords [⟨true, recordNextProtocol, [0, 0]⟩,
    endOfMessage]).take 3, 0, false, 0⟩).1 = .incomplete := by
  have hcut : CutsRecord [⟨true, recordNextProtocol, [0, 0]⟩, endOfMessage] 3 := by
    rintro (_ | _ | k) <;> simp [endOfMessage]
  exact checkMessageFormat_prefix_incomplete (M := ⟨_, 0, false, 0⟩) ⟨by decide, rfl⟩ (by decide)
    (.inr hcut) 0 0

/-- A prefix of an accepted message that ends between two records is judged like a
complete message: by its last record, whatever `eof` says. -/
theorem checkMessageFormat_prefix_at_boundary {M : NkeMessage} {rs : List NkeRecord}
    (hrs : EncodesRecords M.data rs) {k : Nat} (hk : 0 < k) (hkl : k ≤ rs.length)
    (sent parsed : Nat) (eof : Bool) :
    (checkMessageFormat ⟨M.data.take (encodeRecords (rs.take k)).length, sent, eof, parsed⟩).1 =
      if (rs.take k).getLast? = some endOfMessage then .ok else .error := by
  apply checkMessageFormat_of_encodes
  · refine ⟨fun r hr => hrs.1 r (List.mem_of_mem_take hr), ?_⟩
    have := List.take_left (encodeRecords (rs.take k)) (encodeRecords (rs.drop k))
    rw [← encodeRecords_append, List.take_append_drop, hrs.2] at this
    exact this.symm
  · exact List.ne_nil_of_length_pos (by simp; omega)

/-- The message `{critical Next-Protocol [0, 0]} {End-of-Message}` is accepted, but its
first 6 bytes, the Next-Protocol record alone, are `MSG_ERROR` with `eof = 0`: a peer
whose data arrives split after a record gets its connection closed. -/
theorem checkMessageFormat_rejects_boundary_prefix :
    (checkMessageFormat ⟨encodeRecords [⟨true, recordNextProtocol, [0, 0]⟩, endOfMessage],
        0, false, 0⟩).1 = .ok ∧
      6 < (encodeRecords [⟨true, recordNextProtocol, [0, 0]⟩, endOfMessage]).length ∧
      (checkMessageFormat ⟨(encodeRecords [⟨true, recordNextProtocol, [0, 0]⟩,
        endOfMessage]).take 6, 0, false, 0⟩).1 = .error := by
  have hv : EncodesRecords (encodeRecords [⟨true, recordNextProtocol, [0, 0]⟩, endOfMessage])
      [⟨true, recordNextProtocol, [0, 0]⟩, endOfMessage] := ⟨by decide, rfl⟩
  refine ⟨(checkMessageFormat_ok_iff _).2 ⟨_, hv, rfl⟩, by decide, ?_⟩
  have := checkMessageFormat_prefix_at_boundary (M := ⟨_, 0, false, 0⟩) hv (k := 1)
    (by decide) (by decide) 0 0 false
  exact this

/-! ## A message read off a stream -/

/-- `data` is a message `check_message_format` accepts: valid records, the last of them
the critical, empty End-of-Message. -/
def CompleteMessage (data : List UInt8) : Prop :=
  ∃ rs, EncodesRecords data rs ∧ rs.getLast? = some endOfMessage

theorem completeMessage_of_checkMessageFormat {m : NkeMessage}
    (h : (checkMessageFormat m).1 = .ok) : CompleteMessage m.data := by
  rw [checkMessageFormat_eq, msgFormat_eq_ok_iff] at h
  obtain ⟨-, hparsed, hlast⟩ := h
  obtain ⟨hv, hm, hdrop, -⟩ := getRecords_spec (resetMessageParsing m)
  refine ⟨_, ⟨hv, ?_⟩, hlast⟩
  rw [hm] at hparsed
  simp only [resetMessageParsing_data, resetMessageParsing_parsed, List.drop_zero] at hdrop
  rw [hdrop, hm, List.drop_eq_nil_of_le (by simpa [NkeMessage.length] using hparsed)]
  simp

theorem CompleteMessage.ne_nil {data : List UInt8} (h : CompleteMessage data) : data ≠ [] := by
  obtain ⟨rs, ⟨-, rfl⟩, hlast⟩ := h
  obtain ⟨ys, rfl⟩ := List.getLast?_eq_some_iff.mp hlast
  exact List.ne_nil_of_length_pos (by simp [encodeRecords_append])

/-- Records are read off a stream one header at a time: when the bytes of valid records
`ps` begin those of valid records `rs`, the records `ps` begin `rs`. -/
theorem records_prefix_of_bytes {ps rs : List NkeRecord} (hps : ∀ p ∈ ps, p.Valid)
    (hrs : ∀ r ∈ rs, r.Valid) (h : encodeRecords ps <+: encodeRecords rs) : ps <+: rs := by
  induction ps generalizing rs with
  | nil => exact List.nil_prefix
  | cons p ps ih =>
    obtain ⟨t, ht⟩ := h
    cases rs with
    | nil => simpa using congrArg List.length ht
    | cons r rs =>
      have hp := @getRecord_of_bytes ⟨encodeRecords (r :: rs), 0, false, 0⟩ p
        (encodeRecords ps ++ t) (hps p (List.mem_cons_self _ _)) (by simp [← ht, List.append_assoc])
      rw [@getRecord_of_bytes ⟨encodeRecords (r :: rs), 0, false, 0⟩ r (encodeRecords rs)
        (hrs r (List.mem_cons_self _ _)) rfl] at hp
      obtain rfl : r = p := (by simpa using hp : r = p ∧ _).1
      rw [List.prefix_cons_inj]
      exact ih (fun q hq => hps q (List.mem_cons_of_mem _ hq))
        (fun q hq => hrs q (List.mem_cons_of_mem _ hq))
        ⟨t, by simpa [List.append_assoc] using ht⟩

/-- A complete message read from the start of the bytes of valid records `rs`, which begin
a list `full` with End-of-Message only last, is all of `full`. -/
theorem completeMessage_prefix_eq {P : List UInt8} (hP : CompleteMessage P)
    {rs full : List NkeRecord} (hv : ∀ r ∈ rs, r.Valid) (hrs : rs <+: full)
    (hend : endOfMessage ∉ full.dropLast) (hpre : P <+: encodeRecords rs) :
    rs = full ∧ P = encodeRecords full := by
  obtain ⟨ps, ⟨hpv, rfl⟩, hlast⟩ := hP
  have hps := records_prefix_of_bytes hpv hv hpre
  have hlen : full.length ≤ ps.length := by
    by_contra hlt
    obtain ⟨ys, rfl⟩ := List.getLast?_eq_some_iff.mp hlast
    have hdrop := List.dropLast_prefix full
    exact hend ((List.prefix_of_prefix_length_le (hps.trans hrs) hdrop
      (by simp only [List.length_dropLast]; omega)).mem (by simp))
  obtain rfl := (hps.trans hrs).eq_of_length (le_antisymm (hps.trans hrs).length_le hlen)
  exact ⟨hrs.eq_of_length (le_antisymm hrs.length_le hps.length_le), rfl⟩

/-! ## Round trip -/

/-- Valid records that fit, appended to a reset message, are read back in order, after
which `get_record` fails at the end of the buffer. -/
theorem addRecords_getRecords (m : NkeMessage) {rs : List NkeRecord}
    (hv : ∀ r ∈ rs, r.Valid) (hfit : (encodeRecords rs).length ≤ maxMessageLength) :
    ∃ m', addRecords (resetMessage m) rs = (true, m') ∧ m'.data = encodeRecords rs ∧
      getRecords (resetMessageParsing m') = (rs, { m' with parsed := m'.length }) ∧
      getRecord { m' with parsed := m'.length } = none := by
  have hadd : addRecords (resetMessage m) rs = (true, ⟨encodeRecords rs, 0, false, 0⟩) := by
    rw [addRecords_of_fit _ hv (by simpa [NkeMessage.length] using hfit)]; rfl
  refine ⟨_, hadd, rfl, ?_, getRecord_at_end _⟩
  simpa [NkeMessage.length, resetMessageParsing] using
    getRecords_of_encode_all (m := ⟨encodeRecords rs, 0, false, 0⟩) hv (by simp)

/-- A buffer that repeated `get_record` consumes completely is re-encoded byte for byte
by `add_record` on the records it returned. -/
theorem getRecords_addRecords {m : NkeMessage} (m₀ : NkeMessage)
    (hcap : m.length ≤ maxMessageLength)
    (hall : (getRecords (resetMessageParsing m)).2.parsed = m.length) :
    ∃ m', addRecords (resetMessage m₀) (getRecords (resetMessageParsing m)).1 = (true, m') ∧
      m'.data = m.data := by
  obtain ⟨hv, hm, hdrop, -⟩ := getRecords_spec (resetMessageParsing m)
  have henc : encodeRecords (getRecords (resetMessageParsing m)).1 = m.data := by
    rw [hall] at hdrop
    simpa [List.drop_eq_nil_of_le (le_of_eq rfl : m.data.length ≤ m.length)] using hdrop.symm
  refine ⟨_, addRecords_of_fit _ hv ?_, by simp [henc]⟩
  simpa [NkeMessage.length, henc] using hcap

/-- The record codec round-trips: valid records that fit in the buffer are appended
by `add_record` and read back unchanged by repeated `get_record`, which then stops
at the end of the buffer; every buffer that `get_record` consumes completely is
re-encoded byte for byte; and a record that does not fit makes `add_record` fail
with the message left as it was. -/
theorem record_round_trip :
    (∀ (m : NkeMessage) (rs : List NkeRecord), (∀ r ∈ rs, r.Valid) →
      4 * rs.length + (rs.map fun r => r.body.length).sum ≤ maxMessageLength →
      ∃ m', addRecords (resetMessage m) rs = (true, m') ∧ m'.data = encodeRecords rs ∧
        getRecords (resetMessageParsing m') = (rs, { m' with parsed := m'.length }) ∧
        getRecord { m' with parsed := m'.length } = none) ∧
    (∀ m m₀ : NkeMessage, m.length ≤ maxMessageLength →
      (getRecords (resetMessageParsing m)).2.parsed = m.length →
      ∃ m', addRecords (resetMessage m₀) (getRecords (resetMessageParsing m)).1 = (true, m') ∧
        m'.data = m.data) ∧
    (∀ (m : NkeMessage) (r : NkeRecord) (rs : List NkeRecord),
      r.body.length > 0xffff ∨ m.length + 4 + r.body.length > maxMessageLength →
      addRecord m r.critical r.type r.body = none ∧ addRecords m (r :: rs) = (false, m)) := by
  refine ⟨fun m rs hv hfit => addRecords_getRecords m hv ?_,
    fun m m₀ hcap hall => getRecords_addRecords m₀ hcap hall, fun m r rs hno => ?_⟩
  · rwa [length_encodeRecords]
  · have hnone := (addRecord_eq_none_iff m r.critical r.type r.body).2 hno
    exact ⟨hnone, by simp [addRecords, hnone]⟩

/-- The round trip on the three records of a request, Next-Protocol `[0, 0]`,
AEAD-Algorithm `[0, 15]` and End-of-Message, both ways. -/
theorem record_round_trip_request :
    let rs : List NkeRecord :=
      [⟨true, recordNextProtocol, [0, 0]⟩, ⟨true, recordAeadAlgorithm, [0, 15]⟩, endOfMessage]
    (∃ m', addRecords (resetMessage ⟨[], 0, false, 0⟩) rs = (true, m') ∧
      m'.data = encodeRecords rs ∧
      getRecords (resetMessageParsing m') = (rs, { m' with parsed := m'.length }) ∧
      getRecord { m' with parsed := m'.length } = none) ∧
    (∃ m', addRecords (resetMessage ⟨[], 0, false, 0⟩)
        (getRecords (resetMessageParsing ⟨encodeRecords rs, 0, false, 0⟩)).1 = (true, m') ∧
      m'.data = encodeRecords rs) := by
  intro rs
  have hv : ∀ r ∈ rs, r.Valid := by decide
  have hall : (getRecords (resetMessageParsing ⟨encodeRecords rs, 0, false, 0⟩)).2.parsed =
      (encodeRecords rs).length := by
    rw [getRecords_of_encode_all (m := resetMessageParsing ⟨encodeRecords rs, 0, false, 0⟩) hv rfl]
    rfl
  exact ⟨record_round_trip.1 _ rs hv (by decide),
    record_round_trip.2.1 ⟨encodeRecords rs, 0, false, 0⟩ _ (by decide) hall⟩

end ChronyNts.KeyExchange
