import Mathlib.Data.List.ReduceOption
import ChronyNts.KeyExchange.Lifecycle

/-!
# The pool of server instances

The server keeps its instances in `server_instances`, an array of `MAX_SERVER_INSTANCES`
pointers.  `accept_connection` takes the first empty slot, where it allocates a new
instance with `NKE_CreateInstance`, or the first slot whose instance is in `KE_CLOSED`;
`NKE_Finalise` passes every non-NULL entry to `NKE_DestroyInstance`.

The heap is a map from pointers to records, each with whether it is still allocated
(`Free` clears the flag and leaves the bytes as they were); `MallocNew` returns the pointer
`next`, which no record has had before.  The pool is safe (`ServerPool.Safe`) when its
entries point at allocated records, no two at the same one, and every allocated record is
pooled.

## Results

* Every event keeps the pool safe, except one path of `accept_connection`: a slot is
  found, `fcntl` succeeds, and `create_session` fails in `accept_server_connection`
  (`ServerPool.SessionFails`).  Along a run that avoids it, `NKE_Finalise` frees each
  pooled record once and leaves none allocated (`poolRun_safe`).
* That path always breaks the pool: `NKE_DestroyInstance` frees the instance and the
  slot keeps its pointer, on a new slot and on a reused one
  (`Wf.dangling_of_sessionFails`).  The next `accept_connection` reads the freed
  record's state, finds `KE_CLOSED` and uses it again, and `NKE_Finalise` frees it a
  second time (`accept_session_failure_dangles`).
* Whatever happens, each event moves only the record it is delivered to
  (`PoolEvent.recordEvent`), and that one by a step of the spec's machine under that
  event (`server_pool_refines_spec`): the slot loop reuses only closed instances, and
  `NKE_CreateInstance` writes a closed one (`ServerPool.Reachable`).
-/

namespace ChronyNts.KeyExchange

/-- `MAX_SERVER_INSTANCES`. -/
def maxServerInstances : Nat := 10

/-- An `NKE_Instance_Record` on the heap, and whether it is still allocated. -/
structure InstanceRecord where
  inst : NkeInstance
  allocated : Bool

/-- `server_instances`, its entries pointers into the heap of records.  Records at or
past `next` have not been allocated. -/
structure ServerPool where
  serverInstances : List (Option Nat)
  length_serverInstances : serverInstances.length = maxServerInstances
  records : Nat → InstanceRecord
  next : Nat

namespace ServerPool

/-- The pool after the loop of `NKE_Initialise` that sets every entry to NULL. -/
def initial : ServerPool :=
  ⟨List.replicate maxServerInstances none, List.length_replicate _ _,
    fun _ => ⟨nkeCreateInstance, false⟩, 0⟩

/-- `NKE_CreateInstance`: `MallocNew` returns the pointer `next`. -/
def createInstance (pool : ServerPool) : ServerPool :=
  { pool with
    records := Function.update pool.records pool.next ⟨nkeCreateInstance, true⟩
    next := pool.next + 1 }

/-- `server_instances[i] = inst`. -/
def setSlot (pool : ServerPool) (i p : Nat) : ServerPool :=
  { pool with
    serverInstances := pool.serverInstances.set i (some p)
    length_serverInstances := by rw [List.length_set, pool.length_serverInstances] }

/-- A write of the instance through pointer `p`. -/
def setInstance (pool : ServerPool) (p : Nat) (inst : NkeInstance) : ServerPool :=
  { pool with records := Function.update pool.records p { pool.records p with inst } }

/-- `NKE_DestroyInstance`: `close_connection`, then `Free`. -/
def destroyInstance (pool : ServerPool) (p : Nat) : ServerPool :=
  { pool with
    records := Function.update pool.records p ⟨closeConnection (pool.records p).inst, false⟩ }

@[simp] theorem createInstance_serverInstances (pool : ServerPool) :
    pool.createInstance.serverInstances = pool.serverInstances := rfl
@[simp] theorem createInstance_next (pool : ServerPool) :
    pool.createInstance.next = pool.next + 1 := rfl
@[simp] theorem setSlot_serverInstances (pool : ServerPool) (i p : Nat) :
    (pool.setSlot i p).serverInstances = pool.serverInstances.set i (some p) := rfl
@[simp] theorem setSlot_records (pool : ServerPool) (i p : Nat) :
    (pool.setSlot i p).records = pool.records := rfl
@[simp] theorem setSlot_next (pool : ServerPool) (i p : Nat) :
    (pool.setSlot i p).next = pool.next := rfl
@[simp] theorem setInstance_serverInstances (pool : ServerPool) (p : Nat) (inst : NkeInstance) :
    (pool.setInstance p inst).serverInstances = pool.serverInstances := rfl
@[simp] theorem setInstance_next (pool : ServerPool) (p : Nat) (inst : NkeInstance) :
    (pool.setInstance p inst).next = pool.next := rfl
@[simp] theorem destroyInstance_serverInstances (pool : ServerPool) (p : Nat) :
    (pool.destroyInstance p).serverInstances = pool.serverInstances := rfl
@[simp] theorem destroyInstance_next (pool : ServerPool) (p : Nat) :
    (pool.destroyInstance p).next = pool.next := rfl

theorem createInstance_allocated (pool : ServerPool) (q : Nat) :
    (pool.createInstance.records q).allocated = if q = pool.next then true
      else (pool.records q).allocated := by
  by_cases h : q = pool.next <;> simp [createInstance, Function.update_apply, h]

@[simp] theorem setInstance_allocated (pool : ServerPool) (p : Nat) (inst : NkeInstance)
    (q : Nat) : ((pool.setInstance p inst).records q).allocated = (pool.records q).allocated := by
  by_cases h : q = p <;> simp [setInstance, Function.update_apply, h]

theorem destroyInstance_records (pool : ServerPool) (p q : Nat) :
    (pool.destroyInstance p).records q = if q = p then ⟨closeConnection (pool.records p).inst, false⟩
      else pool.records q := by
  simp [destroyInstance, Function.update_apply]

end ServerPool

/-! ## `accept_connection` -/

/-- The loop of `accept_connection` over the slots from index `i`: the first slot that is
empty, or whose instance is in `KE_CLOSED`, with its entry. -/
def findSlot (records : Nat → InstanceRecord) : Nat → List (Option Nat) → Option (Nat × Option Nat)
  | _, [] => none
  | i, none :: _ => some (i, none)
  | i, some p :: slots =>
    if (records p).inst.state = .closed then some (i, some p) else findSlot records (i + 1) slots

/-- What the calls of `accept_connection` return: whether `accept` gives a descriptor,
`NCR_CheckAccessRestriction` allows the client, `fcntl` sets `O_NONBLOCK`, and
`create_session` (in `accept_server_connection`) gives a session. -/
structure AcceptOutcome where
  accept : Bool
  accessAllowed : Bool
  setNonblock : Bool
  createSession : Bool

namespace ServerPool

/-- The end of `accept_connection` once the instance at pointer `p` is chosen: `fcntl`,
then `accept_server_connection`, and `NKE_DestroyInstance` when that fails. -/
def acceptInstance (pool : ServerPool) (p : Nat) (o : AcceptOutcome) : ServerPool :=
  if !o.setNonblock then pool
  else
    match acceptServerConnection (pool.records p).inst o.createSession with
    | (true, inst) => pool.setInstance p inst
    | (false, _) => pool.destroyInstance p

/-- `accept_connection`.  The descriptor it closes on each early return is not part of
the pool. -/
def acceptConnection (pool : ServerPool) (o : AcceptOutcome) : ServerPool :=
  if !o.accept then pool
  else if !o.accessAllowed then pool
  else
    match findSlot pool.records 0 pool.serverInstances with
    | none => pool
    | some (i, none) => (pool.createInstance.setSlot i pool.next).acceptInstance pool.next o
    | some (_, some p) => pool.acceptInstance p o

/-- The path of `accept_connection` on which `accept_server_connection` fails: a slot is
found and `fcntl` succeeds, but `create_session` does not. -/
def SessionFails (pool : ServerPool) (o : AcceptOutcome) : Prop :=
  o.accept = true ∧ o.accessAllowed = true ∧
    (findSlot pool.records 0 pool.serverInstances).isSome ∧ o.setNonblock = true ∧
    o.createSession = false

/-! ## `NKE_Finalise` -/

/-- The loop of `NKE_Finalise`: `NKE_DestroyInstance` on every non-NULL entry, in slot
order. -/
def nkeFinalise (pool : ServerPool) : ServerPool :=
  pool.serverInstances.reduceOption.foldl destroyInstance pool

/-- Every `NKE_DestroyInstance` of the pointers `ps`, in order from `pool`, finds its
record allocated: none is freed twice. -/
def FreesAllocated : ServerPool → List Nat → Prop
  | _, [] => True
  | pool, p :: ps => (pool.records p).allocated = true ∧ FreesAllocated (pool.destroyInstance p) ps

end ServerPool

/-! ## Runs -/

/-- What happens on the server side: a call of `accept_connection`, or a call by the
scheduler of `read_write_socket` or `session_timeout` with the pointer it was given. -/
inductive PoolEvent
  | acceptConnection (o : AcceptOutcome)
  | socket (p : Nat) (event : FileEvent) (io : Io)
  | timeout (p : Nat)

/-- One event of the pool. -/
def poolStep (env : KeEnv) (pool : ServerPool) : PoolEvent → ServerPool
  | .acceptConnection o => pool.acceptConnection o
  | .socket p event io => pool.setInstance p (nkeStep env (pool.records p).inst (.socket event io))
  | .timeout p => pool.setInstance p (nkeStep env (pool.records p).inst .timeout)

/-- The pool after `events`, in order. -/
def poolRun (env : KeEnv) (pool : ServerPool) (events : List PoolEvent) : ServerPool :=
  events.foldl (poolStep env) pool

/-- No call of `accept_connection` among `events`, from `pool`, takes the path on which
`accept_server_connection` fails. -/
def SessionsCreated (env : KeEnv) : ServerPool → List PoolEvent → Prop
  | _, [] => True
  | pool, e :: events => (∀ o, e = .acceptConnection o → ¬ pool.SessionFails o) ∧
      SessionsCreated env (poolStep env pool e) events

/-! ## The slots -/

theorem findSlot_spec {records : Nat → InstanceRecord} :
    ∀ {k : Nat} {l : List (Option Nat)} {i : Nat} {s : Option Nat},
      findSlot records k l = some (i, s) → ∃ j, i = k + j ∧ l[j]? = some s
  | _, [], _, _, h => nomatch h
  | _, none :: _, _, _, h => by
    obtain ⟨rfl, rfl⟩ := Prod.mk.inj (Option.some.inj h)
    exact ⟨0, rfl, by simp⟩
  | _, some p :: _, _, _, h => by
    unfold findSlot at h
    split at h
    · obtain ⟨rfl, rfl⟩ := Prod.mk.inj (Option.some.inj h)
      exact ⟨0, rfl, by simp⟩
    · obtain ⟨j, rfl, hj⟩ := findSlot_spec h
      exact ⟨j + 1, by omega, by simpa using hj⟩

/-- Filling an empty slot adds its pointer to the non-NULL entries. -/
theorem reduceOption_set_none {α : Type} (a : α) :
    ∀ {l : List (Option α)} {j : Nat}, l[j]? = some none →
      (l.set j (some a)).reduceOption.Perm (a :: l.reduceOption)
  | [], _, hj => by simp at hj
  | none :: l, 0, _ => by simp [List.reduceOption_cons_of_none, List.reduceOption_cons_of_some]
  | some _ :: _, 0, hj => by simp at hj
  | x :: l, j + 1, hj => by
    have ih := reduceOption_set_none a (l := l) (by simpa using hj)
    cases x with
    | none => simpa [List.reduceOption_cons_of_none] using ih
    | some q =>
      simp only [List.set_cons_succ, List.reduceOption_cons_of_some]
      exact ((List.perm_cons q).mpr ih).trans (List.Perm.swap a q _)

/-- What `accept_connection` does: nothing, when `accept` or the access check fails or no
slot is free; otherwise the end of the call on the instance of the slot it found, a new
one in an empty slot or the closed one it reuses. -/
theorem ServerPool.acceptConnection_cases (pool : ServerPool) (o : AcceptOutcome) :
    pool.acceptConnection o = pool ∧
        ¬ (o.accept = true ∧ o.accessAllowed = true ∧
          (findSlot pool.records 0 pool.serverInstances).isSome) ∨
      o.accept = true ∧ o.accessAllowed = true ∧
        (findSlot pool.records 0 pool.serverInstances).isSome ∧
        ((∃ j : Nat, pool.serverInstances[j]? = some none ∧ pool.acceptConnection o =
            (pool.createInstance.setSlot j pool.next).acceptInstance pool.next o) ∨
          ∃ j p : Nat, pool.serverInstances[j]? = some (some p) ∧
            pool.acceptConnection o = pool.acceptInstance p o) := by
  unfold ServerPool.acceptConnection
  cases ha : o.accept
  · exact .inl ⟨by simp, by simp⟩
  cases hal : o.accessAllowed
  · exact .inl ⟨by simp, by simp⟩
  simp only [Bool.not_true, Bool.false_eq_true, if_false, true_and]
  split <;> rename_i hfind
  · exact .inl ⟨rfl, by simp [hfind]⟩
  · obtain ⟨j, hij, hj⟩ := findSlot_spec hfind
    exact .inr ⟨by simp [hfind], .inl ⟨j, hj, by rw [hij, Nat.zero_add]⟩⟩
  · obtain ⟨j, -, hj⟩ := findSlot_spec hfind
    exact .inr ⟨by simp [hfind], .inr ⟨j, _, hj, rfl⟩⟩

/-! ## The invariant -/

namespace ServerPool

/-- The pool is safe: every non-NULL entry points at an allocated record, no two entries
at the same record, every allocated record is pooled, and `MallocNew` has not yet
returned the records from `next` on. -/
structure Safe (pool : ServerPool) : Prop where
  allocated : ∀ p ∈ pool.serverInstances.reduceOption, (pool.records p).allocated = true
  nodup : pool.serverInstances.reduceOption.Nodup
  pooled : ∀ p, (pool.records p).allocated = true → p ∈ pool.serverInstances.reduceOption
  fresh : ∀ p, pool.next ≤ p → (pool.records p).allocated = false

theorem safe_initial : initial.Safe :=
  ⟨fun _ h => by simp [initial, maxServerInstances] at h, by simp [initial, maxServerInstances],
    fun _ h => by simp [initial] at h, fun _ _ => rfl⟩

variable {pool : ServerPool}

theorem Safe.setInstance (h : pool.Safe) (p : Nat) (inst : NkeInstance) :
    (pool.setInstance p inst).Safe :=
  ⟨by simpa using h.allocated, by simpa using h.nodup, by simpa using h.pooled,
    by simpa using h.fresh⟩

/-- A new instance in an empty slot. -/
theorem Safe.createInSlot (h : pool.Safe) {j : Nat} (hj : pool.serverInstances[j]? = some none) :
    (pool.createInstance.setSlot j pool.next).Safe := by
  have hperm := reduceOption_set_none pool.next hj
  have hnew : pool.next ∉ pool.serverInstances.reduceOption := fun hm => by
    simpa [h.fresh pool.next le_rfl] using h.allocated _ hm
  have halloc : ∀ q, (pool.createInstance.records q).allocated = true ↔
      q = pool.next ∨ (pool.records q).allocated = true := fun q => by
    rw [createInstance_allocated]; split <;> simp [*]
  refine ⟨fun q hq => ?_, ?_, fun q hq => ?_, fun q hq => ?_⟩
  · rcases List.mem_cons.mp (hperm.mem_iff.mp hq) with rfl | hq
    · exact (halloc _).mpr (.inl rfl)
    · exact (halloc _).mpr (.inr (h.allocated q hq))
  · exact hperm.nodup_iff.mpr (List.nodup_cons.mpr ⟨hnew, h.nodup⟩)
  · refine hperm.mem_iff.mpr (List.mem_cons.mpr ?_)
    exact ((halloc q).mp hq).imp id (h.pooled q)
  · simp only [setSlot_next, createInstance_next] at hq
    simp only [setSlot_records, createInstance_allocated, if_neg (show q ≠ pool.next by omega)]
    exact h.fresh q (by omega)

theorem acceptInstance_of_createSession (p : Nat) {o : AcceptOutcome} (hn : o.setNonblock = true)
    (hc : o.createSession = true) :
    pool.acceptInstance p o = pool.setInstance p (acceptServerConnection (pool.records p).inst true).2 := by
  simp [acceptInstance, hn, hc, acceptServerConnection]

theorem acceptInstance_of_not_createSession (p : Nat) {o : AcceptOutcome}
    (hn : o.setNonblock = true) (hc : o.createSession = false) :
    pool.acceptInstance p o = pool.destroyInstance p := by
  simp [acceptInstance, hn, hc, acceptServerConnection]

theorem Safe.acceptInstance (h : pool.Safe) (p : Nat) {o : AcceptOutcome}
    (hs : o.setNonblock = true → o.createSession = true) : (pool.acceptInstance p o).Safe := by
  cases hn : o.setNonblock
  · simpa [ServerPool.acceptInstance, hn] using h
  · rw [acceptInstance_of_createSession p hn (hs hn)]
    exact h.setInstance _ _

/-- `accept_connection` keeps the pool safe, unless `accept_server_connection` fails. -/
theorem Safe.acceptConnection (h : pool.Safe) {o : AcceptOutcome} (hf : ¬ pool.SessionFails o) :
    (pool.acceptConnection o).Safe := by
  rcases acceptConnection_cases pool o with ⟨he, -⟩ | ⟨ha, hal, hsome, hslot⟩
  · rwa [he]
  have hs : o.setNonblock = true → o.createSession = true := fun hn => by
    cases hc : o.createSession
    · exact absurd ⟨ha, hal, hsome, hn, hc⟩ hf
    · rfl
  rcases hslot with ⟨j, hj, he⟩ | ⟨j, p, -, he⟩ <;> rw [he]
  · exact (h.createInSlot hj).acceptInstance _ hs
  · exact h.acceptInstance _ hs

end ServerPool

theorem ServerPool.Safe.poolStep (env : KeEnv) {pool : ServerPool} (h : pool.Safe)
    {e : PoolEvent} (he : ∀ o, e = .acceptConnection o → ¬ pool.SessionFails o) :
    (poolStep env pool e).Safe := by
  cases e with
  | acceptConnection o => exact h.acceptConnection (he o rfl)
  | socket p event io => exact h.setInstance _ _
  | timeout p => exact h.setInstance _ _

/-! ## `NKE_Finalise` on a safe pool -/

namespace ServerPool

/-- Destroying distinct allocated records: each is found allocated, each ends freed, and
the others are left as they were. -/
theorem freesAllocated_of_nodup :
    ∀ {pool : ServerPool} {ps : List Nat}, ps.Nodup → (∀ p ∈ ps, (pool.records p).allocated = true) →
      FreesAllocated pool ps ∧
        (∀ p ∈ ps, ((ps.foldl destroyInstance pool).records p).allocated = false) ∧
        ∀ q ∉ ps, (ps.foldl destroyInstance pool).records q = pool.records q
  | _, [], _, _ => ⟨trivial, nofun, fun _ _ => rfl⟩
  | pool, p :: ps, hn, ha => by
    obtain ⟨hp, hn⟩ := List.nodup_cons.mp hn
    have hrest : ∀ q ∈ ps, ((pool.destroyInstance p).records q).allocated = true := fun q hq => by
      rw [destroyInstance_records, if_neg (fun (e : q = p) => hp (e ▸ hq))]
      exact ha q (List.mem_cons_of_mem _ hq)
    obtain ⟨hfree, hfreed, hkeep⟩ := freesAllocated_of_nodup hn hrest
    refine ⟨⟨ha p (List.mem_cons_self _ _), hfree⟩, fun q hq => ?_, fun q hq => ?_⟩
    · rcases List.mem_cons.mp hq with rfl | hq
      · rw [List.foldl_cons, hkeep q hp, destroyInstance_records, if_pos rfl]
      · exact hfreed q hq
    · rw [List.foldl_cons, hkeep q (fun h => hq (List.mem_cons_of_mem _ h)), destroyInstance_records,
        if_neg (fun (e : q = p) => hq (e ▸ List.mem_cons_self _ _))]

/-- On a safe pool, `NKE_Finalise` frees each pooled record once and leaves no record
allocated. -/
theorem Safe.nkeFinalise {pool : ServerPool} (h : pool.Safe) :
    FreesAllocated pool pool.serverInstances.reduceOption ∧
      ∀ p, (pool.nkeFinalise.records p).allocated = false := by
  obtain ⟨hfree, hfreed, hkeep⟩ := freesAllocated_of_nodup h.nodup h.allocated
  refine ⟨hfree, fun p => ?_⟩
  by_cases hp : p ∈ pool.serverInstances.reduceOption
  · exact hfreed p hp
  · rw [ServerPool.nkeFinalise, hkeep p hp]
    cases ha : (pool.records p).allocated
    · rfl
    · exact absurd (h.pooled p ha) hp

end ServerPool

/-- Along every run from `NKE_Initialise` on which `accept_server_connection` never fails,
the pool stays safe, and `NKE_Finalise` frees each pooled instance once and leaves none
allocated. -/
theorem poolRun_safe (env : KeEnv) (events : List PoolEvent)
    (h : SessionsCreated env ServerPool.initial events) :
    (poolRun env ServerPool.initial events).Safe ∧
      ServerPool.FreesAllocated (poolRun env ServerPool.initial events)
        (poolRun env ServerPool.initial events).serverInstances.reduceOption ∧
      ∀ p, ((poolRun env ServerPool.initial events).nkeFinalise.records p).allocated = false := by
  suffices hrun : ∀ (events : List PoolEvent) (pool : ServerPool), pool.Safe →
      SessionsCreated env pool events → (poolRun env pool events).Safe from
    have hs := hrun events _ ServerPool.safe_initial h
    ⟨hs, hs.nkeFinalise⟩
  intro events
  induction events with
  | nil => exact fun _ h _ => h
  | cons e events ih => exact fun pool h ⟨he, hrest⟩ => ih _ (h.poolStep env he) hrest

/-- Two connections accepted with their sessions created: the pool is safe, and
`NKE_Finalise` leaves no record allocated. -/
theorem poolRun_safe_two_connections :
    let env : KeEnv := ⟨256, ntpPortDefault, fun _ => none⟩
    let events := [PoolEvent.acceptConnection ⟨true, true, true, true⟩,
      .acceptConnection ⟨true, true, true, true⟩]
    (poolRun env ServerPool.initial events).Safe ∧
      ∀ p, ((poolRun env ServerPool.initial events).nkeFinalise.records p).allocated = false := by
  intro env events
  have hcreated : SessionsCreated env ServerPool.initial events :=
    ⟨fun _ he hf => by cases he; exact Bool.noConfusion hf.2.2.2.2,
      fun _ he hf => by cases he; exact Bool.noConfusion hf.2.2.2.2, trivial⟩
  exact ⟨(poolRun_safe env events hcreated).1, (poolRun_safe env events hcreated).2.2⟩

/-! ## The failure of `accept_server_connection` -/

namespace ServerPool

/-- What holds of every pool, safe or not: the entries are pointers `MallocNew` has
returned, and it has not returned the records from `next` on. -/
structure Wf (pool : ServerPool) : Prop where
  lt_next : ∀ p ∈ pool.serverInstances.reduceOption, p < pool.next
  fresh : ∀ p, pool.next ≤ p → (pool.records p).allocated = false

/-- The pool holds a pointer to a record that has been freed. -/
def Dangling (pool : ServerPool) : Prop :=
  ∃ p ∈ pool.serverInstances.reduceOption, p < pool.next ∧ (pool.records p).allocated = false

variable {pool : ServerPool}

theorem wf_initial : initial.Wf :=
  ⟨fun _ h => by simp [initial, maxServerInstances] at h, fun _ _ => rfl⟩

theorem Wf.setInstance (h : pool.Wf) (p : Nat) (inst : NkeInstance) : (pool.setInstance p inst).Wf :=
  ⟨by simpa using h.lt_next, by simpa using h.fresh⟩

theorem Wf.destroyInstance (h : pool.Wf) (p : Nat) : (pool.destroyInstance p).Wf :=
  ⟨by simpa using h.lt_next, fun q hq => by
    rw [destroyInstance_records]; split
    · rfl
    · exact h.fresh q hq⟩

theorem Wf.createInSlot (h : pool.Wf) {j : Nat} (hj : pool.serverInstances[j]? = some none) :
    (pool.createInstance.setSlot j pool.next).Wf := by
  refine ⟨fun q hq => ?_, fun q hq => ?_⟩
  · rcases List.mem_cons.mp ((reduceOption_set_none pool.next hj).mem_iff.mp hq) with rfl | hq
    · simp
    · simpa using Nat.lt_succ_of_lt (h.lt_next q hq)
  · simp only [setSlot_next, createInstance_next] at hq
    simp only [setSlot_records, createInstance_allocated, if_neg (show q ≠ pool.next by omega)]
    exact h.fresh q (by omega)

theorem Wf.acceptInstance (h : pool.Wf) (p : Nat) (o : AcceptOutcome) : (pool.acceptInstance p o).Wf := by
  cases hn : o.setNonblock
  · simpa [ServerPool.acceptInstance, hn] using h
  cases hc : o.createSession
  · rw [acceptInstance_of_not_createSession p hn hc]; exact h.destroyInstance p
  · rw [acceptInstance_of_createSession p hn hc]; exact h.setInstance _ _

theorem Wf.acceptConnection (h : pool.Wf) (o : AcceptOutcome) : (pool.acceptConnection o).Wf := by
  rcases acceptConnection_cases pool o with ⟨he, -⟩ | ⟨-, -, -, ⟨j, hj, he⟩ | ⟨j, p, -, he⟩⟩ <;>
    rw [he]
  · exact h
  · exact (h.createInSlot hj).acceptInstance _ _
  · exact h.acceptInstance _ _

/-- Once a slot points at a freed record, it keeps doing so: nothing empties a slot, a
new record is never an old one, and nothing allocates a freed record again. -/
theorem Dangling.setInstance (h : pool.Dangling) (p : Nat) (inst : NkeInstance) :
    (pool.setInstance p inst).Dangling := by
  simpa [Dangling] using h

theorem Dangling.destroyInstance (h : pool.Dangling) (p : Nat) : (pool.destroyInstance p).Dangling := by
  obtain ⟨q, hq, hlt, hfree⟩ := h
  refine ⟨q, hq, hlt, ?_⟩
  rw [destroyInstance_records]; split
  · rfl
  · exact hfree

theorem Dangling.createInSlot (h : pool.Dangling) {j : Nat} (hj : pool.serverInstances[j]? = some none) :
    (pool.createInstance.setSlot j pool.next).Dangling := by
  obtain ⟨q, hq, hlt, hfree⟩ := h
  refine ⟨q, (reduceOption_set_none pool.next hj).mem_iff.mpr (List.mem_cons_of_mem _ hq),
    by simp only [setSlot_next, createInstance_next]; omega, ?_⟩
  simp only [setSlot_records, createInstance_allocated, if_neg (show q ≠ pool.next by omega), hfree]

theorem Dangling.acceptInstance (h : pool.Dangling) (p : Nat) (o : AcceptOutcome) :
    (pool.acceptInstance p o).Dangling := by
  cases hn : o.setNonblock
  · simpa [ServerPool.acceptInstance, hn] using h
  cases hc : o.createSession
  · rw [acceptInstance_of_not_createSession p hn hc]; exact h.destroyInstance p
  · rw [acceptInstance_of_createSession p hn hc]; exact h.setInstance _ _

theorem Dangling.acceptConnection (h : pool.Dangling) (o : AcceptOutcome) :
    (pool.acceptConnection o).Dangling := by
  rcases acceptConnection_cases pool o with ⟨he, -⟩ | ⟨-, -, -, ⟨j, hj, he⟩ | ⟨j, p, -, he⟩⟩ <;>
    rw [he]
  · exact h
  · exact (h.createInSlot hj).acceptInstance _ _
  · exact h.acceptInstance _ _

/-- On the failure path, the slot `accept_connection` chose points at the instance
`NKE_DestroyInstance` has just freed: the new one on an empty slot, the reused one on a
slot whose instance was closed. -/
theorem Wf.dangling_of_sessionFails (h : pool.Wf) {o : AcceptOutcome} (hf : pool.SessionFails o) :
    (pool.acceptConnection o).Dangling := by
  obtain ⟨ha, hal, hsome, hn, hc⟩ := hf
  rcases acceptConnection_cases pool o with ⟨-, hno⟩ | ⟨-, -, -, ⟨j, hj, he⟩ | ⟨j, p, hj, he⟩⟩
  · exact absurd ⟨ha, hal, hsome⟩ hno
  · rw [he, acceptInstance_of_not_createSession _ hn hc]
    refine ⟨pool.next, ?_, by simp, by simp [destroyInstance_records]⟩
    exact (reduceOption_set_none pool.next hj).mem_iff.mpr (List.mem_cons_self _ _)
  · rw [he, acceptInstance_of_not_createSession _ hn hc]
    have hp : p ∈ pool.serverInstances.reduceOption :=
      List.reduceOption_mem_iff.mpr (List.getElem?_mem hj)
    exact ⟨p, hp, h.lt_next p hp, by simp [destroyInstance_records]⟩

theorem Dangling.not_safe (h : pool.Dangling) : ¬ pool.Safe := fun hs => by
  obtain ⟨p, hp, -, hfree⟩ := h
  simp [hs.allocated p hp] at hfree

/-- `NKE_Destroy_Instance` reaches a freed record among `ps` before it can free it. -/
theorem not_freesAllocated_of_mem {p : Nat} :
    ∀ {pool : ServerPool} {ps : List Nat}, p ∈ ps → (pool.records p).allocated = false →
      ¬ FreesAllocated pool ps
  | _, [], hp, _ => nomatch hp
  | pool, q :: ps, hp, hfree => fun ⟨hq, hrest⟩ => by
    by_cases e : p = q
    · subst e; simp [hfree] at hq
    · refine not_freesAllocated_of_mem (List.mem_of_ne_of_mem e hp) ?_ hrest
      rw [destroyInstance_records, if_neg e, hfree]

/-- `NKE_Finalise` on a pool with a dangling slot frees that record a second time. -/
theorem Dangling.not_freesAllocated (h : pool.Dangling) :
    ¬ FreesAllocated pool pool.serverInstances.reduceOption := by
  obtain ⟨p, hp, -, hfree⟩ := h
  exact not_freesAllocated_of_mem hp hfree

end ServerPool

theorem ServerPool.Wf.poolStep (env : KeEnv) {pool : ServerPool} (h : pool.Wf) (e : PoolEvent) :
    (poolStep env pool e).Wf := by
  cases e with
  | acceptConnection o => exact h.acceptConnection o
  | socket p event io => exact h.setInstance _ _
  | timeout p => exact h.setInstance _ _

theorem ServerPool.Dangling.poolStep (env : KeEnv) {pool : ServerPool} (h : pool.Dangling)
    (e : PoolEvent) : (poolStep env pool e).Dangling := by
  cases e with
  | acceptConnection o => exact h.acceptConnection o
  | socket p event io => exact h.setInstance _ _
  | timeout p => exact h.setInstance _ _

theorem poolRun_append (env : KeEnv) (pool : ServerPool) (events more : List PoolEvent) :
    poolRun env pool (events ++ more) = poolRun env (poolRun env pool events) more :=
  List.foldl_append _ _ _ _

theorem ServerPool.Wf.poolRun (env : KeEnv) (events : List PoolEvent) :
    ∀ {pool : ServerPool}, pool.Wf → (ChronyNts.KeyExchange.poolRun env pool events).Wf := by
  induction events with
  | nil => exact id
  | cons e events ih => exact fun h => ih (h.poolStep env e)

theorem ServerPool.Dangling.poolRun (env : KeEnv) (events : List PoolEvent) :
    ∀ {pool : ServerPool}, pool.Dangling → (ChronyNts.KeyExchange.poolRun env pool events).Dangling := by
  induction events with
  | nil => exact id
  | cons e events ih => exact fun h => ih (h.poolStep env e)

/-- From `NKE_Initialise`, once `accept_server_connection` fails in a call of
`accept_connection`, whatever happens next, the pool is no longer safe and `NKE_Finalise`
frees a freed instance. -/
theorem nkeFinalise_double_free (env : KeEnv) (before after : List PoolEvent) {o : AcceptOutcome}
    (hf : (poolRun env ServerPool.initial before).SessionFails o) :
    let pool := poolRun env ServerPool.initial (before ++ .acceptConnection o :: after)
    ¬ pool.Safe ∧ ¬ ServerPool.FreesAllocated pool pool.serverInstances.reduceOption := by
  have hd : (poolRun env ServerPool.initial (before ++ .acceptConnection o :: after)).Dangling := by
    rw [poolRun_append]
    exact ((ServerPool.wf_initial.poolRun env before).dangling_of_sessionFails hf).poolRun env after
  exact ⟨hd.not_safe, hd.not_freesAllocated⟩

namespace ServerPool

/-- One connection whose TLS session cannot be created, on a fresh server: slot 0 keeps
the pointer to the instance `NKE_DestroyInstance` freed.  The next connection reads the
freed record, finds it closed and sets it up again in place, and `NKE_Finalise` frees it a
second time. -/
theorem accept_session_failure_dangles :
    let pool : ServerPool := acceptConnection initial ⟨true, true, true, false⟩
    let pool' := acceptConnection pool ⟨true, true, true, true⟩
    pool.serverInstances = some 0 :: List.replicate 9 none ∧ (pool.records 0).allocated = false ∧
      pool'.serverInstances = some 0 :: List.replicate 9 none ∧
      (pool'.records 0).allocated = false ∧ (pool'.records 0).inst.state = .handshake ∧
      ¬ FreesAllocated pool' pool'.serverInstances.reduceOption := by
  refine ⟨rfl, rfl, rfl, rfl, rfl, not_freesAllocated_of_mem (p := 0) ?_ rfl⟩
  exact List.reduceOption_mem_iff.mpr (List.mem_cons_self _ _)

end ServerPool

/-! ## Every instance of the pool follows the spec's machine -/

/-- The slot loop only picks a used slot whose instance is closed. -/
theorem findSlot_closed {records : Nat → InstanceRecord} :
    ∀ {k : Nat} {l : List (Option Nat)} {i p : Nat},
      findSlot records k l = some (i, some p) → (records p).inst.state = .closed
  | _, [], _, _, h => nomatch h
  | _, none :: _, _, _, h => nomatch h
  | _, some q :: _, _, _, h => by
    unfold findSlot at h
    split at h
    · cases h
      assumption
    · exact findSlot_closed h

namespace ServerPool

/-- The pointer of the instance `accept_connection` passes to `accept_server_connection`:
the first closed instance the slot loop finds, or the new one `NKE_CreateInstance` returns
for the first empty slot.  None when it returns before: `accept` or the access check
fails, no slot is free, or `fcntl` fails. -/
def acceptedPointer (pool : ServerPool) (o : AcceptOutcome) : Option Nat :=
  if o.accept && o.accessAllowed && o.setNonblock then
    (findSlot pool.records 0 pool.serverInstances).map fun s => s.2.getD pool.next
  else none

theorem acceptedPointer_of_findSlot {pool : ServerPool} {o : AcceptOutcome}
    (ha : o.accept = true) (hacc : o.accessAllowed = true) (hn : o.setNonblock = true)
    {s : Nat × Option Nat} (hfind : findSlot pool.records 0 pool.serverInstances = some s) :
    pool.acceptedPointer o = some (s.2.getD pool.next) := by
  simp [acceptedPointer, ha, hacc, hn, hfind]

end ServerPool

/-- The event the instance at pointer `q` sees when the pool takes `e`: the socket event or
the timeout the scheduler delivers through `q`, or the call of `accept_server_connection`
on it, with whether `create_session` succeeds.  None for every other record. -/
def PoolEvent.recordEvent (pool : ServerPool) (q : Nat) : PoolEvent → Option NkeEvent
  | .acceptConnection o => (pool.acceptedPointer o).bind fun p =>
    if q = p then some (.acceptConnection o.createSession) else none
  | .socket p event io => if q = p then some (.socket event io) else none
  | .timeout p => if q = p then some .timeout else none

/-- A record's instance moves from `inst` to `inst'` by a step of the spec's machine under
the event it sees, and is left as it is when it sees none. -/
def RecordStep (env : KeEnv) : Option NkeEvent → NkeInstance → NkeInstance → Prop
  | some e, inst, inst' => SpecStep env inst e inst'
  | none, inst, inst' => inst' = inst

/-- Each record's instance moves from `pool` to `pool'` by a step of the spec's machine
under the event that `e` delivers to it, and the others are left as they are. -/
def RecordsStep (env : KeEnv) (pool : ServerPool) (e : PoolEvent) (pool' : ServerPool) : Prop :=
  ∀ q, RecordStep env (e.recordEvent pool q) (pool.records q).inst (pool'.records q).inst

/-- Every step of the run of the pool from `pool` over `events` moves each record's
instance by a step of the spec's machine under the event delivered to it. -/
def PoolSpecRun (env : KeEnv) : ServerPool → List PoolEvent → Prop
  | _, [] => True
  | pool, e :: events => RecordsStep env pool e (poolStep env pool e) ∧
      PoolSpecRun env (poolStep env pool e) events

theorem recordStep_refl (env : KeEnv) : ∀ (e : Option NkeEvent) (inst : NkeInstance),
    RecordStep env e inst inst
  | some _, _ => .stay rfl rfl
  | none, _ => rfl

/-- A write through `p` alone moves the record at `p` under the event `e` it sees. -/
theorem recordStep_of_inst {env : KeEnv} {pool pool' : ServerPool} {p : Nat}
    {inst : NkeInstance} {e : NkeEvent}
    (hinst : ∀ q, (pool'.records q).inst = if q = p then inst else (pool.records q).inst)
    (hstep : SpecStep env (pool.records p).inst e inst) (q : Nat) :
    RecordStep env (if q = p then some e else none) (pool.records q).inst
      (pool'.records q).inst := by
  rw [hinst]
  by_cases hq : q = p
  · subst hq
    rw [if_pos rfl, if_pos rfl]
    exact hstep
  · rw [if_neg hq, if_neg hq]
    rfl

namespace ServerPool

/-- What every pool reached from `NKE_Initialise` satisfies, whether
`accept_server_connection` fails or not: the pointers are ones `MallocNew` returned, every
record holds a reachable instance, and the records it has not returned hold what
`NKE_CreateInstance` writes into a new one. -/
structure Reachable (pool : ServerPool) : Prop where
  wf_pool : pool.Wf
  wf : ∀ p, (pool.records p).inst.Wf
  fresh_inst : ∀ p, pool.next ≤ p → (pool.records p).inst = nkeCreateInstance

theorem reachable_initial : initial.Reachable :=
  ⟨wf_initial, fun _ => wf_nkeCreateInstance, fun _ _ => rfl⟩

theorem setInstance_inst (pool : ServerPool) (p : Nat) (inst : NkeInstance) (q : Nat) :
    ((pool.setInstance p inst).records q).inst = if q = p then inst else (pool.records q).inst := by
  by_cases h : q = p <;> simp [setInstance, Function.update_apply, h]

theorem destroyInstance_inst (pool : ServerPool) (p q : Nat) :
    ((pool.destroyInstance p).records q).inst =
      if q = p then closeConnection (pool.records p).inst else (pool.records q).inst := by
  rw [destroyInstance_records]
  split <;> rfl

variable {env : KeEnv} {pool : ServerPool}

/-- Writing through `p` the instance a spec step under `e` leads to, from a reachable
pool. -/
theorem Reachable.setInstance (h : pool.Reachable) (p : Nat) {inst : NkeInstance} {e : NkeEvent}
    (hwf : inst.Wf) (hstep : SpecStep env (pool.records p).inst e inst)
    (hfresh : pool.next ≤ p → inst = nkeCreateInstance) :
    (pool.setInstance p inst).Reachable ∧ ∀ q, RecordStep env (if q = p then some e else none)
      (pool.records q).inst ((pool.setInstance p inst).records q).inst := by
  refine ⟨⟨h.wf_pool.setInstance p inst, fun q => ?_, fun q hq => ?_⟩,
    recordStep_of_inst (setInstance_inst pool p inst) hstep⟩ <;>
    rw [setInstance_inst] <;> split <;> rename_i hq'
  · exact hwf
  · exact h.wf q
  · exact hfresh (hq' ▸ hq)
  · exact h.fresh_inst q hq

/-- An event of the socket or of the timeout, through any pointer. -/
theorem Reachable.nkeStep (h : pool.Reachable) (p : Nat) {e : NkeEvent}
    (he : nkeStep env nkeCreateInstance e = nkeCreateInstance) :
    (pool.setInstance p (nkeStep env (pool.records p).inst e)).Reachable ∧
      ∀ q, RecordStep env (if q = p then some e else none) (pool.records q).inst
        ((pool.setInstance p (nkeStep env (pool.records p).inst e)).records q).inst :=
  have hspec := nkeStep_spec env (h.wf p) e
  h.setInstance p hspec.1 hspec.2 fun hp => by rw [h.fresh_inst p hp, he]

/-- `accept_server_connection` on the closed instance at pointer `p`, once `fcntl` has
succeeded, and `NKE_DestroyInstance` when it fails. -/
theorem Reachable.acceptInstance (h : pool.Reachable) {p : Nat} (hp : p < pool.next)
    (hclosed : (pool.records p).inst.state = .closed) {o : AcceptOutcome}
    (hn : o.setNonblock = true) :
    (pool.acceptInstance p o).Reachable ∧
      ∀ q, RecordStep env (if q = p then some (.acceptConnection o.createSession) else none)
        (pool.records q).inst ((pool.acceptInstance p o).records q).inst := by
  cases hc : o.createSession
  · rw [acceptInstance_of_not_createSession p hn hc]
    refine ⟨⟨h.wf_pool.destroyInstance p, fun q => ?_, fun q hq => ?_⟩,
      recordStep_of_inst (destroyInstance_inst pool p)
        (.close (closeConnection_mode _) (closeConnection_state _))⟩ <;>
      rw [destroyInstance_inst] <;> split <;> rename_i hq'
    · exact hq' ▸ (h.wf p).closeConnection
    · exact h.wf q
    · simp only [destroyInstance_next] at hq
      omega
    · exact h.fresh_inst q hq
  · rw [acceptInstance_of_createSession p hn hc]
    have hacc : (acceptServerConnection (pool.records p).inst true).2 =
        ChronyNts.KeyExchange.nkeStep env (pool.records p).inst (.acceptConnection true) := by
      simp [ChronyNts.KeyExchange.nkeStep, hclosed]
    have hspec := nkeStep_spec env (h.wf p) (.acceptConnection true)
    rw [← hacc] at hspec
    exact h.setInstance p hspec.1 hspec.2 fun hp' => absurd hp' (by omega)

/-- The end of `accept_connection` on the closed instance at `p` of `pool₀`, which is `pool`
with perhaps a new record: the instance passed to `accept_server_connection` steps under
that call, and every other instance is left as it is. -/
theorem Reachable.acceptAt {pool₀ : ServerPool} (h₀ : pool₀.Reachable)
    (hinst : ∀ q, (pool₀.records q).inst = (pool.records q).inst) {p : Nat} (hp : p < pool₀.next)
    (hclosed : (pool₀.records p).inst.state = .closed) {o : AcceptOutcome}
    (hptr : o.setNonblock = true → pool.acceptedPointer o = some p) :
    (pool₀.acceptInstance p o).Reachable ∧
      RecordsStep env pool (.acceptConnection o) (pool₀.acceptInstance p o) := by
  cases hn : o.setNonblock
  · simp only [ServerPool.acceptInstance, hn, Bool.not_false, if_true]
    exact ⟨h₀, fun q => hinst q ▸ recordStep_refl env _ _⟩
  obtain ⟨hr, hstep⟩ := h₀.acceptInstance hp hclosed hn
  refine ⟨hr, fun q => ?_⟩
  rw [PoolEvent.recordEvent, hptr hn]
  exact hinst q ▸ hstep q

/-- `accept_connection`, on a new instance in an empty slot or on the closed instance of a
used one. -/
theorem Reachable.acceptConnection (h : pool.Reachable) (o : AcceptOutcome) :
    (pool.acceptConnection o).Reachable ∧
      RecordsStep env pool (.acceptConnection o) (pool.acceptConnection o) := by
  have stay : pool.Reachable ∧ RecordsStep env pool (.acceptConnection o) pool :=
    ⟨h, fun q => recordStep_refl env _ _⟩
  unfold ServerPool.acceptConnection
  split_ifs with ha hacc
  · exact stay
  · exact stay
  simp only [Bool.not_eq_true', Bool.not_eq_false] at ha hacc
  rcases hfind : findSlot pool.records 0 pool.serverInstances with _ | ⟨i, _ | p⟩
  · exact stay
  · -- `NKE_CreateInstance` writes into the record at `next` what it already holds
    obtain ⟨j, hij, hj⟩ := findSlot_spec hfind
    rw [Nat.zero_add] at hij
    subst hij
    have hinst : ∀ q, ((pool.createInstance.setSlot i pool.next).records q).inst =
        (pool.records q).inst := fun q => by
      by_cases hq : q = pool.next
      · subst hq
        simp [createInstance, h.fresh_inst _ le_rfl]
      · simp [createInstance, Function.update_apply, hq]
    have hnew : (pool.createInstance.setSlot i pool.next).Reachable :=
      ⟨h.wf_pool.createInSlot hj, fun q => hinst q ▸ h.wf q,
        fun q hq => by rw [hinst]; exact h.fresh_inst q (by simp at hq; omega)⟩
    exact hnew.acceptAt hinst (by simp) (by rw [hinst, h.fresh_inst _ le_rfl]; rfl)
      fun hn => acceptedPointer_of_findSlot ha hacc hn hfind
  · obtain ⟨j, -, hj⟩ := findSlot_spec hfind
    exact h.acceptAt (fun _ => rfl) (h.wf_pool.lt_next p (List.reduceOption_mem_iff.mpr
      (List.getElem?_mem hj))) (findSlot_closed hfind)
      fun hn => acceptedPointer_of_findSlot ha hacc hn hfind

theorem Reachable.poolStep (h : pool.Reachable) (e : PoolEvent) :
    (poolStep env pool e).Reachable ∧ RecordsStep env pool e (poolStep env pool e) := by
  cases e with
  | acceptConnection o => exact h.acceptConnection o
  | socket p event io => exact h.nkeStep p rfl
  | timeout p => exact h.nkeStep p rfl

end ServerPool

/-- Along every run of the server from `NKE_Initialise`, in any interleaving of accepted
connections, socket events and timeouts, and whether `accept_server_connection` fails or
not, each event moves only the record it is delivered to, and that one only by a step of
the spec's machine under that event: it stays, closes, takes the next step of its chain
under the event's guard, or, while closed, is opened as a server by a successful
`accept_server_connection`. -/
theorem server_pool_refines_spec (env : KeEnv) (events : List PoolEvent) :
    PoolSpecRun env ServerPool.initial events := by
  suffices hrun : ∀ (events : List PoolEvent) (pool : ServerPool), pool.Reachable →
      PoolSpecRun env pool events from hrun events _ ServerPool.reachable_initial
  intro events
  induction events with
  | nil => exact fun _ _ => trivial
  | cons e events ih =>
    exact fun pool h => ⟨(h.poolStep e).2, ih _ (h.poolStep e).1⟩

end ChronyNts.KeyExchange
