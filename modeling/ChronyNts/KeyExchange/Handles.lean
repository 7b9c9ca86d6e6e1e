import ChronyNts.KeyExchange.Tracking
import ChronyNts.KeyExchange.ClientResponse

/-!
# Descriptors, sessions and the scheduler

`Instance.lean` keeps two flags for what an instance holds in the scheduler: whether
`read_write_socket` is the handler of a valid `sock_fd` (`registered`), and whether
`timeout_id ≠ 0` (`timeoutPending`).  Here the run also carries the fields behind them,
`sock_fd` and `session` (`NkeHandles`), with two logs: the descriptors the opens store
in `sock_fd`, and those `close_connection` passes to `close`.

Only four pieces of code write these fields: `NKE_CreateInstance`,
`NKE_OpenClientConnection`, `accept_server_connection` and `close_connection`.  The
first three are translated as they are (`openClientHandles`, `acceptServerHandles`);
`close_connection` runs inside the socket handler and the session timeout, and there
it runs on an open instance exactly when the event takes the instance from open to
`KE_CLOSED` (`nkeStep_keepsOrCloses`), which is when the run applies
`closeConnectionHandles`.

Along every run (`handles_run_invariant`) an open instance is a client or a server
(not a server waiting to connect), with its handler on a valid descriptor, a session
and a pending timeout, and a closed one has `sock_fd = INVALID_SOCK_FD`, no handler and
no timeout.  So the scheduler only calls `read_write_socket` in a state it handles, and
`update_state` in a mode and state it handles: neither reaches its `assert (0)`.  The
logs show that `close_connection` closes every stored descriptor once, in order, and
nothing else.
-/

namespace ChronyNts.KeyExchange

/-! ## How an event closes an instance -/

/-- What an event does to an open instance when it does not close it, and how it
closes it otherwise: the instance stays open with its handler and its timeout as they
were, or the event ends in `close_connection` on an open instance. -/
def KeepsOrCloses (inst r : NkeInstance) : Prop :=
  r.state ≠ .closed ∧ r.registered = inst.registered ∧ r.timeoutPending = inst.timeoutPending ∨
    ∃ mid, mid.state ≠ .closed ∧ r = closeConnection mid

theorem KeepsOrCloses.of_kept {inst mid r : NkeInstance}
    (hr : mid.registered = inst.registered) (ht : mid.timeoutPending = inst.timeoutPending)
    (h : KeepsOrCloses mid r) : KeepsOrCloses inst r := by
  rcases h with ⟨h1, h2, h3⟩ | h
  · exact .inl ⟨h1, h2.trans hr, h3.trans ht⟩
  · exact .inr h

theorem updateState_keepsOrCloses (env : KeEnv) (io : Io) {inst : NkeInstance}
    (hs : inst.state ≠ .closed) : KeepsOrCloses inst (updateState env io inst) := by
  obtain ⟨mode, state, registered, output, timeoutPending, message, addr⟩ := inst
  cases mode <;> cases state <;> simp only [updateState] <;> (try repeat' split) <;>
    first
    | exact absurd rfl hs
    | exact .inr ⟨_, by simp, rfl⟩
    | exact .inl ⟨by simp [NkeInstance.advance], rfl, rfl⟩

theorem readWriteSocket_keepsOrCloses (env : KeEnv) (io : Io) (event : FileEvent)
    {inst : NkeInstance} (hs : inst.state ≠ .closed) :
    KeepsOrCloses inst (readWriteSocket env io event inst) := by
  have update : ∀ mid : NkeInstance, mid.state = inst.state → mid.registered = inst.registered →
      mid.timeoutPending = inst.timeoutPending → KeepsOrCloses inst (updateState env io mid) :=
    fun mid h1 h2 h3 => (updateState_keepsOrCloses env io (h1 ▸ hs)).of_kept h2 h3
  unfold readWriteSocket
  split <;> rename_i hst
  · split_ifs
    · exact .inl ⟨hs, rfl, rfl⟩
    · exact .inr ⟨_, hs, rfl⟩
    · exact update inst rfl rfl rfl
  · split
    · exact update inst rfl rfl rfl
    · exact .inl ⟨hs, rfl, rfl⟩
    · exact .inr ⟨_, hs, rfl⟩
  · split
    · split
      · exact .inr ⟨_, hs, rfl⟩
      · exact .inl ⟨hs, rfl, rfl⟩
    · dsimp only
      split
      · exact .inl ⟨hs, rfl, rfl⟩
      · exact update _ rfl rfl rfl
  · obtain ⟨m, he | he | he⟩ := receiveLoop_shape inst io.recv io.pending <;> simp only [he]
    · exact update _ rfl rfl rfl
    · exact .inl ⟨hs, rfl, rfl⟩
    · exact .inr ⟨{ inst with message := m }, hs, rfl⟩
  · split
    · exact update inst rfl rfl rfl
    · exact .inl ⟨hs, rfl, rfl⟩
    · exact .inr ⟨_, hs, rfl⟩
  · exact absurd hst hs

/-- A socket event or the session timeout on an open instance keeps it open with its
handler and timeout, or closes it through `close_connection`. -/
theorem nkeStep_keepsOrCloses (env : KeEnv) {inst : NkeInstance} (hs : inst.state ≠ .closed)
    {e : NkeEvent} (he : e.IsConnection) : KeepsOrCloses inst (nkeStep env inst e) := by
  cases e with
  | socket event io =>
    simp only [nkeStep]
    split_ifs
    · exact readWriteSocket_keepsOrCloses env io event hs
    · exact .inl ⟨hs, rfl, rfl⟩
  | timeout =>
    simp only [nkeStep]
    split_ifs
    · exact .inr ⟨{ inst with timeoutPending := false }, hs, rfl⟩
    · exact .inl ⟨hs, rfl, rfl⟩
  | _ => exact he.elim

/-- `update_state` is called, inside the handler, on an instance of the same mode and
state as the one the handler was called on. -/
theorem IoDone.mode_state {io : Io} {event : FileEvent} {inst mid : NkeInstance}
    (hwf : inst.Wf) (hreg : inst.registered = true) (h : IoDone io event inst mid) :
    mid.mode = inst.mode ∧ mid.state = inst.state := by
  unfold IoDone at h
  split at h
  · rw [h.2.2]; exact ⟨rfl, rfl⟩
  · rw [h.2]; exact ⟨rfl, rfl⟩
  · obtain ⟨r, -, -, rfl⟩ := h; exact ⟨rfl, rfl⟩
  · obtain ⟨-, hm, hcase⟩ := receiveLoop_cases hwf hreg io.recv io.pending
    rw [h] at hm hcase
    exact ⟨hm, (hcase.resolve_right (by simp)).1⟩
  · rw [h.2]; exact ⟨rfl, rfl⟩
  · exact h.elim

/-! ## The resource fields -/

/-- `INVALID_SOCK_FD`. -/
@[simp] def invalidSockFd : Int := -4

/-- `sock_fd` and `session` of `struct NKE_Instance_Record`; a session is a handle, and
`none` is `NULL`. -/
structure NkeHandles where
  sockFd : Int
  session : Option Nat
deriving DecidableEq, Repr

/-- Their values from `NKE_CreateInstance`. -/
def NkeHandles.init : NkeHandles := ⟨invalidSockFd, none⟩

/-- `NKE_OpenClientConnection` on the fields of a closed instance, given the descriptor
`prepare_socket` returned (`none` for `INVALID_SOCK_FD`) and the session
`create_session` returned: the descriptor stored in `sock_fd`, if any, and the fields
after.  The old session is released and replaced by the new one, also when that is
`NULL`; the function then closes the descriptor itself, leaving `sock_fd`. -/
def openClientHandles (h : NkeHandles) (sockFd session : Option Nat) : Option Int × NkeHandles :=
  match sockFd, session with
  | none, _ => (none, h)
  | some _, none => (none, { h with session := none })
  | some fd, some s => (some fd, ⟨fd, some s⟩)

/-- `accept_server_connection` on the fields of a closed instance, given the descriptor
`accept` returned and the session `create_session` returned: the old session is
released and set to `NULL` first. -/
def acceptServerHandles (h : NkeHandles) (sockFd : Nat) (session : Option Nat) :
    Option Int × NkeHandles :=
  match session with
  | none => (none, { h with session := none })
  | some s => (some sockFd, ⟨sockFd, some s⟩)

/-- `close_connection` on the fields of an instance in `state`: the descriptor it passes
to `close`, if any, and the fields after. -/
def closeConnectionHandles (state : NtsKeState) (h : NkeHandles) : Option Int × NkeHandles :=
  if state = .closed then (none, h)
  else if h.sockFd ≠ invalidSockFd then (some h.sockFd, { h with sockFd := invalidSockFd })
  else (none, h)

/-! ## Runs with the resource fields -/

/-- An event with what the environment returned for the resources it creates: for
`NKE_OpenClientConnection` the descriptor of `prepare_socket` (`none` for
`INVALID_SOCK_FD`) and the session of `create_session`, for `accept_server_connection`
the descriptor of `accept` and the session of `create_session`. -/
inductive HandleEvent
  | openConnection (addr : IPAddr) (sockFd session : Option Nat)
  | acceptConnection (sockFd : Nat) (session : Option Nat)
  | socket (event : FileEvent) (io : Io)
  | timeout

/-- The event as the instance sees it: an open succeeds when its resources were
created. -/
def HandleEvent.toNkeEvent : HandleEvent → NkeEvent
  | .openConnection addr sockFd session => .openConnection addr (sockFd.isSome && session.isSome)
  | .acceptConnection _ session => .acceptConnection session.isSome
  | .socket event io => .socket event io
  | .timeout => .timeout

/-- The resource fields with two logs: the descriptors stored in `sock_fd`, and those
`close_connection` closed, in order. -/
structure HandleLog where
  handles : NkeHandles
  stored : List Int
  closed : List Int

/-- How an event from `inst` to `inst'` changes the fields and the logs: an open of a
closed instance as translated above, and `close_connection` when the event takes the
instance to `KE_CLOSED`. -/
def handleStep (inst : NkeInstance) : HandleEvent → NkeInstance → HandleLog → HandleLog
  | .openConnection _ sockFd session, _, g =>
    if inst.state = .closed then
      { g with handles := (openClientHandles g.handles sockFd session).2,
               stored := g.stored ++ (openClientHandles g.handles sockFd session).1.toList }
    else g
  | .acceptConnection sockFd session, _, g =>
    if inst.state = .closed then
      { g with handles := (acceptServerHandles g.handles sockFd session).2,
               stored := g.stored ++ (acceptServerHandles g.handles sockFd session).1.toList }
    else g
  | _, inst', g =>
    if inst'.state = .closed then
      { g with handles := (closeConnectionHandles inst.state g.handles).2,
               closed := g.closed ++ (closeConnectionHandles inst.state g.handles).1.toList }
    else g

/-- The run of an instance from `NKE_CreateInstance` with its resource fields and logs. -/
def handlesRun (env : KeEnv) (events : List HandleEvent) : NkeInstance × HandleLog :=
  ghostRun env HandleEvent.toNkeEvent handleStep (nkeCreateInstance, ⟨NkeHandles.init, [], []⟩)
    events

/-- The resource invariant. -/
structure HandlesInv (inst : NkeInstance) (g : HandleLog) : Prop where
  wf : inst.Wf
  timeout_iff : inst.timeoutPending = true ↔ inst.state ≠ .closed
  open_handles : inst.state ≠ .closed → 0 ≤ g.handles.sockFd ∧ g.handles.session.isSome
  closed_fd : inst.state = .closed → g.handles.sockFd = invalidSockFd
  logs : g.stored = g.closed ++ if inst.state = .closed then [] else [g.handles.sockFd]

theorem handlesInv_init : HandlesInv nkeCreateInstance ⟨NkeHandles.init, [], []⟩ :=
  ⟨wf_nkeCreateInstance, by decide, fun h => absurd rfl h, fun _ => rfl, rfl⟩

section Step

variable (env : KeEnv) {inst : NkeInstance} {g : HandleLog}

/-- An open of a closed instance: it fails and leaves the instance and `sock_fd`, or it
stores the new descriptor and a session and registers the handler and the timeout. -/
theorem handlesInv_of_open (h : HandlesInv inst g) (hc : inst.state = .closed)
    {inst' : NkeInstance} {g' : HandleLog} (hwf : inst'.Wf)
    (hcases : (inst' = inst ∧ g'.handles.sockFd = g.handles.sockFd ∧ g'.stored = g.stored ∧
        g'.closed = g.closed) ∨
      ∃ fd : Nat, inst'.state ≠ .closed ∧ inst'.timeoutPending = true ∧
        g'.handles.sockFd = fd ∧ g'.handles.session.isSome ∧ g'.stored = g.stored ++ [(fd : Int)] ∧
        g'.closed = g.closed) :
    HandlesInv inst' g' := by
  have hlogs : g.stored = g.closed := by simpa [hc] using h.logs
  rcases hcases with ⟨rfl, hfd, hst, hcl⟩ | ⟨fd, hopen, ht, hfd, hses, hst, hcl⟩
  · exact ⟨hwf, h.timeout_iff, fun h' => absurd hc h', fun _ => hfd ▸ h.closed_fd hc,
      by simp [hc, hst, hcl, hlogs]⟩
  · refine ⟨hwf, iff_of_true ht hopen, fun _ => ⟨by omega, hses⟩, fun h' => absurd h' hopen, ?_⟩
    rw [if_neg hopen, hst, hcl, hlogs, hfd]

/-- `handleStep` on an open event. -/
theorem handlesInv_openConnection (h : HandlesInv inst g) (addr : IPAddr)
    (sockFd session : Option Nat) :
    HandlesInv (nkeStep env inst (HandleEvent.openConnection addr sockFd session).toNkeEvent)
      (handleStep inst (.openConnection addr sockFd session)
        (nkeStep env inst (HandleEvent.openConnection addr sockFd session).toNkeEvent) g) := by
  have hwf := (nkeStep_spec env h.wf (HandleEvent.openConnection addr sockFd session).toNkeEvent).1
  simp only [HandleEvent.toNkeEvent, handleStep, nkeStep] at hwf ⊢
  by_cases hc : inst.state = .closed
  · rw [if_pos hc] at hwf ⊢
    rw [if_pos hc]
    refine handlesInv_of_open h hc hwf ?_
    cases sockFd with
    | none => exact .inl ⟨rfl, rfl, by simp [openClientHandles], rfl⟩
    | some fd =>
      cases session with
      | none => exact .inl ⟨rfl, rfl, by simp [openClientHandles], rfl⟩
      | some s => exact .inr ⟨fd, by simp [nkeOpenClientConnection], rfl, rfl, rfl,
          by simp [openClientHandles], rfl⟩
  · rw [if_neg hc, if_neg hc]
    exact h

/-- `handleStep` on an accepted connection. -/
theorem handlesInv_acceptConnection (h : HandlesInv inst g) (sockFd : Nat)
    (session : Option Nat) :
    HandlesInv (nkeStep env inst (HandleEvent.acceptConnection sockFd session).toNkeEvent)
      (handleStep inst (.acceptConnection sockFd session)
        (nkeStep env inst (HandleEvent.acceptConnection sockFd session).toNkeEvent) g) := by
  have hwf := (nkeStep_spec env h.wf (HandleEvent.acceptConnection sockFd session).toNkeEvent).1
  simp only [HandleEvent.toNkeEvent, handleStep, nkeStep] at hwf ⊢
  by_cases hc : inst.state = .closed
  · rw [if_pos hc] at hwf ⊢
    rw [if_pos hc]
    refine handlesInv_of_open h hc hwf ?_
    rcases session with _ | s
    · exact .inl ⟨rfl, rfl, by simp [acceptServerHandles], rfl⟩
    · exact .inr ⟨sockFd, by simp [acceptServerConnection], rfl, rfl, rfl,
        by simp [acceptServerHandles], rfl⟩
  · rw [if_neg hc, if_neg hc]
    exact h

/-- A socket event or the timeout: nothing on a closed instance; on an open one, nothing
or `close_connection`. -/
theorem handlesInv_connection (h : HandlesInv inst g) {e : HandleEvent}
    (he : e.toNkeEvent.IsConnection) :
    HandlesInv (nkeStep env inst e.toNkeEvent)
      (handleStep inst e (nkeStep env inst e.toNkeEvent) g) := by
  have hwf := (nkeStep_spec env h.wf e.toNkeEvent).1
  have hg : handleStep inst e (nkeStep env inst e.toNkeEvent) g =
      if (nkeStep env inst e.toNkeEvent).state = .closed then
        { g with handles := (closeConnectionHandles inst.state g.handles).2,
                 closed := g.closed ++ (closeConnectionHandles inst.state g.handles).1.toList }
      else g := by
    cases e <;> first | exact he.elim | rfl
  rw [hg]
  by_cases hc : inst.state = .closed
  · have hreg : inst.registered = false := by simpa [hc] using h.wf.registered_iff
    have ht : inst.timeoutPending = false := by simpa [hc] using h.timeout_iff
    have hsame : nkeStep env inst e.toNkeEvent = inst := by
      cases e <;> simp only [HandleEvent.toNkeEvent, nkeStep, hreg, ht] <;> first
        | exact he.elim
        | rfl
    rw [hsame, if_pos hc]
    simpa [closeConnectionHandles, hc] using h
  · rcases nkeStep_keepsOrCloses env hc he with ⟨hopen, hreg, ht⟩ | ⟨mid, hmid, hclose⟩
    · rw [if_neg hopen]
      exact ⟨hwf, by rw [ht]; exact h.timeout_iff.trans (iff_of_true hc hopen),
        fun _ => h.open_handles hc, fun h' => absurd h' hopen,
        by rw [if_neg hopen, h.logs, if_neg hc]⟩
    · have hfd : 0 ≤ g.handles.sockFd := (h.open_handles hc).1
      have hclosed : (nkeStep env inst e.toNkeEvent).state = .closed := by simp [hclose]
      have hlogs : g.stored = g.closed ++ [g.handles.sockFd] := by simpa [hc] using h.logs
      have hcch : closeConnectionHandles inst.state g.handles =
          (some g.handles.sockFd, { g.handles with sockFd := invalidSockFd }) := by
        rw [closeConnectionHandles, if_neg hc, if_pos (by simp; omega)]
      rw [if_pos hclosed, hcch]
      exact ⟨hwf, by simp [hclose, closeConnection, hmid], fun h' => absurd hclosed h',
        fun _ => rfl, by simp [hclosed, hlogs]⟩

theorem handlesInv_step (h : HandlesInv inst g) (e : HandleEvent) :
    HandlesInv (nkeStep env inst e.toNkeEvent) (handleStep inst e (nkeStep env inst e.toNkeEvent) g) := by
  cases e with
  | openConnection addr sockFd session => exact handlesInv_openConnection env h addr sockFd session
  | acceptConnection sockFd session => exact handlesInv_acceptConnection env h sockFd session
  | socket event io => exact handlesInv_connection env h trivial
  | timeout => exact handlesInv_connection env h trivial

end Step

/-! ## Along every run -/

/-- The `(mode, state)` pairs `update_state`'s `switch` has a case for; the others reach
its `assert (0)`. -/
def updateStateHandles : NtsKeMode → NtsKeState → Bool
  | .unknown, _ => false
  | _, .closed => false
  | _, _ => true

theorem updateStateHandles_eq_true {mode : NtsKeMode} {state : NtsKeState}
    (hm : mode ≠ .unknown) (hs : state ≠ .closed) : updateStateHandles mode state = true := by
  cases mode <;> cases state <;> first | rfl | contradiction

/-- For every run of an instance from `NKE_CreateInstance`, over any events, outcomes of
the set-up and answers of the socket and the TLS library: an open instance is a client
or a server (a server not in `KE_WAIT_CONNECT`) with its handler on a valid descriptor,
a session and a pending timeout; a closed one has `sock_fd = INVALID_SOCK_FD`, no
handler and no timeout.  So while the handler is registered the instance is in a state
`read_write_socket` handles, and `update_state` is only called in a mode and state it
handles.  The descriptors `close_connection` closed are those the opens stored, in
order, each once, all but the open instance's own. -/
theorem handles_run_invariant (env : KeEnv) (events : List HandleEvent) :
    let inst := (handlesRun env events).1
    let g := (handlesRun env events).2
    (inst.state ≠ .closed →
      (inst.mode = .server ∨ inst.mode = .client) ∧ (inst.mode = .server → inst.state ≠ .waitConnect) ∧
        inst.registered = true ∧ 0 ≤ g.handles.sockFd ∧ g.handles.session.isSome ∧
        inst.timeoutPending = true) ∧
    (inst.state = .closed →
      g.handles.sockFd = invalidSockFd ∧ inst.registered = false ∧ inst.timeoutPending = false) ∧
    (inst.registered = true → inst.state ≠ .closed ∧
      ∀ io event mid, IoDone io event inst mid → updateStateHandles mid.mode mid.state) ∧
    g.stored = g.closed ++ if inst.state = .closed then [] else [g.handles.sockFd] := by
  intro inst g
  have hinv : HandlesInv inst g :=
    ghostRun_induction env HandleEvent.toNkeEvent handleStep (P := fun s => HandlesInv s.1 s.2)
      (fun _ _ e h _ => handlesInv_step env h e) events _ handlesInv_init
      (eventsMeet_true env _ _ events)
  obtain ⟨hwf, ht, hhandles, hfd, hlogs⟩ := hinv
  have hmode : inst.state ≠ .closed → inst.mode = .server ∨ inst.mode = .client := fun hopen => by
    cases hm : inst.mode
    · exact absurd (hwf.unknown_closed hm) hopen
    · exact .inl rfl
    · exact .inr rfl
  refine ⟨fun hopen => ⟨hmode hopen, hwf.server_connected, hwf.registered_iff.mpr hopen,
      (hhandles hopen).1, (hhandles hopen).2, ht.mpr hopen⟩,
    fun hc => ⟨hfd hc, by simpa [hc] using hwf.registered_iff, by simpa [hc] using ht⟩,
    fun hreg => ⟨hwf.registered_iff.mp hreg, fun io event mid hdone => ?_⟩, hlogs⟩
  obtain ⟨hm, hs⟩ := hdone.mode_state hwf hreg
  have hopen := hwf.registered_iff.mp hreg
  rw [hm, hs]
  exact updateStateHandles_eq_true (fun hu => hopen (hwf.unknown_closed hu)) hopen

end ChronyNts.KeyExchange
