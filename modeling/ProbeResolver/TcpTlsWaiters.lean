import ProbeResolver.TcpTlsMachine

namespace ProbeResolver.TcpTls

/-!
# The waiter counter and the advisory idle close

`roundTrip` adds one to `users` before `r.mu.Lock()` and subtracts one right
after it, so `users` counts the callers parked on the mutex or just past it.
`CloseIdleConnections` reads `users` while it holds the mutex and closes the
connection only when it reads zero.

The counter is an `int32`, so what it tracks is the number of such callers
modulo `2 ^ 32`. It equals that number, and is not negative, while fewer than
`2 ^ 31` callers are between their two updates; a run that parks `2 ^ 31`
callers on the mutex makes it negative.
-/

/-- A caller between its increment and its decrement of `users`. -/
def Caller.pending (c : Caller) : Bool :=
  match c.pc with
  | .waitLock => true
  | .locked => true
  | _ => false

/-- The number of callers between their increment and decrement of `users`. -/
def pendingCount (s : State) : Nat :=
  s.callers.countP Caller.pending

/-- What every reachable state satisfies about `users` and the sentinel callers. -/
structure WaitersInv (s : State) : Prop where
  users_eq : s.users = BitVec.ofNat 32 (pendingCount s)
  sentinel : ∀ c ∈ s.callers, c.query = none → c.pc.sentinelPath

/-- Replacing one caller changes the count by the difference of the two flags. -/
theorem countP_pending_set {callers : List Caller} {i : Nat} {c : Caller}
    (found : callers[i]? = some c) (c' : Caller) :
    (callers.set i c').countP Caller.pending + (if c.pending then 1 else 0) =
      callers.countP Caller.pending + (if c'.pending then 1 else 0) := by
  obtain ⟨inBounds, rfl⟩ := List.getElem?_eq_some_iff.mp found
  have counted := List.boole_getElem_le_countP Caller.pending callers i inBounds
  rw [List.countP_set _ _ _ _ inBounds]
  omega

/-- Inside the locked section, past the decrement, a caller no longer counts. -/
theorem not_pending_of_holdsLock {pc : CallerPc} (holds : pc.holdsLock) (past : pc ≠ .locked)
    (c : Caller) (atPc : c.pc = pc) : c.pending = false := by
  cases pc <;> simp_all [Caller.pending, CallerPc.holdsLock]

/-- One increment of the counter, in `int32` arithmetic. -/
theorem ofNat_succ (n : Nat) : BitVec.ofNat 32 (n + 1) = BitVec.ofNat 32 n + 1 :=
  BitVec.ofNat_add n 1

/-- Every step keeps the counter equal to the number of pending callers, modulo `2 ^ 32`. -/
theorem users_eq_of_move {s s' : State} {i : Nat} {c c' : Caller}
    (counted : s.users = BitVec.ofNat 32 (s.callers.countP Caller.pending))
    (found : s.callers[i]? = some c) (move : CallerMove i c c' s s') :
    s'.users = BitVec.ofNat 32 ((s.callers.set i c').countP Caller.pending) := by
  have recount := countP_pending_set found c'
  cases move with
  | increment atEntry atWait users _ =>
      simp only [Caller.pending, atEntry, atWait, Bool.false_eq_true, ↓reduceIte] at recount
      rw [users, counted, ← ofNat_succ]
      congr 1
      omega
  | acquire atWait atLocked _ _ users =>
      simp only [Caller.pending, atWait, atLocked, Bool.false_eq_true, ↓reduceIte] at recount
      rw [users, counted]
      congr 1
      omega
  | decrement atLocked atRtrip users _ =>
      simp only [Caller.pending, atLocked, atRtrip, Bool.false_eq_true, ↓reduceIte] at recount
      rw [users, counted, show s.callers.countP Caller.pending =
        (s.callers.set i c').countP Caller.pending + 1 by omega, ofNat_succ, BitVec.add_sub_cancel]
  | release out atUnlock atDone _ users =>
      simp only [Caller.pending, atUnlock, atDone, Bool.false_eq_true, ↓reduceIte] at recount
      rw [users, counted]
      congr 1
      omega
  | inner notLocked holds holds' notLocked' _ users _ =>
      simp only [not_pending_of_holdsLock holds notLocked c rfl,
        not_pending_of_holdsLock holds' notLocked' c' rfl, Bool.false_eq_true, ↓reduceIte] at recount
      rw [users, counted]
      congr 1
      omega
  | stay samePc users _ =>
      simp only [Caller.pending, samePc, Nat.add_right_cancel_iff] at recount
      rw [users, counted, recount]

/-- A sentinel caller's move keeps it on the sentinel path. -/
theorem sentinelPath_of_move {s s' : State} {i : Nat} {c c' : Caller}
    (move : CallerMove i c c' s s') (sentinel : c.query = none) (onPath : c.pc.sentinelPath) :
    c'.pc.sentinelPath := by
  cases move with
  | increment _ atWait _ _ => simp [atWait, CallerPc.sentinelPath]
  | acquire _ atLocked _ _ _ => simp [atLocked, CallerPc.sentinelPath]
  | decrement _ atRtrip _ _ => simp [atRtrip, CallerPc.sentinelPath]
  | release out atUnlock atDone _ _ =>
      simpa [atUnlock, atDone, CallerPc.sentinelPath] using onPath
  | inner _ _ _ _ staysOnPath _ _ => exact staysOnPath sentinel onPath
  | stay samePc _ _ => rwa [samePc]

/-- The new resolver satisfies the invariant. -/
theorem waitersInv_initial : WaitersInv initial :=
  ⟨rfl, by simp [initial]⟩

/-- Every step preserves the invariant. -/
theorem waitersInv_step {server : Server} {s s' : State} {e : Event} (inv : WaitersInv s)
    (stepped : step server s e = some s') : WaitersInv s' := by
  obtain ⟨counted, sentinel⟩ := inv
  cases step_callerEffect stepped with
  | frame callers users _ =>
      exact ⟨by simp only [users, counted, pendingCount, callers], callers ▸ sentinel⟩
  | spawn query callers users _ =>
      refine ⟨by simp [users, counted, pendingCount, callers, Caller.pending], ?_⟩
      rw [callers]
      intro c member
      rcases List.mem_append.mp member with old | new
      · exact sentinel c old
      · simp at new
        simp [new, CallerPc.sentinelPath]
  | move i c c' found callers sameQuery move =>
      refine ⟨by rw [pendingCount, callers]; exact users_eq_of_move counted found move, ?_⟩
      rw [callers]
      intro d member
      rcases List.mem_or_eq_of_mem_set member with old | rfl
      · exact sentinel d old
      · intro noQuery
        exact sentinelPath_of_move move (sameQuery ▸ noQuery)
          (sentinel c (List.mem_iff_getElem?.mpr ⟨i, found⟩) (sameQuery ▸ noQuery))

/-- Every reachable state satisfies the invariant. -/
theorem waitersInv_of_reachable {server : Server} {s : State} (reachable : Reachable server s) :
    WaitersInv s :=
  reachable.invariant waitersInv_initial fun _ _ _ inv stepped => waitersInv_step inv stepped

/-! ## The counter as an `int32`, and the idle close -/

/-- Read as an `int32`, a count below `2 ^ 31` is itself. -/
theorem toInt_ofNat_of_lt {n : Nat} (small : n < 2 ^ 31) : (BitVec.ofNat 32 n).toInt = n := by
  rw [BitVec.toInt_eq_toNat_cond, BitVec.toNat_ofNat, Nat.mod_eq_of_lt (by omega),
    if_pos (by omega)]

/-- The counter reads zero exactly when the count is a multiple of `2 ^ 32`. -/
theorem ofNat_eq_zero_iff (n : Nat) : BitVec.ofNat 32 n = 0 ↔ n % 2 ^ 32 = 0 := by
  rw [BitVec.toNat_eq, BitVec.toNat_ofNat]
  rfl

/--
The sentinel check of `CloseIdleConnections`: it closes the connection and sets
`conn` to `nil` exactly when the pending callers, all of them others, number a
multiple of `2 ^ 32` and `conn` is set; it then goes straight to `Unlock`.
-/
theorem closeIdle_step {server : Server} {s : State} {i : Nat} {c : Caller}
    (inv : WaitersInv s) (running : s.panicked = false) (found : s.callers[i]? = some c)
    (sentinel : c.query = none) (atCheck : c.pc = .rtrip) :
    step server s (.caller i) =
      some ((if pendingCount s % 2 ^ 32 = 0 ∧ s.conn.isSome then s.closeConn else s).setCaller i
        { c with pc := .unlock ([], none) }) := by
  simp only [step, running, Bool.false_eq_true, ↓reduceIte, found, callerStep, atCheck, sentinel,
    inv.users_eq, ofNat_eq_zero_iff]

/--
In every reachable state `users` is the number of callers between their
increment and decrement modulo `2 ^ 32`, hence that number, not negative,
while it is below `2 ^ 31`; a `CloseIdleConnections` call never leaves the
sentinel path (it never dials, and starts no goroutine that writes or reads),
and its check closes the connection and sets `conn` to `nil` exactly when
`conn` is set and the other pending callers number a multiple of `2 ^ 32`.
-/
theorem users_counts_pending_callers {server : Server} {s : State}
    (reachable : Reachable server s) :
    s.users = BitVec.ofNat 32 (pendingCount s) ∧
    (pendingCount s < 2 ^ 31 → s.users.toInt = pendingCount s) ∧
    (∀ c ∈ s.callers, c.query = none → c.pc.sentinelPath) ∧
    (∀ i c, s.panicked = false → s.callers[i]? = some c → c.query = none → c.pc = .rtrip →
      step server s (.caller i) =
        some ((if pendingCount s % 2 ^ 32 = 0 ∧ s.conn.isSome then s.closeConn else s).setCaller i
          { c with pc := .unlock ([], none) })) := by
  have inv := waitersInv_of_reachable reachable
  refine ⟨inv.users_eq, fun small => ?_, inv.sentinel, fun i c running found sentinel atCheck =>
    closeIdle_step inv running found sentinel atCheck⟩
  rw [inv.users_eq, toInt_ofNat_of_lt small]

/-- After the echo call, a `CloseIdleConnections` call takes the mutex and reaches its check. -/
def closeIdleAloneRun : List Event :=
  echoCallRun ++ [.call none, .caller 1, .caller 1, .caller 1]

/-- After the echo call, a second call parks on the mutex after its increment, and a
`CloseIdleConnections` call takes the mutex first and reaches its check. -/
def closeIdleBusyRun : List Event :=
  echoCallRun ++ [.call (some [2]), .caller 1, .call none, .caller 2, .caller 2, .caller 2]

/-- The counter contract where a `CloseIdleConnections` call is at its check: alone, it closes
`conn` 0; with another call pending, it leaves the connection open. -/
theorem users_counts_pending_callers_close_idle :
    (∃ s, run echoServer initial closeIdleAloneRun = some s ∧
      s.callers[1]? = some { query := none, cancelled := false, pc := .rtrip } ∧
      s.panicked = false ∧ pendingCount s = 0 ∧ s.conn = some 0 ∧
      (s.users = BitVec.ofNat 32 (pendingCount s) ∧
      (pendingCount s < 2 ^ 31 → s.users.toInt = pendingCount s) ∧
      (∀ c ∈ s.callers, c.query = none → c.pc.sentinelPath) ∧
      (∀ i c, s.panicked = false → s.callers[i]? = some c → c.query = none → c.pc = .rtrip →
        step echoServer s (.caller i) =
          some ((if pendingCount s % 2 ^ 32 = 0 ∧ s.conn.isSome then s.closeConn else s).setCaller i
            { c with pc := .unlock ([], none) })))) ∧
    (∃ s, run echoServer initial closeIdleBusyRun = some s ∧
      s.callers[2]? = some { query := none, cancelled := false, pc := .rtrip } ∧
      s.panicked = false ∧ pendingCount s = 1 ∧ s.conn = some 0 ∧
      (s.users = BitVec.ofNat 32 (pendingCount s) ∧
      (pendingCount s < 2 ^ 31 → s.users.toInt = pendingCount s) ∧
      (∀ c ∈ s.callers, c.query = none → c.pc.sentinelPath) ∧
      (∀ i c, s.panicked = false → s.callers[i]? = some c → c.query = none → c.pc = .rtrip →
        step echoServer s (.caller i) =
          some ((if pendingCount s % 2 ^ 32 = 0 ∧ s.conn.isSome then s.closeConn else s).setCaller i
            { c with pc := .unlock ([], none) })))) := by
  constructor
  · obtain ⟨s, ran, atCheck⟩ := @exists_of_run_any echoServer
      (fun s => s.callers[1]? == some { query := none, cancelled := false, pc := .rtrip } &&
        !s.panicked && pendingCount s == 0 && s.conn == some 0) initial closeIdleAloneRun (by decide)
    simp only [Bool.and_eq_true, beq_iff_eq, Bool.not_eq_true'] at atCheck
    obtain ⟨⟨⟨sentinel, running⟩, none⟩, conn⟩ := atCheck
    exact ⟨s, ran, sentinel, running, none, conn, users_counts_pending_callers ⟨_, ran⟩⟩
  · obtain ⟨s, ran, atCheck⟩ := @exists_of_run_any echoServer
      (fun s => s.callers[2]? == some { query := none, cancelled := false, pc := .rtrip } &&
        !s.panicked && pendingCount s == 1 && s.conn == some 0) initial closeIdleBusyRun (by decide)
    simp only [Bool.and_eq_true, beq_iff_eq, Bool.not_eq_true'] at atCheck
    obtain ⟨⟨⟨sentinel, running⟩, one⟩, conn⟩ := atCheck
    exact ⟨s, ran, sentinel, running, one, conn, users_counts_pending_callers ⟨_, ran⟩⟩

/-! ## Overflow -/

/-- A caller parked on the mutex after its increment. -/
def parkedCaller : Caller :=
  { query := some [], cancelled := false, pc := .waitLock }

/-- `n` callers parked on the mutex, each counted once. -/
def parkedState (n : Nat) : State :=
  { initial with users := BitVec.ofNat 32 n, callers := List.replicate n parkedCaller }

/-- One more caller arrives and increments. -/
theorem parkedState_succ (server : Server) (n : Nat) :
    run server (parkedState n) [.call (some []), .caller n] = some (parkedState (n + 1)) := by
  have arrived : (List.replicate n parkedCaller ++
      [{ query := some [], cancelled := false, pc := .entry }])[n]? =
      some { query := some [], cancelled := false, pc := .entry } := by
    rw [List.getElem?_append_right (by simp)]
    simp
  simp only [run, step, parkedState, initial, Bool.false_eq_true, ↓reduceIte, Option.some_bind,
    arrived, callerStep, State.setCaller]
  rw [List.set_append_right _ _ (by simp), List.length_replicate, Nat.sub_self, ofNat_succ]
  simp [List.replicate_succ', parkedCaller]

/-- Any number of callers can be parked on the mutex at once. -/
theorem parkedState_reachable (server : Server) : ∀ n, Reachable server (parkedState n)
  | 0 => ⟨[], rfl⟩
  | n + 1 => by
      obtain ⟨events, ran⟩ := parkedState_reachable server n
      exact ⟨events ++ [.call (some []), .caller n], by
        rw [run_append, ran, Option.some_bind, parkedState_succ]⟩

/-- `2 ^ 31` increments make the `int32` counter negative. -/
theorem parkedState_users_negative : (parkedState (2 ^ 31)).users.toInt < 0 := by
  simp only [parkedState]
  decide

/-- With `2 ^ 31` callers parked on the mutex, `users` reads as a negative `int32`. -/
theorem users_negative_with_many_waiters :
    ∃ s, Reachable echoServer s ∧ pendingCount s = 2 ^ 31 ∧ s.users.toInt < 0 := by
  refine ⟨parkedState (2 ^ 31), parkedState_reachable echoServer _, ?_, parkedState_users_negative⟩
  rw [pendingCount, parkedState, List.countP_replicate]
  rfl

end ProbeResolver.TcpTls
