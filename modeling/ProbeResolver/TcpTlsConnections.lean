import ProbeResolver.TcpTlsExclusion

namespace ProbeResolver.TcpTls

/-!
# No leaked connection

`maybeDial` dials only when `r.conn` is `nil`, `forceDial` closes `r.conn`
before it dials again, and `CloseIdleConnections` closes `r.conn` and sets it
to `nil` in one go. All three run under `r.mu`, so no other caller can set
`r.conn` between the check and the dial.

`ConnInv` is what follows: the open connections are `r.conn` and no other, so
every connection dialed before the current one has been closed, and `r.conn`
is never a closed connection. It holds in every reachable state, whatever the
interleaving, including the runs in which a cancelled call leaves its
goroutine running on a connection that has since been closed.
-/

/-- The open connections are `conn` and no other: connection `n` was dialed and is open exactly
when `conn` names it. -/
def OnlyOpen (conn : Option Nat) (conns : List Conn) : Prop :=
  ∀ n, (conns.map Conn.closed)[n]? = some false ↔ conn = some n

/-- What every reachable state satisfies about the connections. -/
structure ConnInv (s : State) : Prop where
  mutex : MutexInv s
  onlyOpen : OnlyOpen s.conn s.conns
  /-- A caller about to dial holds no connection: `maybeDial` saw `nil`, or `forceDial`
  closed it. -/
  dialing : ∀ (i : Nat) (c : Caller) (a : Attempt), s.callers[i]? = some c →
    c.pc = .dial a → s.conn = none

/-! ## What closing and dialing do -/

/-- `r.conn.Close(); r.conn = nil` leaves no connection open. -/
theorem OnlyOpen.closeConn {s : State} (only : OnlyOpen s.conn s.conns) :
    OnlyOpen s.closeConn.conn s.closeConn.conns := by
  intro m
  simp only [State.closeConn_conn, reduceCtorEq, iff_false]
  intro isOpen
  unfold State.closeConn at isOpen
  split at isOpen
  · rename_i n current
    have atCurrent : (s.conns.map Conn.closed)[m]? = some false → m = n := fun wasOpen =>
      Option.some_inj.mp (((only m).mp wasOpen).symm.trans current)
    split at isOpen
    · rename_i c found
      have closedFound : (s.conns.map Conn.closed)[n]? = some c.closed := by
        simp [List.getElem?_map, found]
      rw [State.setConn, List.map_set, getElem?_set_of_found closedFound] at isOpen
      split at isOpen
      · cases isOpen
      · exact ‹¬m = n› (atCurrent isOpen)
    · rename_i missing
      have same := atCurrent isOpen
      subst same
      simp [List.getElem?_map, missing] at isOpen
  · rename_i current
    exact absurd ((only m).mp isOpen) (by simp [current])

/-- Dialing with no connection held opens the new one and only it. -/
theorem OnlyOpen.dial {conns : List Conn} (only : OnlyOpen none conns) :
    OnlyOpen (some conns.length) (conns ++ [Conn.fresh]) := by
  intro m
  rw [List.map_append, List.map_singleton, getElem?_concat_eq_some, List.length_map,
    Option.some_inj, only m]
  simp [Conn.fresh, eq_comm]

/-! ## Every step keeps `ConnInv` -/

theorem connInv_initial : ConnInv initial where
  mutex := mutexInv_initial
  onlyOpen := by simp [OnlyOpen, initial]
  dialing := by simp [initial]

/-- A step that moves no caller and touches neither `r.conn` nor a `closed` flag keeps
`ConnInv`. -/
theorem ConnInv.of_frame {s s' : State} (inv : ConnInv s) (mutex : MutexInv s')
    (callers : s'.callers = s.callers) (conn : s'.conn = s.conn)
    (closed : s'.conns.map Conn.closed = s.conns.map Conn.closed) : ConnInv s' where
  mutex := mutex
  onlyOpen := by
    unfold OnlyOpen
    rw [conn, closed]
    exact inv.onlyOpen
  dialing := by
    rw [callers, conn]
    exact inv.dialing

/-- A move of caller `i` keeps `ConnInv` when it leaves the connections as `OnlyOpen` says,
changes `r.conn` only from inside the locked section, and reaches `dial` only without a
connection. -/
theorem ConnInv.of_callerMove {s s' : State} (inv : ConnInv s) (mutex : MutexInv s')
    {i : Nat} {c c' : Caller} (found : s.callers[i]? = some c)
    (callers : s'.callers = s.callers.set i c') (onlyOpen : OnlyOpen s'.conn s'.conns)
    (changes : s'.conn ≠ s.conn → c.pc.holdsLock = true)
    (dials : ∀ a, c'.pc = .dial a → s'.conn = none) : ConnInv s' where
  mutex := mutex
  onlyOpen := onlyOpen
  dialing := by
    intro j d a found' atDial
    rw [callers, getElem?_set_of_found found] at found'
    split at found'
    · cases found'
      exact dials a atDial
    · rename_i other
      by_cases same : s'.conn = s.conn
      · rw [same]
        exact inv.dialing j d a found' atDial
      · exact absurd (inv.mutex.unique found (changes same) found'
          (by simp [atDial, CallerPc.holdsLock])).symm other

/-- Every caller step keeps `ConnInv`. -/
theorem connInv_callerStep {s s' : State} (inv : ConnInv s) (mutex : MutexInv s') {i : Nat}
    {c : Caller} (found : s.callers[i]? = some c) (stepped : callerStep s i c = some s') :
    ConnInv s' := by
  unfold callerStep at stepped
  split at stepped
  case h_1 | h_3 =>
      cases stepped
      exact inv.of_callerMove mutex found rfl inv.onlyOpen (absurd rfl) (by simp_all)
  case h_2 =>
      split at stepped <;> cases stepped
      exact inv.of_callerMove mutex found rfl inv.onlyOpen (absurd rfl) (by simp_all)
  case h_4 atRtrip =>
      have holds : c.pc.holdsLock = true := by simp [atRtrip, CallerPc.holdsLock]
      split at stepped <;> cases stepped
      · by_cases closing : s.users = 0 ∧ s.conn.isSome = true
        · simp only [closing, and_self, ↓reduceIte] at mutex ⊢
          exact inv.of_callerMove mutex found (by rw [State.setCaller, State.closeConn_callers])
            inv.onlyOpen.closeConn (fun _ => holds) (by simp)
        · simp only [closing, ↓reduceIte] at mutex ⊢
          exact inv.of_callerMove mutex found rfl inv.onlyOpen (absurd rfl) (by simp)
      · refine inv.of_callerMove mutex found rfl inv.onlyOpen (absurd rfl) ?_
        intro a atDial
        split at atDial
        · cases atDial
        · rename_i noConn
          simpa using noConn
  case h_5 attempt atDial =>
      cases stepped
      have noConn := inv.dialing i c attempt found atDial
      have onlyOpen : OnlyOpen none s.conns := by
        rw [← noConn]
        exact inv.onlyOpen
      exact inv.of_callerMove mutex found rfl onlyOpen.dial
        (fun _ => by simp [atDial, CallerPc.holdsLock]) (by simp)
  case h_6 =>
      split at stepped <;> cases stepped
      exact inv.of_callerMove mutex found rfl inv.onlyOpen (absurd rfl) (by simp)
  case h_7 =>
      split at stepped <;> cases stepped
      rename_i out _
      refine inv.of_callerMove mutex found rfl inv.onlyOpen (absurd rfl) ?_
      intro a atDial
      exact absurd atDial (by unfold afterTry; split <;> (try split) <;> simp)
  case h_8 atRedial =>
      cases stepped
      exact inv.of_callerMove mutex found (by rw [State.setCaller, State.closeConn_callers])
        inv.onlyOpen.closeConn (fun _ => by simp [atRedial, CallerPc.holdsLock]) (by simp)
  case h_9 =>
      cases stepped
      exact inv.of_callerMove mutex found rfl inv.onlyOpen (absurd rfl) (by simp)
  case h_10 =>
      cases stepped

/-- Goroutine steps leave the callers, `r.conn` and the connections' `closed` flags alone. -/
theorem taskStep_conns {s s' : State} {k : Nat} {t : Task} (stepped : taskStep s k t = some s') :
    s'.callers = s.callers ∧ s'.conn = s.conn ∧
      s'.conns.map Conn.closed = s.conns.map Conn.closed := by
  unfold taskStep at stepped
  repeat' split at stepped
  all_goals cases stepped
  all_goals refine ⟨by simp, by simp, ?_⟩
  all_goals first
    | rfl
    | exact map_closed_set (by assumption) (by rfl)
    | simp only [State.setTask, State.setDeadline_closed]

/-- Every step keeps `ConnInv`. -/
theorem connInv_step {server : Server} {s s' : State} {e : Event} (inv : ConnInv s)
    (stepped : step server s e = some s') : ConnInv s' := by
  have mutex := mutexInv_step inv.mutex stepped
  by_cases panicked : s.panicked
  · simp [step, panicked] at stepped
  cases e with
  | call query =>
      simp only [step, panicked, Bool.false_eq_true, ↓reduceIte] at stepped
      cases stepped
      refine ⟨mutex, inv.onlyOpen, ?_⟩
      intro j d a found atDial
      rcases getElem?_concat_eq_some.mp found with found | ⟨_, rfl⟩
      · exact inv.dialing j d a found atDial
      · cases atDial
  | cancel i =>
      simp only [step, panicked, Bool.false_eq_true, ↓reduceIte] at stepped
      split at stepped <;> cases stepped
      rename_i c found
      exact inv.of_callerMove mutex found rfl inv.onlyOpen (absurd rfl)
        (fun a atDial => inv.dialing i c a found atDial)
  | caller i =>
      simp only [step, panicked, Bool.false_eq_true, ↓reduceIte] at stepped
      split at stepped
      · exact connInv_callerStep inv mutex ‹_› stepped
      · cases stepped
  | dialFail i err =>
      simp only [step, panicked, Bool.false_eq_true, ↓reduceIte] at stepped
      split at stepped <;> cases stepped
      exact inv.of_callerMove mutex ‹_› rfl inv.onlyOpen (absurd rfl) (by simp)
  | contextDone i =>
      simp only [step, panicked, Bool.false_eq_true, ↓reduceIte] at stepped
      split at stepped <;> cases stepped
      exact inv.of_callerMove mutex ‹_› rfl inv.onlyOpen (absurd rfl) (by simp)
  | task k =>
      simp only [step, panicked, Bool.false_eq_true, ↓reduceIte] at stepped
      split at stepped
      · obtain ⟨callers, conn, closed⟩ := taskStep_conns stepped
        exact inv.of_frame mutex callers conn closed
      · cases stepped
  | writeFail | timeout | serve | deliver =>
      simp only [step, panicked, Bool.false_eq_true, ↓reduceIte] at stepped
      repeat' split at stepped
      all_goals cases stepped
      all_goals
        exact inv.of_frame mutex rfl rfl
          (by first | rfl | exact map_closed_set (by assumption) (by rfl))

/-- Every reachable state satisfies `ConnInv`. -/
theorem connInv_of_reachable {server : Server} {s : State} (reachable : Reachable server s) :
    ConnInv s :=
  reachable.invariant connInv_initial fun _ _ _ inv stepped => connInv_step inv stepped

/-- In every reachable state the open connections are `r.conn` and no other, so every
connection dialed before it has been closed and `r.conn` is never a closed one; and a caller
about to dial holds no connection it would leak. -/
theorem only_current_conn_open {server : Server} {s : State} (reachable : Reachable server s) :
    (∀ n, (s.conns.map Conn.closed)[n]? = some false ↔ s.conn = some n) ∧
      ∀ (i : Nat) (c : Caller) (a : Attempt), s.callers[i]? = some c → c.pc = .dial a →
        s.conn = none :=
  ⟨(connInv_of_reachable reachable).onlyOpen, (connInv_of_reachable reachable).dialing⟩

/-- A call whose write fails redials: its first connection is closed, and the second is the
one the resolver holds. -/
def redialRun : List Event :=
  [.call (some [1]), .caller 0, .caller 0, .caller 0, .caller 0, .caller 0, .caller 0,
   .task 0, .task 0, .task 0, .writeFail 0 errClosed, .task 0, .task 0,
   .caller 0, .caller 0, .caller 0]

/-- After the redial, the first connection is closed and only `r.conn` is open. -/
theorem only_current_conn_open_after_redial :
    ∃ s, Reachable echoServer s ∧ s.conns.map Conn.closed = [true, false] ∧ s.conn = some 1 ∧
      ((∀ n, (s.conns.map Conn.closed)[n]? = some false ↔ s.conn = some n) ∧
        ∀ (i : Nat) (c : Caller) (a : Attempt), s.callers[i]? = some c → c.pc = .dial a →
          s.conn = none) := by
  obtain ⟨s, ran, shape⟩ := @exists_of_run_any echoServer
    (fun s => s.conns.map Conn.closed == [true, false] && s.conn == some 1) initial redialRun
    (by decide)
  simp only [Bool.and_eq_true, beq_iff_eq] at shape
  exact ⟨s, ⟨redialRun, ran⟩, shape.1, shape.2, only_current_conn_open ⟨redialRun, ran⟩⟩

end ProbeResolver.TcpTls
