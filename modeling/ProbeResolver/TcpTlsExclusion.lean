import ProbeResolver.TcpTlsMachine

namespace ProbeResolver.TcpTls

/-!
# Exclusive use of the connection

The comment on `dnsOverTCPTLSResolver` says that only one goroutine at a time
has access to `conn`, and `do`, `maybeDial` and `forceDial` assume exclusive
access. The mutex gives it to the callers: `MutexInv` holds in every reachable
state, so at most one caller is between `Lock` and `Unlock`. The I/O, however,
runs in the `asyncTry` goroutine, and `try` returns as soon as the context is
done without waiting for it; the caller then unlocks while its goroutine still
writes or reads.

`Exclusive` is what the design needs: every goroutine that has not sent its
result belongs to a caller waiting for it in `try`, hence to the caller holding
the mutex, and `r.conn` is the open connection of that goroutine's I/O and of
its deferred `SetDeadline`. It holds along every run in which no `select` of
`try` is won by `ctx.Done()`, and one such event is enough to break it.
-/

section Lists

variable {α : Type} {l : List α} {i j : Nat} {a b : α}

/-- An entry read after entry `i` is replaced is the new one or an old one. -/
theorem getElem?_set_of_found (found : l[i]? = some a) :
    (l.set i b)[j]? = if j = i then some b else l[j]? := by
  by_cases same : j = i
  · subst same
    simp [(List.getElem?_eq_some_iff.mp found).1]
  · simp only [same, ↓reduceIte]
    exact List.getElem?_set_ne (Ne.symm same)

/-- An entry read after one is appended is the new one or an old one. -/
theorem getElem?_concat_eq_some :
    (l ++ [a])[j]? = some b ↔ l[j]? = some b ∨ (j = l.length ∧ a = b) := by
  rw [List.getElem?_append]
  by_cases inside : j < l.length
  · simp only [inside, ↓reduceIte, iff_self_or, and_imp]
    omega
  · have beyond : l[j]? = none := List.getElem?_eq_none (by omega)
    obtain ⟨d, rfl⟩ := Nat.exists_eq_add_of_le (Nat.le_of_not_lt inside)
    cases d <;> simp [beyond]

/-- An entry is still there after another one is appended. -/
theorem getElem?_concat_of_found (found : l[j]? = some b) : (l ++ [a])[j]? = some b :=
  getElem?_concat_eq_some.mpr (.inl found)

end Lists

/-! ## The mutex -/

/-- `r.mu` is held by exactly the caller between `Lock` returning and `Unlock`. -/
def MutexInv (s : State) : Prop :=
  ∀ i, s.mu = some i ↔ ∃ c, s.callers[i]? = some c ∧ c.pc.holdsLock = true

/-- Two callers between `Lock` and `Unlock` are one caller. -/
theorem MutexInv.unique {s : State} (inv : MutexInv s) {i j : Nat} {c d : Caller}
    (found : s.callers[i]? = some c) (holds : c.pc.holdsLock = true)
    (found' : s.callers[j]? = some d) (holds' : d.pc.holdsLock = true) : i = j := by
  have locked := (inv i).mpr ⟨c, found, holds⟩
  rw [(inv j).mpr ⟨d, found', holds'⟩] at locked
  exact (Option.some.inj locked).symm

theorem mutexInv_initial : MutexInv initial := by
  intro i
  simp [initial]

/-- A move of caller `i` that keeps whether it holds the lock, and keeps `mu`, keeps `MutexInv`. -/
theorem mutexInv_set_of_holdsLock_eq {s s' : State} {i : Nat} {c c' : Caller}
    (inv : MutexInv s) (found : s.callers[i]? = some c) (callers : s'.callers = s.callers.set i c')
    (same : c'.pc.holdsLock = c.pc.holdsLock) (mu : s'.mu = s.mu) : MutexInv s' := by
  intro j
  rw [callers, mu, getElem?_set_of_found found, inv j]
  by_cases atI : j = i
  · subst atI
    simp [found, same]
  · simp [atI]

/-- Every step keeps `MutexInv`. -/
theorem mutexInv_step {server : Server} {s s' : State} {e : Event} (inv : MutexInv s)
    (stepped : step server s e = some s') : MutexInv s' := by
  cases step_callerEffect stepped with
  | frame callers _ mu =>
      intro j
      rw [callers, mu]
      exact inv j
  | spawn query callers _ mu =>
      intro j
      rw [callers, mu, inv j]
      constructor
      · rintro ⟨c, found, holds⟩
        exact ⟨c, getElem?_concat_of_found found, holds⟩
      · rintro ⟨c, found, holds⟩
        rcases getElem?_concat_eq_some.mp found with found | ⟨_, rfl⟩
        · exact ⟨c, found, holds⟩
        · simp [CallerPc.holdsLock] at holds
  | move i c c' found callers _ moved =>
      cases moved with
      | increment atEntry atWait _ mu =>
          exact mutexInv_set_of_holdsLock_eq inv found callers
            (by simp [atEntry, atWait, CallerPc.holdsLock]) mu
      | decrement atLocked atRtrip _ mu =>
          exact mutexInv_set_of_holdsLock_eq inv found callers
            (by simp [atLocked, atRtrip, CallerPc.holdsLock]) mu
      | inner _ holds holds' _ _ _ mu =>
          exact mutexInv_set_of_holdsLock_eq inv found callers (by rw [holds, holds']) mu
      | stay samePc _ mu =>
          exact mutexInv_set_of_holdsLock_eq inv found callers (by rw [samePc]) mu
      | acquire _ atLocked free held _ =>
          intro j
          rw [callers, held, getElem?_set_of_found found]
          by_cases atI : j = i
          · subst atI
            simp [atLocked, CallerPc.holdsLock]
          · rw [if_neg atI]
            constructor
            · intro same
              exact absurd (Option.some.inj same).symm atI
            · rintro ⟨d, found', holds'⟩
              rw [(inv j).mpr ⟨d, found', holds'⟩] at free
              cases free
      | release out atUnlock atDone freed _ =>
          intro j
          have heldByI := (inv i).mpr ⟨c, found, by simp [atUnlock, CallerPc.holdsLock]⟩
          rw [callers, freed, getElem?_set_of_found found]
          by_cases atI : j = i
          · subst atI
            simp [atDone, CallerPc.holdsLock]
          · rw [if_neg atI]
            constructor
            · intro freedNow
              cases freedNow
            · rintro ⟨d, found', holds'⟩
              rw [(inv j).mpr ⟨d, found', holds'⟩] at heldByI
              exact absurd (Option.some.inj heldByI) atI

/-- In every reachable state at most one caller is between `Lock` and `Unlock`, and `mu` names it. -/
theorem mutexInv_of_reachable {server : Server} {s : State} (reachable : Reachable server s) :
    MutexInv s :=
  reachable.invariant mutexInv_initial fun _ _ _ inv stepped => mutexInv_step inv stepped

/-! ## Exclusion while no cancellation wins -/

/-- Whether an `asyncTry` goroutine has sent its result; it then does nothing more. -/
def TaskPc.finished : TaskPc → Bool
  | .sent _ => true
  | _ => false

/-- The part of `trySync` from `SetDeadline` to the deferred `SetDeadline(time.Time{})`. -/
def TaskPc.inSection : TaskPc → Bool
  | .setDeadline => true
  | .write => true
  | .writing _ => true
  | .readHeader => true
  | .readingHeader _ => true
  | .readBody _ => true
  | .readingBody _ _ => true
  | .clearDeadline _ => true
  | _ => false

/-- The connection a goroutine is inside a `Write` or an `io.ReadFull` of. -/
def TaskPc.ioConn? : TaskPc → Option Nat
  | .writing n => some n
  | .readingHeader n => some n
  | .readingBody n _ => some n
  | _ => none

/-- Goroutine `t` uses connection `n` and no other, for its I/O and its deferred `SetDeadline`. -/
def Task.onConn (t : Task) (n : Nat) : Prop :=
  (t.deferred = none ∨ t.deferred = some n) ∧ (t.pc.ioConn? = none ∨ t.pc.ioConn? = some n)

/-- A `select` of `try` won by `ctx.Done()`. -/
def Event.contextWins : Event → Bool
  | .contextDone _ => true
  | _ => false

/-- What every state of a run without a cancellation winning satisfies. -/
structure Exclusive (s : State) : Prop where
  mutex : MutexInv s
  /-- `r.conn` is never a closed connection. -/
  connOpen : ∀ n : Nat, s.conn = some n → (s.conns.map Conn.closed)[n]? = some false
  /-- A caller about to start `asyncTry` has a connection. -/
  starting : ∀ (i : Nat) (c : Caller) (a : Attempt), s.callers[i]? = some c →
    c.pc = .tryStart a → s.conn.isSome
  /-- Every goroutine still running has a caller waiting for it. -/
  owned : ∀ (k : Nat) (t : Task), s.tasks[k]? = some t → t.pc.finished = false →
    ∃ (i : Nat) (c : Caller) (a : Attempt), s.callers[i]? = some c ∧ c.pc = .tryWait a k
  /-- The goroutine a caller waits for has the caller's query and works on `r.conn`. -/
  waiting : ∀ (i : Nat) (c : Caller) (a : Attempt) (k : Nat), s.callers[i]? = some c →
    c.pc = .tryWait a k →
    ∃ (t : Task) (n : Nat), s.tasks[k]? = some t ∧ c.query = some t.query ∧ s.conn = some n ∧
      t.onConn n
  notPanicked : s.panicked = false

theorem exclusive_initial : Exclusive initial where
  mutex := mutexInv_initial
  connOpen := by simp [initial]
  starting := by simp [initial]
  owned := by simp [initial]
  waiting := by simp [initial]
  notPanicked := rfl

/-- Replacing a connection by one with the same `closed` flag keeps the flags. -/
theorem map_closed_set {conns : List Conn} {n : Nat} {c c' : Conn} (found : conns[n]? = some c)
    (same : c'.closed = c.closed) : (conns.set n c').map Conn.closed = conns.map Conn.closed := by
  apply List.ext_getElem?
  intro m
  rw [List.getElem?_map, List.getElem?_map, getElem?_set_of_found found]
  split
  · subst_vars
    simp [found, same]
  · rfl

@[simp] theorem State.setDeadline_closed (s : State) (n : Nat) (deadline : Bool) :
    (s.setDeadline n deadline).conns.map Conn.closed = s.conns.map Conn.closed := by
  unfold State.setDeadline
  split
  · rename_i found
    exact map_closed_set found rfl
  · rfl

/-- With the holder of the mutex past every goroutine it started, every goroutine has finished. -/
theorem Exclusive.finished_of_holder {s : State} (inv : Exclusive s) {i : Nat} {c : Caller}
    (found : s.callers[i]? = some c) (holds : c.pc.holdsLock = true)
    (past : ∀ (a : Attempt) (k : Nat) (t : Task), c.pc = .tryWait a k → s.tasks[k]? = some t →
      t.pc.finished = true) :
    ∀ (k : Nat) (t : Task), s.tasks[k]? = some t → t.pc.finished = true := by
  intro k t found'
  cases unfinished : t.pc.finished
  · obtain ⟨j, d, a, waiter, atWait⟩ := inv.owned k t found' unfinished
    have same := inv.mutex.unique found holds waiter (by simp [atWait, CallerPc.holdsLock])
    subst same
    rw [found, Option.some_inj] at waiter
    subst waiter
    rw [← unfinished]
    exact past a k t atWait found'
  · rfl

/-- A move of caller `i` that keeps its query and whether and on what it waits in `try`, and
leaves the goroutines, `r.conn` and the connections' flags alone, keeps `Exclusive`. -/
theorem Exclusive.of_callerMove {s s' : State} (inv : Exclusive s) (mutex : MutexInv s')
    {i : Nat} {c c' : Caller} (found : s.callers[i]? = some c)
    (callers : s'.callers = s.callers.set i c') (query : c'.query = c.query)
    (starts : ∀ a, c'.pc = .tryStart a → s.conn.isSome)
    (waits : ∀ a k, c'.pc = .tryWait a k ↔ c.pc = .tryWait a k)
    (tasks : s'.tasks = s.tasks) (conn : s'.conn = s.conn)
    (closed : s'.conns.map Conn.closed = s.conns.map Conn.closed)
    (panicked : s'.panicked = s.panicked) : Exclusive s' where
  mutex := mutex
  connOpen := by
    rw [conn, closed]
    exact inv.connOpen
  starting := by
    intro j d a found' atStart
    rw [callers, getElem?_set_of_found found] at found'
    rw [conn]
    split at found'
    · cases found'
      exact starts a atStart
    · exact inv.starting j d a found' atStart
  owned := by
    intro k t found' unfinished
    rw [tasks] at found'
    obtain ⟨j, d, a, waiter, atWait⟩ := inv.owned k t found' unfinished
    rw [callers]
    by_cases atI : j = i
    · subst atI
      rw [found, Option.some_inj] at waiter
      subst waiter
      exact ⟨j, c', a, by rw [getElem?_set_of_found found, if_pos rfl], (waits a k).mpr atWait⟩
    · exact ⟨j, d, a, by rw [getElem?_set_of_found found, if_neg atI]; exact waiter, atWait⟩
  waiting := by
    intro j d a k found' atWait
    rw [callers, getElem?_set_of_found found] at found'
    rw [tasks, conn]
    split at found'
    · cases found'
      rw [query]
      exact inv.waiting i c a k found ((waits a k).mp atWait)
    · exact inv.waiting j d a k found' atWait
  notPanicked := by
    rw [panicked]
    exact inv.notPanicked

/-- A state whose mutex holder is past every goroutine it started, and about to start one only
on a connection, satisfies `Exclusive` as soon as `r.conn` is open. -/
theorem Exclusive.of_holder {s : State} (mutex : MutexInv s) {i : Nat} {c : Caller}
    (found : s.callers[i]? = some c) (holds : c.pc.holdsLock = true)
    (starts : ∀ a, c.pc = .tryStart a → s.conn.isSome) (notWaiting : ∀ a k, c.pc ≠ .tryWait a k)
    (finished : ∀ (k : Nat) (t : Task), s.tasks[k]? = some t → t.pc.finished = true)
    (connOpen : ∀ n : Nat, s.conn = some n → (s.conns.map Conn.closed)[n]? = some false)
    (panicked : s.panicked = false) : Exclusive s where
  mutex := mutex
  connOpen := connOpen
  starting := by
    intro j d a found' atStart
    have same := mutex.unique found holds found' (by simp [atStart, CallerPc.holdsLock])
    subst same
    rw [found, Option.some_inj] at found'
    subst found'
    exact starts a atStart
  owned := by
    intro k t found' unfinished
    rw [finished k t found'] at unfinished
    cases unfinished
  waiting := by
    intro j d a k found' atWait
    have same := mutex.unique found holds found' (by simp [atWait, CallerPc.holdsLock])
    subst same
    rw [found, Option.some_inj] at found'
    subst found'
    exact absurd atWait (notWaiting a k)
  notPanicked := panicked

/-- A move of a running goroutine that keeps its query and its connection, and leaves the
callers, `r.conn` and the connections' flags alone, keeps `Exclusive`. -/
theorem Exclusive.of_taskMove {s s' : State} (inv : Exclusive s) (mutex : MutexInv s')
    {k : Nat} {t t' : Task} (found : s.tasks[k]? = some t) (unfinished : t.pc.finished = false)
    (tasks : s'.tasks = s.tasks.set k t') (query : t'.query = t.query)
    (onConn : ∀ n, s.conn = some n → t.onConn n → t'.onConn n)
    (callers : s'.callers = s.callers) (conn : s'.conn = s.conn)
    (closed : s'.conns.map Conn.closed = s.conns.map Conn.closed)
    (panicked : s'.panicked = s.panicked) : Exclusive s' where
  mutex := mutex
  connOpen := by
    rw [conn, closed]
    exact inv.connOpen
  starting := by
    rw [callers, conn]
    exact inv.starting
  owned := by
    intro k' u found' unfinished'
    rw [callers]
    rw [tasks, getElem?_set_of_found found] at found'
    split at found'
    · rename_i atK
      subst atK
      exact inv.owned _ t found unfinished
    · exact inv.owned k' u found' unfinished'
  waiting := by
    intro j d a k' found' atWait
    rw [callers] at found'
    obtain ⟨u, n, task, asked, current, onN⟩ := inv.waiting j d a k' found' atWait
    rw [tasks, conn, getElem?_set_of_found found]
    by_cases atK : k' = k
    · subst atK
      rw [found, Option.some_inj] at task
      subst task
      exact ⟨t', n, by simp, by rw [query]; exact asked, current, onConn n current onN⟩
    · exact ⟨u, n, by rw [if_neg atK]; exact task, asked, current, onN⟩
  notPanicked := by
    rw [panicked]
    exact inv.notPanicked

/-- A step of the network, which touches no `closed` flag, keeps `Exclusive`. -/
theorem Exclusive.of_network {s s' : State} (inv : Exclusive s) (mutex : MutexInv s')
    (callers : s'.callers = s.callers) (tasks : s'.tasks = s.tasks) (conn : s'.conn = s.conn)
    (closed : s'.conns.map Conn.closed = s.conns.map Conn.closed)
    (panicked : s'.panicked = s.panicked) : Exclusive s' where
  mutex := mutex
  connOpen := by
    rw [conn, closed]
    exact inv.connOpen
  starting := by
    rw [callers, conn]
    exact inv.starting
  owned := by
    rw [callers, tasks]
    exact inv.owned
  waiting := by
    rw [callers, tasks, conn]
    exact inv.waiting
  notPanicked := by
    rw [panicked]
    exact inv.notPanicked

/-- A goroutine step on `r.conn = some n`, by a goroutine on `n`, keeps its query and stays on `n`;
the callers, `r.conn` and the connections' flags stay as they are. -/
theorem taskStep_onConn {s s' : State} {k : Nat} {t : Task} {n : Nat} (conn : s.conn = some n)
    (onConn : t.onConn n) (stepped : taskStep s k t = some s') :
    ∃ t', s'.tasks = s.tasks.set k t' ∧ t'.query = t.query ∧ t'.onConn n ∧
      s'.callers = s.callers ∧ s'.conn = s.conn ∧
      s'.conns.map Conn.closed = s.conns.map Conn.closed ∧ s'.panicked = s.panicked := by
  obtain ⟨deferredOn, ioOn⟩ := onConn
  unfold taskStep at stepped
  split at stepped
  all_goals try simp only [conn] at stepped
  all_goals (repeat' split at stepped)
  all_goals cases stepped
  all_goals refine ⟨_, (by simp only [State.setTask, State.setDeadline_tasks]; rfl), by rfl, ?_,
    by simp, by simp, ?_, by simp⟩
  all_goals first
    | rfl
    | exact map_closed_set (by assumption) (by rfl)
    | simp only [State.setTask, State.setDeadline_closed]
    | simp_all [Task.onConn, TaskPc.ioConn?]

/-- `do` goes on from `try` to `Unlock` or to a redial, never back into `try`. -/
theorem afterTry_not_try (attempt : Attempt) (out : GoResult Bytes) :
    (∀ a, afterTry attempt out ≠ .tryStart a) ∧ (∀ a k, afterTry attempt out ≠ .tryWait a k) := by
  unfold afterTry
  split
  · simp
  · split <;> simp
  · simp

/-- Every caller step keeps `Exclusive`. -/
theorem exclusive_callerStep {s s' : State} (inv : Exclusive s) (mutex : MutexInv s') {i : Nat}
    {c : Caller} (found : s.callers[i]? = some c) (stepped : callerStep s i c = some s') :
    Exclusive s' := by
  have foundSet : ∀ c', (s.callers.set i c')[i]? = some c' := fun c' => by
    rw [getElem?_set_of_found found, if_pos rfl]
  unfold callerStep at stepped
  split at stepped
  case h_1 atEntry =>
      cases stepped
      exact inv.of_callerMove mutex found rfl rfl (by simp) (by simp [atEntry]) rfl rfl rfl rfl
  case h_2 atWaitLock =>
      split at stepped <;> cases stepped
      exact inv.of_callerMove mutex found rfl rfl (by simp) (by simp [atWaitLock]) rfl rfl rfl rfl
  case h_3 atLocked =>
      cases stepped
      exact inv.of_callerMove mutex found rfl rfl (by simp) (by simp [atLocked]) rfl rfl rfl rfl
  case h_4 atRtrip =>
      have finished := inv.finished_of_holder found (by simp [atRtrip, CallerPc.holdsLock])
        (fun _ _ _ atWait => by simp [atRtrip] at atWait)
      split at stepped <;> cases stepped
      · by_cases closing : s.users = 0 ∧ s.conn.isSome = true
        · rw [if_pos closing] at mutex ⊢
          exact Exclusive.of_holder mutex (by simpa using foundSet _) (by rfl) (by simp) (by simp)
            (by simpa using finished) (by simp) (by simpa using inv.notPanicked)
        · rw [if_neg closing] at mutex ⊢
          exact Exclusive.of_holder mutex (foundSet _) rfl (by simp) (by simp) finished
            inv.connOpen inv.notPanicked
      · exact inv.of_callerMove mutex found rfl rfl (by split <;> simp_all) (by split <;> simp [atRtrip])
          rfl rfl rfl rfl
  case h_5 attempt atDial =>
      cases stepped
      refine Exclusive.of_holder mutex (foundSet _) rfl (by simp) (by simp)
        (inv.finished_of_holder found (by simp [atDial, CallerPc.holdsLock])
          (fun _ _ _ atWait => by simp [atDial] at atWait)) ?_ inv.notPanicked
      intro n current
      cases current
      simp [Conn.fresh]
  case h_6 attempt atStart =>
      split at stepped <;> cases stepped
      rename_i query asked
      obtain ⟨n, current⟩ := Option.isSome_iff_exists.mp (inv.starting i c attempt found atStart)
      refine ⟨mutex, inv.connOpen, ?_, ?_, ?_, inv.notPanicked⟩
      · intro j d a found' atStart'
        simp only [State.setCaller] at found'
        rw [getElem?_set_of_found found] at found'
        split at found'
        · cases found'
          cases atStart'
        · exact inv.starting j d a found' atStart'
      · intro k t found' unfinished
        rcases getElem?_concat_eq_some.mp found' with found' | ⟨rfl, rfl⟩
        · obtain ⟨j, d, a, waiter, atWait⟩ := inv.owned k t found' unfinished
          have notI : j ≠ i := by
            rintro rfl
            rw [found, Option.some_inj] at waiter
            subst waiter
            rw [atStart] at atWait
            cases atWait
          refine ⟨j, d, a, ?_, atWait⟩
          simp only [State.setCaller]
          rw [getElem?_set_of_found found, if_neg notI]
          exact waiter
        · exact ⟨i, _, attempt, foundSet _, rfl⟩
      · intro j d a k found' atWait
        simp only [State.setCaller] at found'
        rw [getElem?_set_of_found found] at found'
        split at found'
        · cases found'
          obtain ⟨rfl, rfl⟩ := CallerPc.tryWait.inj atWait
          exact ⟨_, n, List.getElem?_concat_length .., asked, current, .inl rfl, .inl rfl⟩
        · obtain ⟨t, n', task, asked', current', onN⟩ := inv.waiting j d a k found' atWait
          exact ⟨t, n', getElem?_concat_of_found task, asked', current', onN⟩
  case h_7 attempt k atWait =>
      split at stepped <;> cases stepped
      rename_i _ query deferred out sent
      refine Exclusive.of_holder mutex (foundSet _) (afterTry_holdsLock attempt out).1
        (fun a atStart => absurd atStart ((afterTry_not_try attempt out).1 a))
        (afterTry_not_try attempt out).2 ?_ inv.connOpen inv.notPanicked
      refine inv.finished_of_holder found (by simp [atWait, CallerPc.holdsLock]) ?_
      intro a k' t atWait' found'
      obtain ⟨rfl, rfl⟩ := CallerPc.tryWait.inj (atWait.symm.trans atWait')
      rw [sent, Option.some_inj] at found'
      subst found'
      rfl
  case h_8 atRedial =>
      cases stepped
      have finished := inv.finished_of_holder found (by simp [atRedial, CallerPc.holdsLock])
        (fun _ _ _ atWait => by simp [atRedial] at atWait)
      exact Exclusive.of_holder mutex (by simpa using foundSet _) (by rfl) (by simp) (by simp)
        (by simpa using finished) (by simp) (by simpa using inv.notPanicked)
  case h_9 out atUnlock =>
      cases stepped
      exact inv.of_callerMove mutex found rfl rfl (by simp) (by simp [atUnlock]) rfl rfl rfl rfl
  case h_10 =>
      cases stepped

/-- A goroutine with a read in progress has not finished. -/
theorem readNeed_finished {pc : TaskPc} {need : Nat × Nat} (reading : readNeed pc = some need) :
    pc.finished = false := by
  cases pc <;> simp_all [readNeed, TaskPc.finished]

/-- Every step other than a `select` won by `ctx.Done()` keeps `Exclusive`. -/
theorem exclusive_step {server : Server} {s s' : State} {e : Event} (inv : Exclusive s)
    (notCancel : e.contextWins = false) (stepped : step server s e = some s') : Exclusive s' := by
  have mutex := mutexInv_step inv.mutex stepped
  have live := inv.notPanicked
  cases e with
  | call query =>
      simp only [step, live, Bool.false_eq_true, ↓reduceIte] at stepped
      cases stepped
      refine ⟨mutex, inv.connOpen, ?_, ?_, ?_, rfl⟩
      · intro j d a found atStart
        rcases getElem?_concat_eq_some.mp found with found | ⟨_, rfl⟩
        · exact inv.starting j d a found atStart
        · cases atStart
      · intro k t found unfinished
        obtain ⟨j, d, a, waiter, atWait⟩ := inv.owned k t found unfinished
        exact ⟨j, d, a, getElem?_concat_of_found waiter, atWait⟩
      · intro j d a k found atWait
        rcases getElem?_concat_eq_some.mp found with found | ⟨_, rfl⟩
        · exact inv.waiting j d a k found atWait
        · cases atWait
  | cancel i =>
      simp only [step, live, Bool.false_eq_true, ↓reduceIte] at stepped
      split at stepped <;> cases stepped
      rename_i c found
      exact inv.of_callerMove mutex found rfl rfl (fun a atStart => inv.starting i c a found atStart)
        (fun _ _ => Iff.rfl) rfl rfl rfl rfl
  | caller i =>
      simp only [step, live, Bool.false_eq_true, ↓reduceIte] at stepped
      split at stepped
      · exact exclusive_callerStep inv mutex ‹_› stepped
      · cases stepped
  | dialFail i err =>
      simp only [step, live, Bool.false_eq_true, ↓reduceIte] at stepped
      split at stepped <;> cases stepped
      rename_i query cancelled attempt found
      exact inv.of_callerMove mutex found rfl rfl (by simp) (by simp) rfl rfl rfl rfl
  | contextDone i =>
      cases notCancel
  | task k =>
      simp only [step, live, Bool.false_eq_true, ↓reduceIte] at stepped
      split at stepped
      · rename_i t found
        have unfinished : t.pc.finished = false := by
          cases atSent : t.pc with
          | sent out => simp [taskStep, atSent] at stepped
          | _ => rfl
        obtain ⟨i, c, a, waiter, atWait⟩ := inv.owned k t found unfinished
        obtain ⟨u, n, task, _, current, onN⟩ := inv.waiting i c a k waiter atWait
        rw [found, Option.some_inj] at task
        subst task
        obtain ⟨t', tasks, query, onN', callers, conn, closed, panicked⟩ :=
          taskStep_onConn current onN stepped
        refine inv.of_taskMove mutex found unfinished tasks query ?_ callers conn closed panicked
        intro n' current' _
        rw [current, Option.some_inj] at current'
        subst current'
        exact onN'
      · cases stepped
  | writeFail k err =>
      simp only [step, live, Bool.false_eq_true, ↓reduceIte] at stepped
      repeat' split at stepped
      all_goals cases stepped
      rename_i _ t found _ n atWriting _ _ _ _ _ _
      exact inv.of_taskMove mutex found (by simp [atWriting, TaskPc.finished]) rfl rfl
        (fun _ _ onN => ⟨onN.1, .inl rfl⟩) rfl rfl rfl rfl
  | timeout k consumed =>
      simp only [step, live, Bool.false_eq_true, ↓reduceIte] at stepped
      repeat' split at stepped
      all_goals cases stepped
      rename_i _ t found _ n need reading _ c isOpen _
      exact inv.of_taskMove mutex found (readNeed_finished reading) rfl rfl
        (fun _ _ onN => ⟨onN.1, .inl rfl⟩) rfl rfl (map_closed_set isOpen rfl) rfl
  | serve n =>
      simp only [step, live, Bool.false_eq_true, ↓reduceIte] at stepped
      repeat' split at stepped
      all_goals cases stepped
      exact inv.of_network mutex rfl rfl rfl (map_closed_set (by assumption) (by rfl)) rfl
  | deliver n count =>
      simp only [step, live, Bool.false_eq_true, ↓reduceIte] at stepped
      repeat' split at stepped
      all_goals cases stepped
      exact inv.of_network mutex rfl rfl rfl (map_closed_set (by assumption) (by rfl)) rfl

/-- Along every run without a `select` won by `ctx.Done()`, `Exclusive` holds. -/
theorem exclusive_of_run {server : Server} {s : State} (events : List Event)
    (noCancel : ∀ e ∈ events, e.contextWins = false) (ran : run server initial events = some s) :
    Exclusive s :=
  run_invariant_of (fun _ _ _ notCancel inv stepped => exclusive_step inv notCancel stepped)
    events noCancel exclusive_initial ran

/-- In every state of a run in which no `select` of `try` is won by `ctx.Done()`: a goroutine
still running belongs to the caller holding `r.mu`, which waits for it with the same query;
`r.conn` is the open connection of its I/O and of its deferred `SetDeadline`; no two goroutines
run at once, so at most one is inside the section; and the process has not panicked. -/
theorem exclusive_without_cancellation {server : Server} {s : State} (events : List Event)
    (noCancel : ∀ e ∈ events, e.contextWins = false) (ran : run server initial events = some s) :
    (∀ (k : Nat) (t : Task), s.tasks[k]? = some t → t.pc.finished = false →
      ∃ (i : Nat) (c : Caller) (a : Attempt) (n : Nat), s.callers[i]? = some c ∧
        s.mu = some i ∧ c.pc = .tryWait a k ∧ c.query = some t.query ∧ s.conn = some n ∧
        t.onConn n ∧ (s.conns.map Conn.closed)[n]? = some false) ∧
    (∀ (k₁ k₂ : Nat) (t₁ t₂ : Task), s.tasks[k₁]? = some t₁ → s.tasks[k₂]? = some t₂ →
      t₁.pc.finished = false → t₂.pc.finished = false → k₁ = k₂) ∧
    s.panicked = false := by
  have inv := exclusive_of_run events noCancel ran
  have owner : ∀ (k : Nat) (t : Task), s.tasks[k]? = some t → t.pc.finished = false →
      ∃ (i : Nat) (c : Caller) (a : Attempt) (n : Nat), s.callers[i]? = some c ∧
        s.mu = some i ∧ c.pc = .tryWait a k ∧ c.query = some t.query ∧ s.conn = some n ∧
        t.onConn n ∧ (s.conns.map Conn.closed)[n]? = some false := by
    intro k t found unfinished
    obtain ⟨i, c, a, waiter, atWait⟩ := inv.owned k t found unfinished
    obtain ⟨u, n, task, asked, current, onN⟩ := inv.waiting i c a k waiter atWait
    rw [found, Option.some_inj] at task
    subst task
    exact ⟨i, c, a, n, waiter, (inv.mutex i).mpr ⟨c, waiter, by simp [atWait, CallerPc.holdsLock]⟩,
      atWait, asked, current, onN, inv.connOpen n current⟩
  refine ⟨owner, ?_, inv.notPanicked⟩
  intro k₁ k₂ t₁ t₂ found₁ found₂ unfinished₁ unfinished₂
  obtain ⟨i₁, c₁, a₁, _, waiter₁, held₁, atWait₁, _⟩ := owner k₁ t₁ found₁ unfinished₁
  obtain ⟨i₂, c₂, a₂, _, waiter₂, held₂, atWait₂, _⟩ := owner k₂ t₂ found₂ unfinished₂
  rw [held₁, Option.some_inj] at held₂
  subst held₂
  rw [waiter₁, Option.some_inj] at waiter₂
  subst waiter₂
  exact (CallerPc.tryWait.inj (atWait₁.symm.trans atWait₂)).2

/-- Midway through the echo call: its goroutine has written the query and is about to read the
reply's header, inside the section, while the call holds the mutex. -/
theorem exclusive_without_cancellation_echo_read :
    (∀ e ∈ echoCallRun.take 13, e.contextWins = false) ∧
    ∃ s, run echoServer initial (echoCallRun.take 13) = some s ∧
      s.tasks.map Task.pc = [.readHeader] ∧ s.mu = some 0 ∧
      ((∀ (k : Nat) (t : Task), s.tasks[k]? = some t → t.pc.finished = false →
        ∃ (i : Nat) (c : Caller) (a : Attempt) (n : Nat), s.callers[i]? = some c ∧
          s.mu = some i ∧ c.pc = .tryWait a k ∧ c.query = some t.query ∧ s.conn = some n ∧
          t.onConn n ∧ (s.conns.map Conn.closed)[n]? = some false) ∧
      (∀ (k₁ k₂ : Nat) (t₁ t₂ : Task), s.tasks[k₁]? = some t₁ → s.tasks[k₂]? = some t₂ →
        t₁.pc.finished = false → t₂.pc.finished = false → k₁ = k₂) ∧
      s.panicked = false) := by
  obtain ⟨s, ran, reading⟩ := @exists_of_run_any echoServer
    (fun s => s.tasks.map Task.pc == [.readHeader] && s.mu == some 0) initial (echoCallRun.take 13)
    (by decide)
  simp only [Bool.and_eq_true, beq_iff_eq] at reading
  exact ⟨by decide, s, ran, reading.1, reading.2,
    exclusive_without_cancellation _ (by decide) ran⟩

/-- A call is cancelled while its goroutine reads `conn` 0; the next call's goroutine then enters
the section on `conn` 0 next to it. -/
def overlapRun : List Event :=
  [.call (some [1]), .caller 0, .caller 0, .caller 0, .caller 0, .caller 0, .caller 0,
   .task 0, .task 0, .task 0, .task 0, .task 0, .cancel 0, .contextDone 0, .caller 0,
   .call (some [2]), .caller 1, .caller 1, .caller 1, .caller 1, .caller 1, .task 1]

/-- A call is cancelled between its goroutine's write and read; a `CloseIdleConnections` call
then closes `conn` 0 and sets `conn` to `nil`. -/
def closeIdleRun : List Event :=
  [.call (some [1]), .caller 0, .caller 0, .caller 0, .caller 0, .caller 0, .caller 0,
   .task 0, .task 0, .task 0, .task 0, .cancel 0, .contextDone 0, .caller 0,
   .call none, .caller 1, .caller 1, .caller 1, .caller 1, .caller 1]

/-- One `select` won by `ctx.Done()` breaks exclusion: two goroutines are inside the section,
both with their deferred `SetDeadline` bound to `conn` 0, which the first is reading; or
`conn` is closed and set to `nil` under a goroutine inside the section, whose next step calls
`Read` on the `nil` connection and panics. -/
theorem cancelled_try_breaks_exclusion :
    (∃ s, Reachable echoServer s ∧ s.conn = some 0 ∧
      s.tasks.map Task.pc = [.readingHeader 0, .setDeadline] ∧
      s.tasks.map Task.deferred = [some 0, some 0]) ∧
    (∃ s, Reachable echoServer s ∧ s.conn = none ∧ s.conns.map Conn.closed = [true] ∧
      s.tasks.map Task.pc = [.readHeader] ∧
      (step echoServer s (.task 0)).map State.panicked = some true) := by
  constructor
  · have ends : (run echoServer initial overlapRun).any (fun s => s.conn == some 0 &&
        s.tasks.map Task.pc == [.readingHeader 0, .setDeadline] &&
        s.tasks.map Task.deferred == [some 0, some 0]) = true := by
      decide
    obtain ⟨s, reachable, holds⟩ := exists_reachable_of_run overlapRun ends
    simp only [Bool.and_eq_true, beq_iff_eq] at holds
    exact ⟨s, reachable, holds.1.1, holds.1.2, holds.2⟩
  · have ends : (run echoServer initial closeIdleRun).any (fun s => s.conn == none &&
        s.conns.map Conn.closed == [true] && s.tasks.map Task.pc == [.readHeader] &&
        (step echoServer s (.task 0)).map State.panicked == some true) = true := by
      decide
    obtain ⟨s, reachable, holds⟩ := exists_reachable_of_run closeIdleRun ends
    simp only [Bool.and_eq_true, beq_iff_eq] at holds
    exact ⟨s, reachable, holds.1.1.1, holds.1.1.2, holds.1.2, holds.2⟩

end ProbeResolver.TcpTls
