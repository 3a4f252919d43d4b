import ProbeResolver.TcpTlsExclusion

namespace ProbeResolver.TcpTls

/-!
# Which reply a round trip returns

`trySync` writes one length-prefixed query and reads one length-prefixed reply
on the persistent connection, trusting that the next frame on the stream
answers the query it has just written. That holds as long as every reply is
read in full by the goroutine whose query it answers. Along every run without
a read past its deadline and without a `select` won by `ctx.Done()` it does:
`Attributed` ties the bytes in transit on `r.conn` to the one running
goroutine, and every call that returns a reply with a `nil` error returns the
server's reply to its own query.

A read that times out returns an error but keeps `r.conn`, with the rest of its
reply still to come; a goroutine whose caller was cancelled goes on reading.
Either way a later call can read a frame that is not its own.
-/

/-! ## Frames -/

/-- The header of a frame reads back the length of its message. -/
theorem headerLength_frame {message : Bytes} (short : message.length < 65536) :
    headerLength (message.length >>> 8).toUInt8 message.length.toUInt8 = message.length := by
  have high : (message.length >>> 8).toUInt8.toNat = message.length / 2 ^ 8 := by
    show (message.length >>> 8) % 256 = _
    rw [Nat.shiftRight_eq_div_pow, Nat.mod_eq_of_lt (by omega)]
  have low : message.length.toUInt8.toNat = message.length % 2 ^ 8 := rfl
  rw [headerLength, high, low, Nat.shiftLeft_eq, Nat.mul_comm,
    ← Nat.mul_add_lt_is_or (Nat.mod_lt _ (by decide)), Nat.div_add_mod]

/-- A frame followed by anything reads back as its message and the rest. -/
theorem takeFrame?_frame {message : Bytes} (short : message.length < 65536) (rest : Bytes) :
    takeFrame? (frame message ++ rest) = some (message, rest) := by
  simp [frame, takeFrame?, headerLength_frame short]

/-! ## What the connection carries -/

/-- The bytes the server has sent on `c` that the client has not read yet, in order. -/
def Conn.received (c : Conn) : Bytes :=
  c.toClient ++ c.inFlight

/-- Nothing in transit either way. -/
def Conn.idle (c : Conn) : Prop :=
  c.toServer = [] ∧ c.received = []

/-- What `r.conn` carries while goroutine `t` runs on it: nothing before the write, then the
query or the server's framed reply to it, then the rest of that reply's body, then nothing; and
a result without error is the server's reply to the query. -/
def Owes (server : Server) (t : Task) (c : Conn) : Prop :=
  match t.pc with
  | .start => c.idle
  | .setDeadline | .write | .writing _ => t.query.length < 65536 ∧ c.idle
  | .readHeader | .readingHeader _ =>
      t.query.length < 65536 ∧
        (c.toServer = frame t.query ∧ c.received = [] ∨
          c.toServer = [] ∧ c.received = frame (server.reply t.query))
  | .readBody length | .readingBody _ length =>
      c.toServer = [] ∧ c.received = server.reply t.query ∧
        length = (server.reply t.query).length
  | .clearDeadline out | .send out | .sent out =>
      c.idle ∧ (out.2 = none → out.1 = server.reply t.query)

/-- A read past its deadline. -/
def Event.deadlinePasses : Event → Bool
  | .timeout _ _ => true
  | _ => false

/-- A read past its deadline, or a `select` won by `ctx.Done()`: what can leave a reply on the
connection for a later call. -/
def Event.interrupts (e : Event) : Bool :=
  e.contextWins || e.deadlinePasses

/-- What `Owes` says depends on the bytes in transit only. -/
theorem Owes.of_same {server : Server} {t : Task} {c c' : Conn} (owes : Owes server t c)
    (toServer : c'.toServer = c.toServer) (received : c'.received = c.received) :
    Owes server t c' := by
  unfold Owes Conn.idle at *
  rw [toServer, received]
  exact owes

/-- With nothing written, the server has no query to answer. -/
theorem takeFrame?_of_toServer_nil {c : Conn} (empty : c.toServer = []) :
    takeFrame? c.toServer = none := by
  rw [empty]
  rfl

/-- The server answering the query on the connection moves it from the query to the reply. -/
theorem Owes.serve {server : Server} {t : Task} {c : Conn} {query rest : Bytes}
    (owes : Owes server t c) (taken : takeFrame? c.toServer = some (query, rest)) :
    Owes server t
      { c with toServer := rest, inFlight := c.inFlight ++ frame (server.reply query) } := by
  have written : c.toServer ≠ [] := fun empty => by
    rw [takeFrame?_of_toServer_nil empty] at taken
    cases taken
  cases atPc : t.pc <;> simp only [Owes, atPc, Conn.idle] at owes ⊢
  case readHeader | readingHeader =>
      obtain ⟨short, ⟨toServer, received⟩ | ⟨toServer, _⟩⟩ := owes
      · rw [toServer, ← List.append_nil (frame t.query), takeFrame?_frame short,
          Option.some_inj, Prod.mk.injEq] at taken
        obtain ⟨rfl, rfl⟩ := taken
        refine ⟨short, .inr ⟨rfl, ?_⟩⟩
        rw [Conn.received] at received ⊢
        rw [← List.append_assoc, received, List.nil_append]
      · exact absurd toServer written
  all_goals
    first
      | exact absurd owes.1 written
      | exact absurd owes.1.1 written
      | exact absurd owes.2.1 written

/-- Bytes arriving at the client change nothing of what is in transit. -/
theorem Conn.deliver_received (c : Conn) (count : Nat) :
    ({ c with inFlight := c.inFlight.drop count,
               toClient := c.toClient ++ c.inFlight.take count } : Conn).received = c.received := by
  simp [Conn.received]

/-- Reading back a goroutine just replaced. -/
theorem State.setTask_getElem? {s : State} {k : Nat} {t : Task} (found : s.tasks[k]? = some t)
    (t' : Task) : (s.setTask k t').tasks[k]? = some t' := by
  simp only [State.setTask]
  rw [getElem?_set_of_found found, if_pos rfl]

/-- Reading back a connection just replaced. -/
theorem State.setConn_getElem? {s : State} {n : Nat} {c : Conn} (found : s.conns[n]? = some c)
    (c' : Conn) : (s.setConn n c').conns[n]? = some c' := by
  simp only [State.setConn]
  rw [getElem?_set_of_found found, if_pos rfl]

/-- Setting or clearing a deadline changes no byte in transit. -/
theorem State.setDeadline_getElem? {s : State} {m n : Nat} {c : Conn} (deadline : Bool)
    (found : s.conns[n]? = some c) :
    ∃ c', (s.setDeadline m deadline).conns[n]? = some c' ∧ c'.toServer = c.toServer ∧
      c'.received = c.received := by
  unfold State.setDeadline
  split
  · rename_i d setFound
    simp only [State.setConn]
    rw [getElem?_set_of_found setFound]
    split
    · subst_vars
      rw [found, Option.some_inj] at setFound
      subst setFound
      exact ⟨_, rfl, rfl, rfl⟩
    · exact ⟨c, found, rfl, rfl⟩
  · exact ⟨c, found, rfl, rfl⟩

/-- The goroutine on `r.conn = some n`, owed what `n` carries, is owed what `n` carries after
its step. -/
theorem taskStep_owes {server : Server} {s s' : State} {k n : Nat} {t : Task} {c : Conn}
    (found : s.tasks[k]? = some t) (conn : s.conn = some n) (onConn : t.onConn n)
    (connFound : s.conns[n]? = some c) (isOpen : c.closed = false) (owes : Owes server t c)
    (stepped : taskStep s k t = some s') :
    ∃ t' c', s'.tasks[k]? = some t' ∧ s'.conns[n]? = some c' ∧ Owes server t' c' := by
  have ioOn : ∀ m, t.pc.ioConn? = some m → m = n := by
    intro m io
    rcases onConn.2 with none | same
    · rw [none] at io
      cases io
    · rw [same, Option.some_inj] at io
      exact io.symm
  cases atPc : t.pc <;> simp only [taskStep, atPc, conn] at stepped <;>
    simp only [Owes, atPc, Conn.idle, Conn.received] at owes
  case start =>
      split_ifs at stepped with tooLong <;> cases stepped
      · exact ⟨_, c, State.setTask_getElem? found _, connFound,
          by simp [Owes, Conn.idle, Conn.received, owes]⟩
      · exact ⟨_, c, State.setTask_getElem? found _, connFound,
          by simp [Owes, Conn.idle, Conn.received, owes]; omega⟩
  case setDeadline =>
      cases stepped
      obtain ⟨c', found', toServer, received⟩ := State.setDeadline_getElem? (m := n) true connFound
      simp only [Conn.received] at received
      exact ⟨_, c', State.setTask_getElem? (by simpa using found) _, found',
        by simp [Owes, Conn.idle, Conn.received, toServer, received, owes]⟩
  case write =>
      cases stepped
      exact ⟨_, c, State.setTask_getElem? found _, connFound,
        by simp [Owes, Conn.idle, Conn.received, owes]⟩
  case writing m =>
      obtain rfl := ioOn m (by simp [atPc, TaskPc.ioConn?])
      simp only [connFound, isOpen, Bool.false_eq_true, ↓reduceIte] at stepped
      cases stepped
      exact ⟨_, _, State.setTask_getElem? found _, State.setConn_getElem? connFound _,
        by simp [Owes, Conn.received, owes]⟩
  case readHeader =>
      cases stepped
      exact ⟨_, c, State.setTask_getElem? found _, connFound,
        by simpa [Owes, Conn.received] using owes⟩
  case readingHeader m =>
      obtain rfl := ioOn m (by simp [atPc, TaskPc.ioConn?])
      simp only [connFound, isOpen, Bool.false_eq_true, ↓reduceIte] at stepped
      split at stepped
      · rename_i hi lo rest toClient
        cases stepped
        rcases owes with ⟨short, ⟨_, received⟩ | ⟨toServer, received⟩⟩
        · simp [toClient] at received
        · rw [toClient, frame] at received
          simp only [List.cons_append, List.cons.injEq] at received
          obtain ⟨rfl, rfl, rest⟩ := received
          refine ⟨_, _, State.setTask_getElem? found _, State.setConn_getElem? connFound _, ?_⟩
          simp only [Owes, Conn.received]
          exact ⟨toServer, rest, headerLength_frame (server.reply_short _)⟩
      · cases stepped
  case readBody length =>
      split_ifs at stepped with empty <;> cases stepped
      · obtain ⟨toServer, received, rfl⟩ := owes
        have noReply := List.length_eq_zero.mp empty
        refine ⟨_, c, State.setTask_getElem? found _, connFound, ?_⟩
        simp only [Owes, Conn.idle, Conn.received]
        exact ⟨⟨toServer, by rw [received, noReply]⟩, fun _ => noReply.symm⟩
      · exact ⟨_, c, State.setTask_getElem? found _, connFound,
          by simpa [Owes, Conn.received] using owes⟩
  case readingBody m length =>
      obtain rfl := ioOn m (by simp [atPc, TaskPc.ioConn?])
      simp only [connFound, isOpen, Bool.false_eq_true, ↓reduceIte] at stepped
      split_ifs at stepped with enough
      cases stepped
      obtain ⟨toServer, received, rfl⟩ := owes
      have lengths := congrArg List.length received
      rw [List.length_append] at lengths
      have arrived : c.inFlight = [] := List.length_eq_zero.mp (by omega)
      rw [arrived, List.append_nil] at received
      refine ⟨_, _, State.setTask_getElem? found _, State.setConn_getElem? connFound _, ?_⟩
      simp only [Owes, Conn.idle, Conn.received]
      refine ⟨⟨toServer, ?_⟩, fun _ => ?_⟩
      · rw [arrived, received, List.drop_length, List.append_nil]
      · rw [received, List.take_length]
  case clearDeadline out =>
      cases stepped
      split
      · obtain ⟨c', found', toServer, received⟩ :=
          State.setDeadline_getElem? (m := ‹Nat›) false connFound
        refine ⟨_, c', State.setTask_getElem? (by simpa using found) _, found', ?_⟩
        simp only [Owes, Conn.idle, Conn.received] at received ⊢
        exact ⟨⟨by rw [toServer]; exact owes.1.1, by rw [received]; exact owes.1.2⟩, owes.2⟩
      · exact ⟨_, c, State.setTask_getElem? found _, connFound,
          by simpa [Owes, Conn.idle, Conn.received] using owes⟩
  case send out =>
      cases stepped
      exact ⟨_, c, State.setTask_getElem? found _, connFound,
        by simpa [Owes, Conn.idle, Conn.received] using owes⟩
  case sent out =>
      cases stepped

/-! ## The attribution invariant -/

/-- What every state of a run without interruptions satisfies, beyond `Exclusive`. -/
structure Attributed (server : Server) (s : State) extends Exclusive s : Prop where
  /-- Unless a caller waits in `try`, `r.conn` carries nothing. -/
  quiet : ∀ (n : Nat) (c : Conn), s.conn = some n → s.conns[n]? = some c →
    c.idle ∨ ∃ (i : Nat) (d : Caller) (a : Attempt) (k : Nat), s.callers[i]? = some d ∧
      d.pc = .tryWait a k
  /-- The goroutine a caller waits for finds on `r.conn` what it is owed. -/
  owes : ∀ (i : Nat) (d : Caller) (a : Attempt) (k : Nat) (t : Task) (n : Nat) (c : Conn),
    s.callers[i]? = some d → d.pc = .tryWait a k → s.tasks[k]? = some t → s.conn = some n →
    s.conns[n]? = some c → Owes server t c
  /-- A caller whose round trip succeeded holds the server's reply to its query. -/
  answered : ∀ (i : Nat) (d : Caller) (q reply : Bytes), s.callers[i]? = some d →
    d.query = some q → (d.pc = .unlock (reply, none) ∨ d.pc = .done (reply, none)) →
    reply = server.reply q

theorem attributed_initial (server : Server) : Attributed server initial where
  toExclusive := exclusive_initial
  quiet := by simp [initial]
  owes := by simp [initial]
  answered := by simp [initial]

/-- `r.conn` is an open connection that exists. -/
theorem Exclusive.connFound {s : State} (inv : Exclusive s) {n : Nat} (conn : s.conn = some n) :
    ∃ c, s.conns[n]? = some c ∧ c.closed = false := by
  have isOpen := inv.connOpen n conn
  simp only [List.getElem?_map, Option.map_eq_some'] at isOpen
  exact isOpen

/-- With the holder of the mutex outside `try`, `r.conn` carries nothing. -/
theorem Attributed.idle_of_holder {server : Server} {s : State} (inv : Attributed server s)
    {i : Nat} {c : Caller} (found : s.callers[i]? = some c) (holds : c.pc.holdsLock = true)
    (notWaiting : ∀ a k, c.pc ≠ .tryWait a k) :
    ∀ (n : Nat) (d : Conn), s.conn = some n → s.conns[n]? = some d → d.idle := by
  intro n d conn connFound
  rcases inv.quiet n d conn connFound with idle | ⟨j, e, a, k, waiter, atWait⟩
  · exact idle
  · have same := inv.mutex.unique found holds waiter (by simp [atWait, CallerPc.holdsLock])
    subst same
    rw [found, Option.some_inj] at waiter
    subst waiter
    exact absurd atWait (notWaiting a k)

/-- After caller `i` moves, the callers that succeeded hold their replies, given that `i` does. -/
theorem Attributed.answered_of_set {server : Server} {s s' : State} (inv : Attributed server s)
    {i : Nat} {c c' : Caller} (found : s.callers[i]? = some c)
    (callers : s'.callers = s.callers.set i c')
    (answers : ∀ q reply, c'.query = some q →
      (c'.pc = .unlock (reply, none) ∨ c'.pc = .done (reply, none)) → reply = server.reply q) :
    ∀ (j : Nat) (d : Caller) (q reply : Bytes), s'.callers[j]? = some d →
      d.query = some q → (d.pc = .unlock (reply, none) ∨ d.pc = .done (reply, none)) →
      reply = server.reply q := by
  intro j d q reply found' asked success
  rw [callers, getElem?_set_of_found found] at found'
  split at found'
  · cases found'
    exact answers q reply asked success
  · exact inv.answered j d q reply found' asked success

/-- A move of caller `i` that keeps its query and whether and on what it waits, and leaves the
goroutines and the connections alone, keeps `Attributed` when it keeps every success. -/
theorem Attributed.of_callerMove {server : Server} {s s' : State} (inv : Attributed server s)
    (exclusive : Exclusive s') {i : Nat} {c c' : Caller} (found : s.callers[i]? = some c)
    (callers : s'.callers = s.callers.set i c') (query : c'.query = c.query)
    (waits : ∀ a k, c'.pc = .tryWait a k ↔ c.pc = .tryWait a k)
    (tasks : s'.tasks = s.tasks) (conn : s'.conn = s.conn) (conns : s'.conns = s.conns)
    (answers : ∀ reply, (c'.pc = .unlock (reply, none) ∨ c'.pc = .done (reply, none)) →
      c.pc = .unlock (reply, none) ∨ c.pc = .done (reply, none)) : Attributed server s' where
  toExclusive := exclusive
  quiet := by
    intro n d conn' connFound
    rw [conn] at conn'
    rw [conns] at connFound
    rcases inv.quiet n d conn' connFound with idle | ⟨j, e, a, k, waiter, atWait⟩
    · exact .inl idle
    · right
      rw [callers]
      by_cases atI : j = i
      · subst atI
        rw [found, Option.some_inj] at waiter
        subst waiter
        exact ⟨j, c', a, k, by rw [getElem?_set_of_found found, if_pos rfl], (waits a k).mpr atWait⟩
      · exact ⟨j, e, a, k, by rw [getElem?_set_of_found found, if_neg atI]; exact waiter, atWait⟩
  owes := by
    intro j d a k t n e found' atWait task conn' connFound
    rw [tasks] at task
    rw [conn] at conn'
    rw [conns] at connFound
    rw [callers, getElem?_set_of_found found] at found'
    split at found'
    · cases found'
      exact inv.owes i c a k t n e found ((waits a k).mp atWait) task conn' connFound
    · exact inv.owes j d a k t n e found' atWait task conn' connFound
  answered := inv.answered_of_set found callers fun q reply asked success =>
    inv.answered i c q reply found (query ▸ asked) (answers reply success)

/-- A move of the mutex holder to a point outside `try`, after which `r.conn` carries nothing,
keeps `Attributed` when the holder holds the server's reply if it succeeded. -/
theorem Attributed.of_holder {server : Server} {s s' : State} (inv : Attributed server s)
    (exclusive : Exclusive s') {i : Nat} {c : Caller} (found : s.callers[i]? = some c)
    (c' : Caller) (callers : s'.callers = s.callers.set i c') (holds : c'.pc.holdsLock = true)
    (notWaiting : ∀ a k, c'.pc ≠ .tryWait a k)
    (idle : ∀ (n : Nat) (d : Conn), s'.conn = some n → s'.conns[n]? = some d → d.idle)
    (answers : ∀ q reply, c'.query = some q →
      (c'.pc = .unlock (reply, none) ∨ c'.pc = .done (reply, none)) → reply = server.reply q) :
    Attributed server s' where
  toExclusive := exclusive
  quiet := fun n d conn connFound => .inl (idle n d conn connFound)
  owes := by
    intro j d a k t n e found' atWait
    have holder : s'.callers[i]? = some c' := by rw [callers, getElem?_set_of_found found, if_pos rfl]
    have same := exclusive.mutex.unique holder holds found' (by simp [atWait, CallerPc.holdsLock])
    subst same
    rw [holder, Option.some_inj] at found'
    subst found'
    exact absurd atWait (notWaiting a k)
  answered := inv.answered_of_set found callers answers

/-- A step of the running goroutine that leaves the callers and `r.conn` alone keeps
`Attributed` when the goroutine is owed what `r.conn` then carries. -/
theorem Attributed.of_taskMove {server : Server} {s s' : State} (inv : Attributed server s)
    (exclusive : Exclusive s') {k : Nat} {t : Task} (found : s.tasks[k]? = some t)
    (unfinished : t.pc.finished = false) (callers : s'.callers = s.callers)
    (conn : s'.conn = s.conn)
    (owes : ∀ (n : Nat) (t' : Task) (c' : Conn), s.conn = some n → s'.tasks[k]? = some t' →
      s'.conns[n]? = some c' → Owes server t' c') : Attributed server s' where
  toExclusive := exclusive
  quiet := by
    intro n d _ _
    obtain ⟨j, e, a, waiter, atWait⟩ := inv.owned k t found unfinished
    exact .inr ⟨j, e, a, k, by rw [callers]; exact waiter, atWait⟩
  owes := by
    intro j d a k' t' n c' found' atWait task conn' connFound
    rw [callers] at found'
    rw [conn] at conn'
    obtain ⟨j', e, a', waiter, atWait'⟩ := inv.owned k t found unfinished
    have same := inv.mutex.unique found' (by simp [atWait, CallerPc.holdsLock]) waiter
      (by simp [atWait', CallerPc.holdsLock])
    subst same
    rw [found', Option.some_inj] at waiter
    subst waiter
    obtain ⟨-, rfl⟩ := CallerPc.tryWait.inj (atWait.symm.trans atWait')
    exact owes n t' c' conn' task connFound
  answered := by
    rw [callers]
    exact inv.answered

/-- A network step on one connection keeps `Attributed` when it keeps that connection idle, and
keeps what every goroutine is owed. -/
theorem Attributed.of_setConn {server : Server} {s : State} (inv : Attributed server s)
    {m : Nat} {c c' : Conn} (exclusive : Exclusive (s.setConn m c'))
    (found : s.conns[m]? = some c) (keepsIdle : c.idle → c'.idle)
    (keepsOwes : ∀ t, Owes server t c → Owes server t c') : Attributed server (s.setConn m c') where
  toExclusive := exclusive
  quiet := by
    intro n d conn connFound
    simp only [State.setConn] at connFound
    rw [getElem?_set_of_found found] at connFound
    split at connFound
    · subst_vars
      cases connFound
      exact (inv.quiet _ c conn found).imp_left keepsIdle
    · exact inv.quiet n d conn connFound
  owes := by
    intro j e a k t n d found' atWait task conn connFound
    simp only [State.setConn] at connFound
    rw [getElem?_set_of_found found] at connFound
    split at connFound
    · subst_vars
      cases connFound
      exact keepsOwes t (inv.owes j e a k t _ c found' atWait task conn found)
    · exact inv.owes j e a k t n d found' atWait task conn connFound
  answered := inv.answered

/-- `do` takes a result without error from `try` to `Unlock` as it is. -/
theorem afterTry_eq_success {attempt : Attempt} {out : GoResult Bytes} {reply : Bytes}
    (success : afterTry attempt out = .unlock (reply, none)) : out = (reply, none) := by
  obtain ⟨result, err⟩ := out
  cases attempt <;> cases err <;> simp only [afterTry] at success
  all_goals first
    | (cases success; rfl)
    | (split_ifs at success <;> cases success)
    | simp at success

/-- `do` never returns from `try` straight past `Unlock`. -/
theorem afterTry_ne_done (attempt : Attempt) (out result : GoResult Bytes) :
    afterTry attempt out ≠ .done result := fun returned => by
  have holds := (afterTry_holdsLock attempt out).1
  rw [returned] at holds
  cases holds

/-- Every caller step keeps `Attributed`. -/
theorem attributed_callerStep {server : Server} {s s' : State} (inv : Attributed server s)
    (exclusive : Exclusive s') {i : Nat} {c : Caller} (found : s.callers[i]? = some c)
    (stepped : callerStep s i c = some s') : Attributed server s' := by
  unfold callerStep at stepped
  split at stepped
  case h_1 atEntry =>
      cases stepped
      exact inv.of_callerMove exclusive found rfl rfl (by simp [atEntry]) rfl rfl rfl (by simp)
  case h_2 atWaitLock =>
      split at stepped <;> cases stepped
      exact inv.of_callerMove exclusive found rfl rfl (by simp [atWaitLock]) rfl rfl rfl (by simp)
  case h_3 atLocked =>
      cases stepped
      exact inv.of_callerMove exclusive found rfl rfl (by simp [atLocked]) rfl rfl rfl (by simp)
  case h_4 atRtrip =>
      have idle := inv.idle_of_holder found (by simp [atRtrip, CallerPc.holdsLock])
        (by simp [atRtrip])
      split at stepped <;> cases stepped
      · rename_i sentinel
        by_cases closing : s.users = 0 ∧ s.conn.isSome = true
        · rw [if_pos closing] at exclusive ⊢
          exact inv.of_holder exclusive found { c with pc := .unlock ([], none) } (by simp) rfl
            (by simp) (by simp) fun _ _ asked _ => by simp [sentinel] at asked
        · rw [if_neg closing] at exclusive ⊢
          exact inv.of_holder exclusive found _ rfl rfl (by simp) idle
            fun _ _ asked _ => by simp [sentinel] at asked
      · exact inv.of_callerMove exclusive found rfl rfl (by split <;> simp [atRtrip]) rfl rfl rfl
          (by split <;> simp)
  case h_5 attempt atDial =>
      cases stepped
      refine inv.of_holder exclusive found _ rfl rfl (by simp) ?_ (by simp)
      intro n d current found'
      cases current
      simp only [List.getElem?_concat_length, Option.some_inj] at found'
      subst found'
      simp [Conn.idle, Conn.received, Conn.fresh]
  case h_6 attempt atStart =>
      split at stepped <;> cases stepped
      rename_i query asked
      have idle := inv.idle_of_holder found (by simp [atStart, CallerPc.holdsLock])
        (by simp [atStart])
      refine ⟨exclusive, ?_, ?_, inv.answered_of_set found rfl (by simp)⟩
      · intro _ _ _ _
        exact .inr ⟨i, _, attempt, s.tasks.length,
          by simp only [State.setCaller]; rw [getElem?_set_of_found found, if_pos rfl], rfl⟩
      · intro j d a k t n e found' atWait task conn connFound
        simp only [State.setCaller] at found'
        rw [getElem?_set_of_found found] at found'
        split at found'
        · cases found'
          obtain ⟨rfl, rfl⟩ := CallerPc.tryWait.inj atWait
          rw [List.getElem?_concat_length, Option.some_inj] at task
          subst task
          exact idle n e conn connFound
        · have same := inv.mutex.unique found (by simp [atStart, CallerPc.holdsLock]) found'
            (by simp [atWait, CallerPc.holdsLock])
          exact absurd same.symm ‹¬j = i›
  case h_7 attempt k atWait =>
      split at stepped <;> cases stepped
      rename_i _ query deferred out sent
      obtain ⟨t, n, task, asked, current, _⟩ := inv.waiting i c attempt k found atWait
      rw [sent, Option.some_inj] at task
      subst task
      obtain ⟨conn, connFound, _⟩ := inv.connFound current
      have owes := inv.owes i c attempt k _ n conn found atWait sent current connFound
      simp only [Owes] at owes
      refine inv.of_holder exclusive found _ rfl (afterTry_holdsLock attempt out).1
        (afterTry_not_try attempt out).2 ?_ ?_
      · intro n' d current' found'
        change s.conn = some n' at current'
        change s.conns[n']? = some d at found'
        rw [current, Option.some_inj] at current'
        subst current'
        rw [connFound, Option.some_inj] at found'
        subst found'
        exact owes.1
      · intro q reply asked' success
        rcases success with success | success
        · obtain rfl := afterTry_eq_success success
          rw [asked, Option.some_inj] at asked'
          subst asked'
          exact owes.2 rfl
        · exact absurd success (afterTry_ne_done _ _ _)
  case h_8 atRedial =>
      cases stepped
      exact inv.of_holder exclusive found { c with pc := .dial .retry } (by simp) rfl (by simp)
        (by simp) (by simp)
  case h_9 out atUnlock =>
      cases stepped
      refine inv.of_callerMove exclusive found rfl rfl (by simp [atUnlock]) rfl rfl rfl ?_
      intro reply success
      simp only [reduceCtorEq, CallerPc.done.injEq, false_or] at success
      exact .inl (by rw [atUnlock, success])
  case h_10 =>
      cases stepped

/-- Every step other than a read past its deadline or a `select` won by `ctx.Done()` keeps
`Attributed`. -/
theorem attributed_step {server : Server} {s s' : State} {e : Event} (inv : Attributed server s)
    (uninterrupted : e.interrupts = false) (stepped : step server s e = some s') :
    Attributed server s' := by
  have exclusive := exclusive_step inv.toExclusive
    (by simp_all [Event.interrupts]) stepped
  have live := inv.notPanicked
  cases e with
  | call query =>
      simp only [step, live, Bool.false_eq_true, ↓reduceIte] at stepped
      cases stepped
      refine ⟨exclusive, ?_, ?_, ?_⟩
      · intro n d conn connFound
        rcases inv.quiet n d conn connFound with idle | ⟨j, e, a, k, waiter, atWait⟩
        · exact .inl idle
        · exact .inr ⟨j, e, a, k, getElem?_concat_of_found waiter, atWait⟩
      · intro j d a k t n c found atWait
        rcases getElem?_concat_eq_some.mp found with found | ⟨_, rfl⟩
        · exact inv.owes j d a k t n c found atWait
        · cases atWait
      · intro j d q reply found asked success
        rcases getElem?_concat_eq_some.mp found with found | ⟨_, rfl⟩
        · exact inv.answered j d q reply found asked success
        · simp at success
  | cancel i =>
      simp only [step, live, Bool.false_eq_true, ↓reduceIte] at stepped
      split at stepped <;> cases stepped
      rename_i c found
      exact inv.of_callerMove exclusive found rfl rfl (fun _ _ => Iff.rfl) rfl rfl rfl fun _ => id
  | caller i =>
      simp only [step, live, Bool.false_eq_true, ↓reduceIte] at stepped
      split at stepped
      · exact attributed_callerStep inv exclusive ‹_› stepped
      · cases stepped
  | dialFail i err =>
      simp only [step, live, Bool.false_eq_true, ↓reduceIte] at stepped
      split at stepped <;> cases stepped
      rename_i query cancelled attempt found
      exact inv.of_callerMove exclusive found rfl rfl (by simp) rfl rfl rfl (by simp)
  | contextDone i =>
      simp [Event.interrupts, Event.contextWins] at uninterrupted
  | task k =>
      simp only [step, live, Bool.false_eq_true, ↓reduceIte] at stepped
      split at stepped
      · rename_i t found
        have unfinished : t.pc.finished = false := by
          cases atSent : t.pc with
          | sent out => simp [taskStep, atSent] at stepped
          | _ => rfl
        obtain ⟨i, c, a, waiter, atWait⟩ := inv.owned k t found unfinished
        obtain ⟨u, n, task, _, current, onN⟩ := inv.waiting i c a k waiter atWait
        rw [found, Option.some_inj] at task
        subst task
        obtain ⟨conn, connFound, isOpen⟩ := inv.connFound current
        obtain ⟨t', c', task', connFound', owes'⟩ := taskStep_owes found current onN connFound isOpen
          (inv.owes i c a k t n conn waiter atWait found current connFound) stepped
        obtain ⟨_, _, _, _, callers, sameConn, _, _⟩ := taskStep_onConn current onN stepped
        refine inv.of_taskMove exclusive found unfinished callers sameConn ?_
        intro n' t'' c'' current' task'' connFound''
        rw [current, Option.some_inj] at current'
        subst current'
        rw [task', Option.some_inj] at task''
        subst task''
        rw [connFound', Option.some_inj] at connFound''
        subst connFound''
        exact owes'
      · cases stepped
  | writeFail k err =>
      simp only [step, live, Bool.false_eq_true, ↓reduceIte] at stepped
      repeat' split at stepped
      all_goals cases stepped
      rename_i _ t found _ n atWriting _ _ _ _ _ _
      have unfinished : t.pc.finished = false := by simp [atWriting, TaskPc.finished]
      refine inv.of_taskMove exclusive found unfinished rfl rfl ?_
      intro n' t' c' current task connFound
      rw [State.setTask_getElem? found, Option.some_inj] at task
      subst task
      obtain ⟨i, c, a, waiter, atWait⟩ := inv.owned k t found unfinished
      have owes := inv.owes i c a k t n' c' waiter atWait found current connFound
      simp only [Owes, atWriting] at owes
      simp only [Owes]
      exact ⟨owes.2, fun failed => by cases failed⟩
  | timeout k consumed =>
      simp [Event.interrupts, Event.deadlinePasses] at uninterrupted
  | serve m =>
      simp only [step, live, Bool.false_eq_true, ↓reduceIte] at stepped
      repeat' split at stepped
      all_goals cases stepped
      rename_i _ c found _ query rest taken _
      exact inv.of_setConn exclusive found
        (fun idle => absurd taken (by rw [takeFrame?_of_toServer_nil idle.1]; simp))
        (fun _ owes => owes.serve taken)
  | deliver m count =>
      simp only [step, live, Bool.false_eq_true, ↓reduceIte] at stepped
      repeat' split at stepped
      all_goals cases stepped
      rename_i _ c found _
      exact inv.of_setConn exclusive found
        (fun idle => ⟨idle.1, by rw [Conn.deliver_received]; exact idle.2⟩)
        (fun _ owes => owes.of_same rfl (Conn.deliver_received ..))

/-- Along every run without a read past its deadline and without a `select` won by
`ctx.Done()`, `Attributed` holds. -/
theorem attributed_of_run {server : Server} {s : State} (events : List Event)
    (uninterrupted : ∀ e ∈ events, e.interrupts = false)
    (ran : run server initial events = some s) : Attributed server s :=
  run_invariant_of (fun _ _ _ allowed inv stepped => attributed_step inv allowed stepped)
    events uninterrupted (attributed_initial server) ran

/-- In every run without a read past its deadline and without a `select` won by `ctx.Done()`,
against every server that answers each query with one frame: a `roundTrip` that returns a reply
with a `nil` error, or is about to, returns the server's reply to the query it wrote. -/
theorem roundTrip_returns_own_reply {server : Server} {s : State} (events : List Event)
    (uninterrupted : ∀ e ∈ events, e.interrupts = false)
    (ran : run server initial events = some s) :
    ∀ (i : Nat) (c : Caller) (query reply : Bytes), s.callers[i]? = some c →
      c.query = some query → (c.pc = .unlock (reply, none) ∨ c.pc = .done (reply, none)) →
      reply = server.reply query :=
  (attributed_of_run events uninterrupted ran).answered

/-- The echo call is such a run: its caller returns the echo of its query. -/
theorem roundTrip_returns_own_reply_echo :
    (∀ e ∈ echoCallRun, e.interrupts = false) ∧ run echoServer initial echoCallRun = some echoCallState ∧
    echoCallState.callers = [{ query := some [1], cancelled := false, pc := .done ([1], none) }] ∧
    ∀ (i : Nat) (c : Caller) (query reply : Bytes), echoCallState.callers[i]? = some c →
      c.query = some query → (c.pc = .unlock (reply, none) ∨ c.pc = .done (reply, none)) →
      reply = echoServer.reply query :=
  ⟨by decide, run_echoCallRun, rfl, roundTrip_returns_own_reply echoCallRun (by decide) run_echoCallRun⟩

/-- Call 0's read times out before its reply arrives; the reply then arrives, and call 1 reads
it as its own. -/
def staleReplyRun : List Event :=
  [.call (some [1]), .caller 0, .caller 0, .caller 0, .caller 0, .caller 0, .caller 0,
   .task 0, .task 0, .task 0, .task 0, .task 0, .timeout 0 0, .task 0, .task 0,
   .caller 0, .caller 0, .serve 0, .deliver 0 3,
   .call (some [2]), .caller 1, .caller 1, .caller 1, .caller 1, .caller 1,
   .task 1, .task 1, .task 1, .task 1, .task 1, .task 1, .task 1, .task 1, .task 1, .task 1,
   .caller 1, .caller 1]

/-- Call 0's read times out one byte into the body of its three-byte reply; call 1 takes the
reply's last two bytes for a header and reads two bytes of its own reply's frame as the body. -/
def cutReplyRun : List Event :=
  [.call (some [7, 0, 2]), .caller 0, .caller 0, .caller 0, .caller 0, .caller 0, .caller 0,
   .task 0, .task 0, .task 0, .task 0, .serve 0, .deliver 0 3, .task 0, .task 0, .task 0,
   .timeout 0 1, .task 0, .task 0, .caller 0, .caller 0, .deliver 0 2,
   .call (some [4]), .caller 1, .caller 1, .caller 1, .caller 1, .caller 1,
   .task 1, .task 1, .task 1, .task 1, .serve 0, .deliver 0 3,
   .task 1, .task 1, .task 1, .task 1, .task 1, .task 1, .caller 1, .caller 1]

/-- Call 0 is cancelled after its goroutine wrote the query and before it calls `io.ReadFull`;
call 1's goroutine reads first, and reads the reply to call 0's query. -/
def stolenReplyRun : List Event :=
  [.call (some [1]), .caller 0, .caller 0, .caller 0, .caller 0, .caller 0, .caller 0,
   .task 0, .task 0, .task 0, .task 0, .cancel 0, .contextDone 0, .caller 0,
   .call (some [2]), .caller 1, .caller 1, .caller 1, .caller 1, .caller 1,
   .task 1, .task 1, .task 1, .task 1, .task 1, .serve 0, .deliver 0 3,
   .task 1, .task 1, .task 1, .task 1, .task 1, .caller 1, .caller 1]

/-- Either interruption alone makes a call return, with a `nil` error, a reply that is not the
echo server's reply to its query: after a read timed out, the reply to the earlier query, or
bytes cut from the middle of two frames; after a cancellation, the reply to the cancelled
call's query. -/
theorem interrupted_read_misattributes_reply :
    (∃ events, (∀ e ∈ events, e.contextWins = false) ∧ ∃ s, run echoServer initial events = some s ∧
      s.callers[1]? = some { query := some [2], cancelled := false, pc := .done ([1], none) }) ∧
    (∃ events, (∀ e ∈ events, e.contextWins = false) ∧ ∃ s, run echoServer initial events = some s ∧
      s.callers[1]? = some { query := some [4], cancelled := false, pc := .done ([0, 1], none) }) ∧
    (∃ events, (∀ e ∈ events, e.deadlinePasses = false) ∧
      ∃ s, run echoServer initial events = some s ∧
      s.callers[1]? = some { query := some [2], cancelled := false, pc := .done ([1], none) }) ∧
    echoServer.reply [2] = [2] ∧ echoServer.reply [4] = [4] := by
  refine ⟨⟨staleReplyRun, by decide, ?_⟩, ⟨cutReplyRun, by decide, ?_⟩,
    ⟨stolenReplyRun, by decide, ?_⟩, rfl, rfl⟩
  · have ends : (run echoServer initial staleReplyRun).any (fun s => s.callers[1]? ==
        some { query := some [2], cancelled := false, pc := .done ([1], none) }) = true := by
      decide
    obtain ⟨s, ran, holds⟩ := exists_of_run_any ends
    exact ⟨s, ran, beq_iff_eq.mp holds⟩
  · have ends : (run echoServer initial cutReplyRun).any (fun s => s.callers[1]? ==
        some { query := some [4], cancelled := false, pc := .done ([0, 1], none) }) = true := by
      decide
    obtain ⟨s, ran, holds⟩ := exists_of_run_any ends
    exact ⟨s, ran, beq_iff_eq.mp holds⟩
  · have ends : (run echoServer initial stolenReplyRun).any (fun s => s.callers[1]? ==
        some { query := some [2], cancelled := false, pc := .done ([1], none) }) = true := by
      decide
    obtain ⟨s, ran, holds⟩ := exists_of_run_any ends
    exact ⟨s, ran, beq_iff_eq.mp holds⟩

end ProbeResolver.TcpTls
