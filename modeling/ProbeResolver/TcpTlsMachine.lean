import ProbeResolver.Errors

namespace ProbeResolver.TcpTls

/-!
# The TCP/TLS resolver as a state machine

`dnsOverTCPTLSResolver` keeps one persistent connection in `conn`, a mutex
`mu` and an atomic waiter counter `users`. Every `roundTrip` call is a
goroutine of its own; `CloseIdleConnections` is a `roundTrip` with the `nil`
sentinel query. Inside the mutex, `try` starts an `asyncTry` goroutine for the
I/O and waits in a `select` for either its result or the caller's context, so
the I/O of a cancelled call goes on in the background.

The state records every caller goroutine, every `asyncTry` goroutine, the
fields of the resolver, and every connection ever dialed with the bytes in
transit in both directions. One step is one atomic action of one goroutine, or
of the network: the server answering a complete query, or some reply bytes
arriving. The `Event` of a step fixes every choice the environment makes
(which goroutine runs, whether a dial or a write fails, how many bytes a
timed-out read had consumed), so `step` is a function and a run is a list of
events.

Reading `dl.conn` in `trySync` when another goroutine has set it to `nil`
calls a method on a `nil` interface, which panics and ends the process; the
state records that in `panicked`, after which no step is possible.
-/

/-- Which call of `try` in `do` a caller is in: the first, or the one after a redial. -/
inductive Attempt where
  | first
  | retry
  deriving Repr, DecidableEq

/-- The program point of a `roundTrip` goroutine. -/
inductive CallerPc where
  /-- About to run `atomic.AddInt32(&r.users, 1)`. -/
  | entry
  /-- Parked in `r.mu.Lock()`. -/
  | waitLock
  /-- Holds `r.mu`, about to run `atomic.AddInt32(&r.users, -1)`. -/
  | locked
  /-- In `rtriplocked`: the sentinel check, or `maybeDial`. -/
  | rtrip
  /-- In `forceDial`, about to call `dl.dial`. -/
  | dial (attempt : Attempt)
  /-- In `try`, about to start `asyncTry`. -/
  | tryStart (attempt : Attempt)
  /-- In `try`'s `select`, waiting for the result of goroutine `task`. -/
  | tryWait (attempt : Attempt) (task : Nat)
  /-- In `do` after a redial hint: `forceDial` is about to close `dl.conn`. -/
  | redial
  /-- Back in `roundTrip` with the result, about to run `r.mu.Unlock()`. -/
  | unlock (out : GoResult Bytes)
  /-- `roundTrip` has returned. -/
  | done (out : GoResult Bytes)
  deriving Repr, DecidableEq

/-- One `roundTrip` goroutine. -/
structure Caller where
  /-- The query; `none` is the `nil` sentinel of `CloseIdleConnections`. -/
  query : Option Bytes
  /-- Whether the caller's context is done. -/
  cancelled : Bool
  pc : CallerPc
  deriving Repr, DecidableEq

/-- The program point of an `asyncTry` goroutine, which runs `trySync`. -/
inductive TaskPc where
  /-- About to check the query length and `defer dl.conn.SetDeadline(time.Time{})`. -/
  | start
  /-- About to run `dl.conn.SetDeadline(time.Now().Add(10 * time.Second))`. -/
  | setDeadline
  /-- About to evaluate `dl.conn` for `dl.conn.Write(buf)`. -/
  | write
  /-- In `Write` on connection `conn`. -/
  | writing (conn : Nat)
  /-- About to evaluate `dl.conn` for `io.ReadFull(dl.conn, header)`. -/
  | readHeader
  /-- In `io.ReadFull` of the 2-byte header on connection `conn`. -/
  | readingHeader (conn : Nat)
  /-- About to call `io.ReadFull(dl.conn, reply)` for `length` bytes. -/
  | readBody (length : Nat)
  /-- In `io.ReadFull` of the `length`-byte reply on connection `conn`. -/
  | readingBody (conn : Nat) (length : Nat)
  /-- Returning `out`; the deferred `SetDeadline(time.Time{})` runs first. -/
  | clearDeadline (out : GoResult Bytes)
  /-- About to send `out` on the buffered result channel. -/
  | send (out : GoResult Bytes)
  /-- `out` is in the channel, or already received. -/
  | sent (out : GoResult Bytes)
  deriving Repr, DecidableEq

/-- One `asyncTry` goroutine. -/
structure Task where
  query : Bytes
  /-- The connection the deferred `SetDeadline` was bound to, once `defer` ran. -/
  deferred : Option Nat
  pc : TaskPc
  deriving Repr, DecidableEq

/-- One dialed connection and the bytes in transit on it. -/
structure Conn where
  closed : Bool
  /-- Whether an I/O deadline is set. -/
  deadline : Bool
  /-- Written by the client, not yet read by the server. -/
  toServer : Bytes
  /-- Sent by the server, not yet arrived at the client. -/
  inFlight : Bytes
  /-- Arrived at the client, not yet read. -/
  toClient : Bytes
  deriving Repr, DecidableEq

/-- A freshly dialed connection. -/
def Conn.fresh : Conn :=
  { closed := false, deadline := false, toServer := [], inFlight := [], toClient := [] }

/-- The resolver, its goroutines and its connections. -/
structure State where
  /-- `r.conn`: an index into `conns`, or `nil`. -/
  conn : Option Nat
  /-- `r.users`, an `int32` updated atomically. -/
  users : BitVec 32
  /-- The caller holding `r.mu`, if it is locked. -/
  mu : Option Nat
  conns : List Conn
  callers : List Caller
  tasks : List Task
  panicked : Bool
  deriving Repr

/-- A new resolver: no connection, no goroutine. -/
def initial : State :=
  { conn := none, users := 0, mu := none, conns := [], callers := [], tasks := [],
    panicked := false }

/-- A DNS server that answers every query with one reply short enough to frame. -/
structure Server where
  reply : Bytes → Bytes
  reply_short : ∀ query, (reply query).length < 65536

/-- A server that echoes every query back, cut to what a frame can hold. -/
def echoServer : Server where
  reply query := query.take 65535
  reply_short query := by simp only [List.length_take]; omega

/-- One step of the system; the event fixes every choice of the environment. -/
inductive Event where
  /-- A goroutine calls `roundTrip`; `none` is `CloseIdleConnections`. -/
  | call (query : Option Bytes)
  /-- The context of caller `caller` is cancelled or expires. -/
  | cancel (caller : Nat)
  /-- Caller `caller` takes its next step; a dial succeeds. -/
  | caller (caller : Nat)
  /-- The dial of caller `caller` fails with `err`. -/
  | dialFail (caller : Nat) (err : GoError)
  /-- The `select` of caller `caller` takes `ctx.Done()`. -/
  | contextDone (caller : Nat)
  /-- Goroutine `task` takes its next step; I/O succeeds. -/
  | task (task : Nat)
  /-- The `Write` of goroutine `task` fails with `err`. -/
  | writeFail (task : Nat) (err : GoError)
  /-- The deadline of the read of goroutine `task` passes after `consumed` bytes. -/
  | timeout (task : Nat) (consumed : Nat)
  /-- The server reads one complete query from connection `conn` and answers it. -/
  | serve (conn : Nat)
  /-- `count` bytes of the server's replies on connection `conn` arrive. -/
  | deliver (conn : Nat) (count : Nat)
  deriving Repr, DecidableEq

/-- `net.ErrClosed`: I/O on a closed connection. -/
def errClosed : GoError :=
  .library "use of closed network connection"

/-- `os.ErrDeadlineExceeded`: I/O past its deadline. -/
def errDeadlineExceeded : GoError :=
  .library "i/o timeout"

/-- `buf` in `trySync`: the 2-byte big-endian length, then the message. -/
def frame (message : Bytes) : Bytes :=
  (message.length >>> 8).toUInt8 :: message.length.toUInt8 :: message

/-- `int(header[0])<<8 | int(header[1])`. -/
def headerLength (hi lo : UInt8) : Nat :=
  hi.toNat <<< 8 ||| lo.toNat

/-- The first complete length-prefixed message of a stream, and the bytes after it. -/
def takeFrame? : Bytes → Option (Bytes × Bytes)
  | hi :: lo :: rest =>
      if headerLength hi lo ≤ rest.length then
        some (rest.take (headerLength hi lo), rest.drop (headerLength hi lo))
      else
        none
  | _ => none

namespace State

/-- Replace caller `i`. -/
@[simp] def setCaller (s : State) (i : Nat) (c : Caller) : State :=
  { s with callers := s.callers.set i c }

/-- Replace goroutine `k`. -/
@[simp] def setTask (s : State) (k : Nat) (t : Task) : State :=
  { s with tasks := s.tasks.set k t }

/-- Replace connection `n`. -/
@[simp] def setConn (s : State) (n : Nat) (c : Conn) : State :=
  { s with conns := s.conns.set n c }

/-- Set or clear the deadline of connection `n`, if there is one. -/
def setDeadline (s : State) (n : Nat) (deadline : Bool) : State :=
  match s.conns[n]? with
  | some c => s.setConn n { c with deadline := deadline }
  | none => s

/-- `r.conn.Close(); r.conn = nil` when `r.conn` is set. -/
def closeConn (s : State) : State :=
  match s.conn with
  | some n =>
      match s.conns[n]? with
      | some c => { s.setConn n { c with closed := true } with conn := none }
      | none => { s with conn := none }
  | none => s

@[simp] theorem setDeadline_callers (s : State) (n : Nat) (deadline : Bool) :
    (s.setDeadline n deadline).callers = s.callers := by
  unfold setDeadline; split <;> rfl

@[simp] theorem setDeadline_tasks (s : State) (n : Nat) (deadline : Bool) :
    (s.setDeadline n deadline).tasks = s.tasks := by
  unfold setDeadline; split <;> rfl

@[simp] theorem setDeadline_users (s : State) (n : Nat) (deadline : Bool) :
    (s.setDeadline n deadline).users = s.users := by
  unfold setDeadline; split <;> rfl

@[simp] theorem setDeadline_mu (s : State) (n : Nat) (deadline : Bool) :
    (s.setDeadline n deadline).mu = s.mu := by
  unfold setDeadline; split <;> rfl

@[simp] theorem setDeadline_conn (s : State) (n : Nat) (deadline : Bool) :
    (s.setDeadline n deadline).conn = s.conn := by
  unfold setDeadline; split <;> rfl

@[simp] theorem setDeadline_panicked (s : State) (n : Nat) (deadline : Bool) :
    (s.setDeadline n deadline).panicked = s.panicked := by
  unfold setDeadline; split <;> rfl

@[simp] theorem closeConn_callers (s : State) : s.closeConn.callers = s.callers := by
  unfold closeConn; repeat' split
  all_goals rfl

@[simp] theorem closeConn_tasks (s : State) : s.closeConn.tasks = s.tasks := by
  unfold closeConn; repeat' split
  all_goals rfl

@[simp] theorem closeConn_users (s : State) : s.closeConn.users = s.users := by
  unfold closeConn; repeat' split
  all_goals rfl

@[simp] theorem closeConn_mu (s : State) : s.closeConn.mu = s.mu := by
  unfold closeConn; repeat' split
  all_goals rfl

@[simp] theorem closeConn_conn (s : State) : s.closeConn.conn = none := by
  unfold closeConn; repeat' split
  all_goals simp_all

@[simp] theorem closeConn_panicked (s : State) : s.closeConn.panicked = s.panicked := by
  unfold closeConn; repeat' split
  all_goals rfl

end State

/-- What `do` makes of the result of `try`: return it, or redial after a first redial hint. -/
def afterTry : Attempt → GoResult Bytes → CallerPc
  | .first, (reply, none) => .unlock (reply, none)
  | .first, (_, some err) => if err.asRedial then .redial else .unlock ([], some err)
  | .retry, out => .unlock out

/-- The next step of caller `i`, whose record is `c`, when the environment does not interfere. -/
def callerStep (s : State) (i : Nat) (c : Caller) : Option State :=
  match c.pc with
  | .entry =>
      some { s.setCaller i { c with pc := .waitLock } with users := s.users + 1 }
  | .waitLock =>
      if s.mu = none then some { s.setCaller i { c with pc := .locked } with mu := some i }
      else none
  | .locked =>
      some { s.setCaller i { c with pc := .rtrip } with users := s.users - 1 }
  | .rtrip =>
      match c.query with
      | none =>
          let s := if s.users = 0 ∧ s.conn.isSome then s.closeConn else s
          some (s.setCaller i { c with pc := .unlock ([], none) })
      | some _ =>
          some (s.setCaller i
            { c with pc := if s.conn.isSome then .tryStart .first else .dial .first })
  | .dial attempt =>
      some { s.setCaller i { c with pc := .tryStart attempt } with
        conn := some s.conns.length, conns := s.conns ++ [Conn.fresh] }
  | .tryStart attempt =>
      match c.query with
      | some query =>
          some { s.setCaller i { c with pc := .tryWait attempt s.tasks.length } with
            tasks := s.tasks ++ [{ query := query, deferred := none, pc := .start }] }
      | none => none
  | .tryWait attempt k =>
      match s.tasks[k]? with
      | some { pc := .sent out, .. } => some (s.setCaller i { c with pc := afterTry attempt out })
      | _ => none
  | .redial =>
      some (s.closeConn.setCaller i { c with pc := .dial .retry })
  | .unlock out =>
      some { s.setCaller i { c with pc := .done out } with mu := none }
  | .done _ =>
      none

/-- The next step of goroutine `k`, whose record is `t`, when every I/O call succeeds.

An `io.ReadFull` takes the bytes that have arrived, one step at a time. Two goroutines reading one
connection are not serialised as the `Read`s of a `net.Conn` are: their reads may interleave, which
over-approximates the schedules of the Go program. -/
def taskStep (s : State) (k : Nat) (t : Task) : Option State :=
  match t.pc with
  | .start =>
      if t.query.length > 65535 then
        some (s.setTask k { t with pc := .send ([], some .dnsOverTCPTLSQueryTooLong) })
      else
        match s.conn with
        | some n => some (s.setTask k { t with deferred := some n, pc := .setDeadline })
        | none => some { s with panicked := true }
  | .setDeadline =>
      match s.conn with
      | some n => some ((s.setDeadline n true).setTask k { t with pc := .write })
      | none => some { s with panicked := true }
  | .write =>
      match s.conn with
      | some n => some (s.setTask k { t with pc := .writing n })
      | none => some { s with panicked := true }
  | .writing n =>
      match s.conns[n]? with
      | some c =>
          if c.closed then
            some (s.setTask k
              { t with pc := .clearDeadline ([], some (.dnsOverTCPTLSRedial errClosed)) })
          else
            some ((s.setConn n { c with toServer := c.toServer ++ frame t.query }).setTask k
              { t with pc := .readHeader })
      | none => none
  | .readHeader =>
      match s.conn with
      | some n => some (s.setTask k { t with pc := .readingHeader n })
      | none => some { s with panicked := true }
  | .readingHeader n =>
      match s.conns[n]? with
      | some c =>
          if c.closed then
            some (s.setTask k { t with pc := .clearDeadline ([], some errClosed) })
          else
            match c.toClient with
            | hi :: lo :: rest =>
                some ((s.setConn n { c with toClient := rest }).setTask k
                  { t with pc := .readBody (headerLength hi lo) })
            | _ => none
      | none => none
  | .readBody length =>
      if length = 0 then
        some (s.setTask k { t with pc := .clearDeadline ([], none) })
      else
        match s.conn with
        | some n => some (s.setTask k { t with pc := .readingBody n length })
        | none => some { s with panicked := true }
  | .readingBody n length =>
      match s.conns[n]? with
      | some c =>
          if c.closed then
            some (s.setTask k { t with pc := .clearDeadline ([], some errClosed) })
          else if length ≤ c.toClient.length then
            some ((s.setConn n { c with toClient := c.toClient.drop length }).setTask k
              { t with pc := .clearDeadline (c.toClient.take length, none) })
          else
            none
      | none => none
  | .clearDeadline out =>
      let s := match t.deferred with
        | some n => s.setDeadline n false
        | none => s
      some (s.setTask k { t with pc := .send out })
  | .send out =>
      some (s.setTask k { t with pc := .sent out })
  | .sent _ =>
      none

/-- How many bytes the read of goroutine `t` still needs, and on which connection. -/
def readNeed : TaskPc → Option (Nat × Nat)
  | .readingHeader n => some (n, 2)
  | .readingBody n length => some (n, length)
  | _ => none

/-- One step of the whole system. -/
def step (server : Server) (s : State) (e : Event) : Option State :=
  if s.panicked then none else
  match e with
  | .call query =>
      some { s with callers := s.callers ++ [{ query := query, cancelled := false, pc := .entry }] }
  | .cancel i =>
      match s.callers[i]? with
      | some c => some (s.setCaller i { c with cancelled := true })
      | none => none
  | .caller i =>
      match s.callers[i]? with
      | some c => callerStep s i c
      | none => none
  | .dialFail i err =>
      match s.callers[i]? with
      | some { pc := .dial _, query, cancelled } =>
          some (s.setCaller i { query, cancelled, pc := .unlock ([], some err) })
      | _ => none
  | .contextDone i =>
      match s.callers[i]? with
      | some { pc := .tryWait _ _, query, cancelled := true } =>
          some (s.setCaller i
            { query, cancelled := true, pc := .unlock ([], some .contextCanceled) })
      | _ => none
  | .task k =>
      match s.tasks[k]? with
      | some t => taskStep s k t
      | none => none
  | .writeFail k err =>
      match s.tasks[k]? with
      | some t =>
          match t.pc with
          | .writing n =>
              match s.conns[n]? with
              | some { closed := false, .. } =>
                  some (s.setTask k
                    { t with pc := .clearDeadline ([], some (.dnsOverTCPTLSRedial err)) })
              | _ => none
          | _ => none
      | none => none
  | .timeout k consumed =>
      match s.tasks[k]? with
      | some t =>
          match readNeed t.pc with
          | some (n, need) =>
              match s.conns[n]? with
              | some c =>
                  if !c.closed ∧ c.deadline ∧ consumed < need ∧ consumed ≤ c.toClient.length then
                    some ((s.setConn n { c with toClient := c.toClient.drop consumed }).setTask k
                      { t with pc := .clearDeadline ([], some errDeadlineExceeded) })
                  else
                    none
              | none => none
          | none => none
      | none => none
  | .serve n =>
      match s.conns[n]? with
      | some c =>
          match takeFrame? c.toServer with
          | some (query, rest) =>
              if c.closed then none else
              some (s.setConn n
                { c with toServer := rest, inFlight := c.inFlight ++ frame (server.reply query) })
          | none => none
      | none => none
  | .deliver n count =>
      match s.conns[n]? with
      | some c =>
          if 0 < count ∧ count ≤ c.inFlight.length then
            some (s.setConn n
              { c with inFlight := c.inFlight.drop count,
                       toClient := c.toClient ++ c.inFlight.take count })
          else
            none
      | none => none

/-- The state after a list of events, if every one of them can happen in turn. -/
def run (server : Server) : State → List Event → Option State
  | s, [] => some s
  | s, e :: rest => (step server s e).bind fun s' => run server s' rest

/-- A state some run from a new resolver reaches. -/
def Reachable (server : Server) (s : State) : Prop :=
  ∃ events, run server initial events = some s

/-- Running two lists of events runs the first, then the second. -/
theorem run_append (server : Server) :
    ∀ (s : State) (first second : List Event),
      run server s (first ++ second) = (run server s first).bind fun s' => run server s' second
  | _, [], _ => rfl
  | s, e :: rest, second => by
      simp only [List.cons_append, run, Option.bind_assoc]
      congr 1
      funext s'
      exact run_append server s' rest second

/-- One more step from a reachable state reaches a reachable state. -/
theorem Reachable.after {server : Server} {s s' : State} {e : Event}
    (reachable : Reachable server s) (stepped : step server s e = some s') :
    Reachable server s' := by
  obtain ⟨events, ran⟩ := reachable
  exact ⟨events ++ [e], by simp [run_append, ran, run, stepped]⟩

/-- A run that ends where `p` holds ends in a state, and `p` holds there. -/
theorem exists_of_run_any {server : Server} {p : State → Bool} {s₀ : State} {events : List Event}
    (ends : (run server s₀ events).any p = true) : ∃ s, run server s₀ events = some s ∧ p s = true := by
  cases ran : run server s₀ events with
  | none =>
      simp [ran] at ends
  | some s =>
      simp only [ran, Option.any_some] at ends
      exact ⟨s, rfl, ends⟩

/-- A run from the new resolver that ends where `p` holds exhibits a reachable state with `p`. -/
theorem exists_reachable_of_run {server : Server} {p : State → Bool} (events : List Event)
    (ends : (run server initial events).any p = true) : ∃ s, Reachable server s ∧ p s = true := by
  obtain ⟨s, ran, holds⟩ := exists_of_run_any ends
  exact ⟨s, ⟨events, ran⟩, holds⟩

/-- An invariant of every step of some kind holds along every run made of such steps. -/
theorem run_invariant_of {server : Server} {allowed : Event → Prop} {P : State → Prop}
    (preserved : ∀ s e s', allowed e → P s → step server s e = some s' → P s') :
    ∀ {s s' : State} (events : List Event), (∀ e ∈ events, allowed e) → P s →
      run server s events = some s' → P s'
  | _, _, [], _, holds, ran => by
      cases ran
      exact holds
  | s, _, e :: rest, allowedAll, holds, ran => by
      simp only [run, Option.bind_eq_some] at ran
      obtain ⟨s₁, stepped, ran⟩ := ran
      exact run_invariant_of preserved rest (fun e' member => allowedAll e' (.tail e member))
        (preserved s e s₁ (allowedAll e (.head rest)) holds stepped) ran

/-- An invariant of every step holds along every run. -/
theorem run_invariant {server : Server} {P : State → Prop}
    (preserved : ∀ s e s', P s → step server s e = some s' → P s') {s s' : State}
    (events : List Event) (holds : P s) (ran : run server s events = some s') : P s' :=
  run_invariant_of (fun s e s' _ => preserved s e s') events (fun _ _ => trivial) holds ran

/-- An invariant of the new resolver and of every step holds in every reachable state. -/
theorem Reachable.invariant {server : Server} {P : State → Prop} (base : P initial)
    (preserved : ∀ s e s', P s → step server s e = some s' → P s') {s : State}
    (reachable : Reachable server s) : P s := by
  obtain ⟨events, ran⟩ := reachable
  exact run_invariant preserved events base ran

/-! ## One call to an echo server -/

/-- One call to an echo server, from the call to its return. -/
def echoCallRun : List Event :=
  [.call (some [1]), .caller 0, .caller 0, .caller 0, .caller 0, .caller 0, .caller 0,
   .task 0, .task 0, .task 0, .task 0, .serve 0, .deliver 0 3,
   .task 0, .task 0, .task 0, .task 0, .task 0, .task 0, .caller 0, .caller 0]

/-- Where that run ends: the call has returned the echo of its query, its goroutine has sent it,
and `conn` 0 stays open, with no deadline, for the next call. -/
def echoCallState : State :=
  { conn := some 0, users := 0, mu := none, conns := [Conn.fresh],
    callers := [{ query := some [1], cancelled := false, pc := .done ([1], none) }],
    tasks := [{ query := [1], deferred := some 0, pc := .sent ([1], none) }], panicked := false }

theorem run_echoCallRun : run echoServer initial echoCallRun = some echoCallState :=
  rfl

/-! ## What a step does to the callers -/

/-- The program points a `CloseIdleConnections` call can reach: it never enters `do`. -/
def CallerPc.sentinelPath : CallerPc → Bool
  | .entry => true
  | .waitLock => true
  | .locked => true
  | .rtrip => true
  | .unlock out => out == ([], none)
  | .done out => out == ([], none)
  | _ => false

/-- The program points between `r.mu.Lock()` and `r.mu.Unlock()`. -/
def CallerPc.holdsLock : CallerPc → Bool
  | .locked => true
  | .rtrip => true
  | .dial _ => true
  | .tryStart _ => true
  | .tryWait _ _ => true
  | .redial => true
  | .unlock _ => true
  | _ => false

/-- How one caller's program point can move, and what the move does to `users` and `mu`. -/
inductive CallerMove (i : Nat) (c c' : Caller) (s s' : State) : Prop where
  /-- `atomic.AddInt32(&r.users, 1)`. -/
  | increment : c.pc = .entry → c'.pc = .waitLock → s'.users = s.users + 1 → s'.mu = s.mu →
      CallerMove i c c' s s'
  /-- `r.mu.Lock()` returns. -/
  | acquire : c.pc = .waitLock → c'.pc = .locked → s.mu = none → s'.mu = some i →
      s'.users = s.users → CallerMove i c c' s s'
  /-- `atomic.AddInt32(&r.users, -1)`. -/
  | decrement : c.pc = .locked → c'.pc = .rtrip → s'.users = s.users - 1 → s'.mu = s.mu →
      CallerMove i c c' s s'
  /-- `r.mu.Unlock()`. -/
  | release (out : GoResult Bytes) : c.pc = .unlock out → c'.pc = .done out → s'.mu = none →
      s'.users = s.users → CallerMove i c c' s s'
  /-- A move inside the locked section, other than the decrement. -/
  | inner : c.pc ≠ .locked → c.pc.holdsLock → c'.pc.holdsLock → c'.pc ≠ .locked →
      (c.query = none → c.pc.sentinelPath → c'.pc.sentinelPath) →
      s'.users = s.users → s'.mu = s.mu → CallerMove i c c' s s'
  /-- The context is cancelled; the caller does not move. -/
  | stay : c'.pc = c.pc → s'.users = s.users → s'.mu = s.mu → CallerMove i c c' s s'

/-- What one step does to the callers, `users` and `mu`. -/
inductive CallerEffect (s s' : State) : Prop where
  /-- Goroutine and network steps, and panics, leave them alone. -/
  | frame : s'.callers = s.callers → s'.users = s.users → s'.mu = s.mu → CallerEffect s s'
  /-- `call`: a new caller at `entry`. -/
  | spawn (query : Option Bytes) :
      s'.callers = s.callers ++ [{ query := query, cancelled := false, pc := .entry }] →
      s'.users = s.users → s'.mu = s.mu → CallerEffect s s'
  /-- Caller `i` moves from `c` to `c'`, keeping its query. -/
  | move (i : Nat) (c c' : Caller) : s.callers[i]? = some c → s'.callers = s.callers.set i c' →
      c'.query = c.query → CallerMove i c c' s s' → CallerEffect s s'

end ProbeResolver.TcpTls

namespace ProbeResolver.TcpTls

/-- Goroutine steps leave the callers, `users` and `mu` alone. -/
theorem taskStep_frame {s s' : State} {k : Nat} {t : Task} (stepped : taskStep s k t = some s') :
    s'.callers = s.callers ∧ s'.users = s.users ∧ s'.mu = s.mu := by
  unfold taskStep at stepped
  repeat' split at stepped
  all_goals cases stepped
  all_goals simp

/-- `do` goes on from `try` inside the locked section. -/
theorem afterTry_holdsLock (attempt : Attempt) (out : GoResult Bytes) :
    (afterTry attempt out).holdsLock ∧ afterTry attempt out ≠ .locked := by
  unfold afterTry
  split
  · simp [CallerPc.holdsLock]
  · split <;> simp [CallerPc.holdsLock]
  · simp [CallerPc.holdsLock]

/-- A caller step is one of the moves of `CallerMove`. -/
theorem callerStep_effect {s s' : State} {i : Nat} {c : Caller} (found : s.callers[i]? = some c)
    (stepped : callerStep s i c = some s') : CallerEffect s s' := by
  unfold callerStep at stepped
  split at stepped
  case h_1 atEntry =>
      cases stepped
      exact .move i c { c with pc := .waitLock } found rfl rfl (.increment atEntry rfl rfl rfl)
  case h_2 waiting =>
      split at stepped
      · cases stepped
        exact .move i c { c with pc := .locked } found rfl rfl
          (.acquire waiting rfl ‹_› rfl rfl)
      · cases stepped
  case h_3 isLocked =>
      cases stepped
      exact .move i c { c with pc := .rtrip } found rfl rfl (.decrement isLocked rfl rfl rfl)
  case h_4 atRtrip =>
      split at stepped <;> cases stepped
      · refine .move i c { c with pc := .unlock ([], none) } found (by split <;> simp) rfl
          (.inner (by simp [atRtrip]) (by simp [atRtrip, CallerPc.holdsLock])
            (by simp [CallerPc.holdsLock]) (by simp) (fun _ _ => by simp [CallerPc.sentinelPath])
            (by split <;> simp) (by split <;> simp))
      · refine .move i c { c with pc := if s.conn.isSome then .tryStart .first else .dial .first }
          found rfl rfl
          (.inner (by simp [atRtrip]) (by simp [atRtrip, CallerPc.holdsLock])
            (by split <;> simp [CallerPc.holdsLock]) (by split <;> simp) (by simp_all) rfl rfl)
  case h_5 attempt atDial =>
      cases stepped
      exact .move i c { c with pc := .tryStart attempt } found rfl rfl
        (.inner (by simp [atDial]) (by simp [atDial, CallerPc.holdsLock])
          (by simp [CallerPc.holdsLock]) (by simp) (by simp [atDial, CallerPc.sentinelPath]) rfl rfl)
  case h_6 attempt atStart =>
      split at stepped <;> cases stepped
      exact .move i c { c with pc := .tryWait attempt s.tasks.length } found rfl rfl
        (.inner (by simp [atStart]) (by simp [atStart, CallerPc.holdsLock])
          (by simp [CallerPc.holdsLock]) (by simp) (by simp_all) rfl rfl)
  case h_7 attempt k atWait =>
      split at stepped <;> cases stepped
      rename_i out _
      exact .move i c { c with pc := afterTry attempt out } found rfl rfl
        (.inner (by simp [atWait]) (by simp [atWait, CallerPc.holdsLock])
          (afterTry_holdsLock ..).1 (afterTry_holdsLock ..).2
          (by simp [atWait, CallerPc.sentinelPath]) rfl rfl)
  case h_8 atRedial =>
      cases stepped
      exact .move i c { c with pc := .dial .retry } found (by simp) rfl
        (.inner (by simp [atRedial]) (by simp [atRedial, CallerPc.holdsLock])
          (by simp [CallerPc.holdsLock]) (by simp) (by simp [atRedial, CallerPc.sentinelPath])
          (by simp) (by simp))
  case h_9 out atUnlock =>
      cases stepped
      exact .move i c { c with pc := .done out } found rfl rfl (.release out atUnlock rfl rfl rfl)
  case h_10 =>
      cases stepped

/-- Every step is a frame step, a new caller, or one caller's move. -/
theorem step_callerEffect {server : Server} {s s' : State} {e : Event}
    (stepped : step server s e = some s') : CallerEffect s s' := by
  by_cases panicked : s.panicked
  · simp [step, panicked] at stepped
  cases e with
  | call query =>
      simp only [step, panicked, Bool.false_eq_true, ↓reduceIte] at stepped
      cases stepped
      exact .spawn query rfl rfl rfl
  | cancel i =>
      simp only [step, panicked, Bool.false_eq_true, ↓reduceIte] at stepped
      split at stepped <;> cases stepped
      rename_i c found
      exact .move i c { c with cancelled := true } found rfl rfl (.stay rfl rfl rfl)
  | caller i =>
      simp only [step, panicked, Bool.false_eq_true, ↓reduceIte] at stepped
      split at stepped
      · exact callerStep_effect ‹_› stepped
      · cases stepped
  | dialFail i err =>
      simp only [step, panicked, Bool.false_eq_true, ↓reduceIte] at stepped
      split at stepped <;> cases stepped
      rename_i query cancelled attempt found
      exact .move i _ { query, cancelled, pc := .unlock ([], some err) } found rfl rfl
        (.inner (by simp) (by simp [CallerPc.holdsLock]) (by simp [CallerPc.holdsLock]) (by simp)
          (by simp [CallerPc.sentinelPath]) rfl rfl)
  | contextDone i =>
      simp only [step, panicked, Bool.false_eq_true, ↓reduceIte] at stepped
      split at stepped <;> cases stepped
      rename_i query attempt k found
      exact .move i _ { query, cancelled := true, pc := .unlock ([], some .contextCanceled) }
        found rfl rfl
        (.inner (by simp) (by simp [CallerPc.holdsLock]) (by simp [CallerPc.holdsLock]) (by simp)
          (by simp [CallerPc.sentinelPath]) rfl rfl)
  | task k =>
      simp only [step, panicked, Bool.false_eq_true, ↓reduceIte] at stepped
      split at stepped
      · obtain ⟨callers, users, mu⟩ := taskStep_frame stepped
        exact .frame callers users mu
      · cases stepped
  | writeFail | timeout | serve | deliver =>
      simp only [step, panicked, Bool.false_eq_true, ↓reduceIte] at stepped
      repeat' split at stepped
      all_goals cases stepped
      exact .frame rfl rfl rfl

end ProbeResolver.TcpTls
