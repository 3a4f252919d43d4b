import ProbeResolver.TcpTlsAttribution
import ProbeResolver.TcpTlsWaiters

namespace ProbeResolver.TcpTls

/-!
# Every call returns when nothing interrupts it

`roundTrip` parks callers on `r.mu`; the holder of the mutex waits in `try`
for its `asyncTry` goroutine, which waits on the connection for the server.
Along a run without a read past its deadline and without a `select` won by
`ctx.Done()`, none of these waits lasts forever. In every state where some
call has not returned, a caller, a goroutine or the server can take a step:
the holder of the mutex can, or the goroutine it waits for can, or the
server has the query to answer or reply bytes to deliver. And the goroutines
and the server alone can take at most `workBound s` steps from a state `s`.
So whatever order they run in, they bring every pending call to return.
-/

/-- A step of the resolver's own goroutines or of the server, with no help from the
environment: no new call, no cancellation, no failed dial or write, no deadline. -/
def Event.internal : Event → Bool
  | .caller _ => true
  | .task _ => true
  | .serve _ => true
  | .deliver _ _ => true
  | _ => false

/-- A caller, a goroutine or the server can take a step. -/
def CanMove (server : Server) (s : State) : Prop :=
  ∃ e, e.internal = true ∧ (step server s e).isSome = true

/-! ## Who can move -/

section Progress

variable {server : Server} {s : State}

/-- A caller of a live resolver takes its own step. -/
theorem step_caller (live : s.panicked = false) {i : Nat} {c : Caller}
    (found : s.callers[i]? = some c) : step server s (.caller i) = callerStep s i c := by
  simp [step, live, found]

/-- A goroutine of a live resolver takes its own step. -/
theorem step_task (live : s.panicked = false) {k : Nat} {t : Task}
    (found : s.tasks[k]? = some t) : step server s (.task k) = taskStep s k t := by
  simp [step, live, found]

/-- Reply bytes in flight can arrive. -/
theorem deliver_isSome (live : s.panicked = false) {n : Nat} {c : Conn}
    (found : s.conns[n]? = some c) (inFlight : c.inFlight ≠ []) :
    (step server s (.deliver n c.inFlight.length)).isSome = true := by
  simp [step, live, found, List.length_pos.mpr inFlight]

/-- An open connection carrying a complete query can be served. -/
theorem serve_isSome (live : s.panicked = false) {n : Nat} {c : Conn}
    (found : s.conns[n]? = some c) (isOpen : c.closed = false) {query rest : Bytes}
    (taken : takeFrame? c.toServer = some (query, rest)) :
    (step server s (.serve n)).isSome = true := by
  simp [step, live, found, taken, isOpen]

/-- Bytes still to arrive behind fewer than `need` received ones. -/
theorem inFlight_ne_nil_of_received {c : Conn} {bytes : Bytes} (received : c.received = bytes)
    {need : Nat} (short : c.toClient.length < need) (enough : need ≤ bytes.length) :
    c.inFlight ≠ [] := by
  intro empty
  rw [Conn.received, empty, List.append_nil] at received
  rw [received] at short
  omega

/-- The goroutine a caller waits for in `try` can move, or the server can answer it. -/
theorem Attributed.task_canMove (inv : Attributed server s) {i : Nat} {d : Caller}
    {a : Attempt} {k : Nat} (waiter : s.callers[i]? = some d) (atWait : d.pc = .tryWait a k)
    {t : Task} (found : s.tasks[k]? = some t) (unfinished : t.pc.finished = false) :
    CanMove server s := by
  obtain ⟨u, n, task, _, current, onN⟩ := inv.waiting i d a k waiter atWait
  rw [found, Option.some_inj] at task
  subst task
  obtain ⟨c, connFound, isOpen⟩ := inv.connFound current
  have owes := inv.owes i d a k t n c waiter atWait found current connFound
  have live := inv.notPanicked
  have byTask : (taskStep s k t).isSome = true → CanMove server s := fun moves =>
    ⟨.task k, rfl, by rw [step_task live found]; exact moves⟩
  have byDeliver : c.inFlight ≠ [] → CanMove server s := fun inFlight =>
    ⟨.deliver n c.inFlight.length, rfl, deliver_isSome live connFound inFlight⟩
  have onConn : ∀ m, t.pc.ioConn? = some m → m = n := fun m io => by
    rcases onN.2 with none | same
    · rw [io] at none
      cases none
    · exact Option.some_inj.mp (io.symm.trans same)
  cases atPc : t.pc with
  | sent out =>
      simp [atPc, TaskPc.finished] at unfinished
  | writing m =>
      obtain rfl := onConn m (by simp [atPc, TaskPc.ioConn?])
      apply byTask
      simp only [taskStep, atPc, connFound]
      split <;> rfl
  | readingHeader m =>
      obtain rfl := onConn m (by simp [atPc, TaskPc.ioConn?])
      simp only [Owes, atPc] at owes
      obtain ⟨short, ⟨written, _⟩ | ⟨_, received⟩⟩ := owes
      · -- The server has the query to answer.
        have taken : takeFrame? c.toServer = some (t.query, []) := by
          rw [written, ← List.append_nil (frame t.query), takeFrame?_frame short]
        exact ⟨.serve m, rfl, serve_isSome live connFound isOpen taken⟩
      · -- The reply is on its way.
        match client : c.toClient with
        | hi :: lo :: rest =>
            apply byTask
            simp [taskStep, atPc, connFound, isOpen, client]
        | [] | [_] =>
            have short : c.toClient.length < 2 := by simp [client]
            exact byDeliver (inFlight_ne_nil_of_received received short (by simp [frame]))
  | readingBody m length =>
      obtain rfl := onConn m (by simp [atPc, TaskPc.ioConn?])
      simp only [Owes, atPc] at owes
      obtain ⟨_, received, sameLength⟩ := owes
      by_cases enough : length ≤ c.toClient.length
      · apply byTask
        simp [taskStep, atPc, connFound, isOpen, enough]
      · exact byDeliver (inFlight_ne_nil_of_received received (by omega) sameLength.le)
  | start | setDeadline | write | readHeader | readBody _ | clearDeadline _ | send _ =>
      apply byTask
      simp only [taskStep, atPc, current]
      try split
      all_goals rfl

/-- The holder of the mutex can move, or the goroutine it waits for can, or the server. -/
theorem Attributed.holder_canMove (inv : Attributed server s) (waiters : WaitersInv s) {j : Nat}
    {d : Caller} (found : s.callers[j]? = some d) (holds : d.pc.holdsLock = true) :
    CanMove server s := by
  have byCaller : (callerStep s j d).isSome = true → CanMove server s := fun moves =>
    ⟨.caller j, rfl, by rw [step_caller inv.notPanicked found]; exact moves⟩
  cases atPc : d.pc with
  | tryWait a k =>
      obtain ⟨t, n, task, _⟩ := inv.waiting j d a k found atPc
      cases finished : t.pc.finished
      · exact inv.task_canMove found atPc task finished
      · apply byCaller
        obtain ⟨query, deferred, pc⟩ := t
        cases pc <;> simp [TaskPc.finished] at finished
        simp [callerStep, atPc, task]
  | tryStart a =>
      cases query : d.query with
      | none =>
          have onPath := waiters.sentinel d (List.mem_iff_getElem?.mpr ⟨j, found⟩) query
          simp [atPc, CallerPc.sentinelPath] at onPath
      | some q =>
          apply byCaller
          simp [callerStep, atPc, query]
  | rtrip =>
      apply byCaller
      cases query : d.query <;> simp [callerStep, atPc, query]
  | locked | dial _ | redial | unlock _ =>
      apply byCaller
      simp [callerStep, atPc]
  | entry | waitLock | done _ =>
      simp [atPc, CallerPc.holdsLock] at holds

/-- While some call has not returned, a caller, a goroutine or the server can move. -/
theorem Attributed.canMove (inv : Attributed server s) (waiters : WaitersInv s) {i : Nat}
    {c : Caller} (found : s.callers[i]? = some c) (busy : ∀ out, c.pc ≠ .done out) :
    CanMove server s := by
  have byCaller : (callerStep s i c).isSome = true → CanMove server s := fun moves =>
    ⟨.caller i, rfl, by rw [step_caller inv.notPanicked found]; exact moves⟩
  cases atPc : c.pc with
  | entry =>
      apply byCaller
      simp [callerStep, atPc]
  | waitLock =>
      cases held : s.mu with
      | none =>
          apply byCaller
          simp [callerStep, atPc, held]
      | some j =>
          obtain ⟨d, found', holds⟩ := (inv.mutex j).mp held
          exact inv.holder_canMove waiters found' holds
  | done out =>
      exact absurd atPc (busy out)
  | locked | rtrip | dial _ | tryStart _ | tryWait _ _ | redial | unlock _ =>
      exact inv.holder_canMove waiters found (by simp [atPc, CallerPc.holdsLock])

end Progress

/-! ## How much work is left -/

/-- The weight of one byte a goroutine has still to write: serving a query takes at least
two bytes off the connection and puts one reply frame, shorter than two weights, in flight. -/
def byteWeight : Nat := 65536

/-- The steps goroutine `t` has left, with the weight of the frame it has still to write. -/
def Task.work (t : Task) : Nat :=
  match t.pc with
  | .start => 10 + byteWeight * (t.query.length + 2)
  | .setDeadline => 9 + byteWeight * (t.query.length + 2)
  | .write => 8 + byteWeight * (t.query.length + 2)
  | .writing _ => 7 + byteWeight * (t.query.length + 2)
  | .readHeader => 6
  | .readingHeader _ => 5
  | .readBody _ => 4
  | .readingBody _ _ => 3
  | .clearDeadline _ => 2
  | .send _ => 1
  | .sent _ => 0

/-- The work of one more `asyncTry` goroutine of caller `c`, and the step that starts it. -/
def Caller.tryWork (c : Caller) : Nat :=
  match c.query with
  | some query => 11 + byteWeight * (query.length + 2)
  | none => 0

/-- The steps caller `c` has left, with the goroutines it can still start: two before the
first `try`, one after a redial hint. -/
def Caller.work (c : Caller) : Nat :=
  match c.pc with
  | .entry => 12 + 2 * c.tryWork
  | .waitLock => 11 + 2 * c.tryWork
  | .locked => 10 + 2 * c.tryWork
  | .rtrip => 9 + 2 * c.tryWork
  | .dial .first => 8 + 2 * c.tryWork
  | .tryStart .first => 7 + 2 * c.tryWork
  | .tryWait .first _ => 6 + c.tryWork
  | .redial => 5 + c.tryWork
  | .dial .retry => 4 + c.tryWork
  | .tryStart .retry => 3 + c.tryWork
  | .tryWait .retry _ => 2
  | .unlock _ => 1
  | .done _ => 0

/-- The weight of the bytes on their way to the server and of those in flight back. -/
def Conn.work (c : Conn) : Nat :=
  byteWeight * c.toServer.length + c.inFlight.length

/-- The total of `f` over a list. -/
def sumBy {α : Type} (f : α → Nat) : List α → Nat
  | [] => 0
  | x :: l => f x + sumBy f l

@[simp] theorem sumBy_nil {α : Type} (f : α → Nat) : sumBy f [] = 0 :=
  rfl

@[simp] theorem sumBy_cons {α : Type} (f : α → Nat) (x : α) (l : List α) :
    sumBy f (x :: l) = f x + sumBy f l :=
  rfl

@[simp] theorem sumBy_append {α : Type} (f : α → Nat) (l l' : List α) :
    sumBy f (l ++ l') = sumBy f l + sumBy f l' := by
  induction l with
  | nil => simp
  | cons x l inductionHypothesis =>
      simp only [List.cons_append, sumBy_cons, inductionHypothesis]
      omega

/-- How many more steps the goroutines and the server can take, at most. -/
def workBound (s : State) : Nat :=
  (if s.panicked then 0 else 1) + sumBy Caller.work s.callers +
    sumBy Task.work s.tasks + sumBy Conn.work s.conns

@[simp] theorem Caller.tryWork_setPc (c : Caller) (pc : CallerPc) :
    Caller.tryWork { c with pc := pc } = c.tryWork :=
  rfl

/-- Replacing one entry of a list changes a sum over it by the difference of the two. -/
theorem sumBy_set {α : Type} (f : α → Nat) :
    ∀ {l : List α} {i : Nat} {a : α}, l[i]? = some a → ∀ b : α,
      sumBy f (l.set i b) + f a = sumBy f l + f b
  | [], _, _, found, _ => by simp at found
  | x :: l, 0, a, found, b => by
      simp only [List.getElem?_cons_zero, Option.some_inj] at found
      subst found
      simp only [List.set_cons_zero, sumBy_cons]
      omega
  | x :: l, i + 1, a, found, b => by
      have rest := sumBy_set f (l := l) (by simpa using found) b
      simp only [List.set_cons_succ, sumBy_cons]
      omega

/-- Closing `r.conn` moves no byte. -/
theorem State.closeConn_work (s : State) :
    sumBy Conn.work s.closeConn.conns = sumBy Conn.work s.conns := by
  unfold State.closeConn
  repeat' split
  · rename_i c found
    have moved := sumBy_set Conn.work found { c with closed := true }
    simp only [State.setConn]
    simp only [Conn.work] at moved ⊢
    omega
  all_goals rfl

/-- Setting or clearing a deadline moves no byte. -/
theorem State.setDeadline_work (s : State) (n : Nat) (deadline : Bool) :
    sumBy Conn.work (s.setDeadline n deadline).conns = sumBy Conn.work s.conns := by
  unfold State.setDeadline
  split
  · rename_i c found
    have moved := sumBy_set Conn.work found { c with deadline := deadline }
    simp only [State.setConn]
    simp only [Conn.work] at moved ⊢
    omega
  · rfl

section Work

variable {s s' : State}

/-- A move of caller `i` lowers the work when the caller's own work drops by more than what
the move adds to the goroutines and the connections. -/
theorem workBound_lt_of_callerMove {i : Nat} {c c' : Caller} (found : s.callers[i]? = some c)
    (callers : s'.callers = s.callers.set i c') (panicked : s'.panicked = s.panicked)
    (less : sumBy Task.work s'.tasks + sumBy Conn.work s'.conns + c'.work <
      sumBy Task.work s.tasks + sumBy Conn.work s.conns + c.work) :
    workBound s' < workBound s := by
  have moved := sumBy_set Caller.work found c'
  unfold workBound
  rw [callers, panicked]
  omega

/-- A move of goroutine `k` lowers the work when the goroutine's own work drops by more than
what the move adds to the connections. -/
theorem workBound_lt_of_taskMove {k : Nat} {t t' : Task} (found : s.tasks[k]? = some t)
    (tasks : s'.tasks = s.tasks.set k t') (callers : s'.callers = s.callers)
    (panicked : s'.panicked = s.panicked)
    (less : sumBy Conn.work s'.conns + t'.work < sumBy Conn.work s.conns + t.work) :
    workBound s' < workBound s := by
  have moved := sumBy_set Task.work found t'
  unfold workBound
  rw [tasks, callers, panicked]
  omega

/-- A goroutine's move that leaves the callers alone lowers the work when the goroutine's own
work drops by more than what the move adds to the connections. -/
theorem workBound_setTask_lt {x : State} {k : Nat} {t t' : Task} (found : s.tasks[k]? = some t)
    (tasks : x.tasks = s.tasks) (callers : x.callers = s.callers)
    (panicked : x.panicked = s.panicked)
    (less : sumBy Conn.work x.conns + t'.work < sumBy Conn.work s.conns + t.work) :
    workBound (x.setTask k t') < workBound s :=
  workBound_lt_of_taskMove found (by rw [State.setTask, tasks]) callers panicked less

/-- A goroutine's move that also changes connection `n` lowers the work when the two works
together drop. -/
theorem workBound_setConn_setTask_lt {k n : Nat} {t t' : Task} {c c' : Conn}
    (found : s.tasks[k]? = some t) (connFound : s.conns[n]? = some c)
    (less : c'.work + t'.work < c.work + t.work) :
    workBound ((s.setConn n c').setTask k t') < workBound s := by
  have moved := sumBy_set Conn.work connFound c'
  exact workBound_setTask_lt found rfl rfl rfl (by simp only [State.setConn]; omega)

/-- A step of the server on connection `n` lowers the work when it lowers the connection's. -/
theorem workBound_lt_of_connMove {n : Nat} {c c' : Conn} (found : s.conns[n]? = some c)
    (less : c'.work < c.work) : workBound (s.setConn n c') < workBound s := by
  have moved := sumBy_set Conn.work found c'
  unfold workBound
  simp only [State.setConn]
  omega

/-- A panic ends the work. -/
theorem workBound_panic (live : s.panicked = false) :
    workBound { s with panicked := true } < workBound s := by
  simp [workBound, live]

end Work

/-- Going on from `try` lowers a caller's work. -/
theorem Caller.work_afterTry {c : Caller} {attempt : Attempt} {k : Nat}
    (atPc : c.pc = .tryWait attempt k) (out : GoResult Bytes) :
    Caller.work { c with pc := afterTry attempt out } < c.work := by
  unfold afterTry
  split <;> (try split) <;> simp [Caller.work, atPc] <;> omega

/-- Every caller step lowers the work. -/
theorem callerStep_work_lt {s s' : State} {i : Nat} {c : Caller}
    (found : s.callers[i]? = some c) (stepped : callerStep s i c = some s') :
    workBound s' < workBound s := by
  unfold callerStep at stepped
  split at stepped
  case h_1 atPc | h_3 atPc =>
      cases stepped
      exact workBound_lt_of_callerMove found rfl rfl (by simp [Caller.work, atPc])
  case h_2 atPc =>
      split at stepped <;> cases stepped
      exact workBound_lt_of_callerMove found rfl rfl (by simp [Caller.work, atPc])
  case h_4 atPc =>
      split at stepped <;> cases stepped
      · by_cases closing : s.users = 0 ∧ s.conn.isSome = true
        · simp only [closing, and_self, ↓reduceIte]
          exact workBound_lt_of_callerMove found (by rw [State.setCaller, State.closeConn_callers])
            (by simp) (by simp [Caller.work, atPc, State.closeConn_work]; omega)
        · simp only [closing, ↓reduceIte]
          exact workBound_lt_of_callerMove found rfl rfl (by simp [Caller.work, atPc]; omega)
      · refine workBound_lt_of_callerMove found rfl rfl ?_
        split <;> simp [Caller.work, atPc]
  case h_5 attempt atPc =>
      cases stepped
      refine workBound_lt_of_callerMove found rfl rfl ?_
      cases attempt <;> simp [Caller.work, atPc, Conn.work, Conn.fresh]
  case h_6 attempt atPc =>
      split at stepped <;> cases stepped
      rename_i query asked
      refine workBound_lt_of_callerMove found rfl rfl ?_
      cases attempt <;> simp [Caller.work, Caller.tryWork, atPc, asked, Task.work] <;> omega
  case h_7 attempt k atPc =>
      split at stepped <;> cases stepped
      rename_i out _
      exact workBound_lt_of_callerMove found rfl rfl (by simpa using Caller.work_afterTry atPc out)
  case h_8 atPc =>
      cases stepped
      exact workBound_lt_of_callerMove found (by rw [State.setCaller, State.closeConn_callers])
        (by simp) (by simp [Caller.work, atPc, State.closeConn_work])
  case h_9 out atPc =>
      cases stepped
      exact workBound_lt_of_callerMove found rfl rfl (by simp [Caller.work, atPc])
  case h_10 =>
      cases stepped

/-- Writing a query adds its frame to the bytes on their way to the server. -/
theorem Conn.work_write (c : Conn) (query : Bytes) :
    Conn.work { c with toServer := c.toServer ++ frame query } =
      c.work + byteWeight * (query.length + 2) := by
  simp only [Conn.work, byteWeight, List.length_append, frame, List.length_cons]
  omega

/-- Every goroutine step lowers the work. -/
theorem taskStep_work_lt {s s' : State} {k : Nat} {t : Task} (live : s.panicked = false)
    (found : s.tasks[k]? = some t) (stepped : taskStep s k t = some s') :
    workBound s' < workBound s := by
  have byTask : ∀ {x : State} {t' : Task}, x.tasks = s.tasks → x.callers = s.callers →
      x.panicked = s.panicked → sumBy Conn.work x.conns = sumBy Conn.work s.conns →
      t'.work < t.work → workBound (x.setTask k t') < workBound s :=
    fun tasks callers panicked conns less =>
      workBound_setTask_lt found tasks callers panicked (by rw [conns]; omega)
  unfold taskStep at stepped
  split at stepped
  case h_1 atPc =>
      split at stepped
      · cases stepped
        exact byTask rfl rfl rfl rfl (by simp [Task.work, atPc]; omega)
      · split at stepped <;> cases stepped
        · exact byTask rfl rfl rfl rfl (by simp [Task.work, atPc])
        · exact workBound_panic live
  case h_2 atPc =>
      split at stepped <;> cases stepped
      · exact byTask (by simp) (by simp) (by simp) (State.setDeadline_work ..)
          (by simp [Task.work, atPc])
      · exact workBound_panic live
  case h_3 atPc | h_5 atPc =>
      split at stepped <;> cases stepped
      · exact byTask rfl rfl rfl rfl (by simp [Task.work, atPc])
      · exact workBound_panic live
  case h_4 n atPc =>
      split at stepped
      · rename_i c connFound
        split at stepped <;> cases stepped
        · exact byTask rfl rfl rfl rfl (by simp [Task.work, atPc]; omega)
        · refine workBound_setConn_setTask_lt found connFound ?_
          rw [Conn.work_write]
          simp [Task.work, atPc]
          omega
      · cases stepped
  case h_6 n atPc =>
      split at stepped
      · rename_i c connFound
        split at stepped
        · cases stepped
          exact byTask rfl rfl rfl rfl (by simp [Task.work, atPc])
        · split at stepped <;> cases stepped
          exact workBound_setConn_setTask_lt found connFound (by simp [Task.work, Conn.work, atPc])
      · cases stepped
  case h_7 length atPc =>
      split at stepped
      · cases stepped
        exact byTask rfl rfl rfl rfl (by simp [Task.work, atPc])
      · split at stepped <;> cases stepped
        · exact byTask rfl rfl rfl rfl (by simp [Task.work, atPc])
        · exact workBound_panic live
  case h_8 n length atPc =>
      split at stepped
      · rename_i c connFound
        split at stepped
        · cases stepped
          exact byTask rfl rfl rfl rfl (by simp [Task.work, atPc])
        · split at stepped <;> cases stepped
          exact workBound_setConn_setTask_lt found connFound (by simp [Task.work, Conn.work, atPc])
      · cases stepped
  case h_9 out atPc =>
      cases stepped
      split
      · exact byTask (by simp) (by simp) (by simp) (State.setDeadline_work ..)
          (by simp [Task.work, atPc])
      · exact byTask rfl rfl rfl rfl (by simp [Task.work, atPc])
  case h_10 out atPc =>
      cases stepped
      exact byTask rfl rfl rfl rfl (by simp [Task.work, atPc])
  case h_11 =>
      cases stepped

/-- Taking a frame off a stream takes its two header bytes and more. -/
theorem takeFrame?_length {bytes query rest : Bytes}
    (taken : takeFrame? bytes = some (query, rest)) : rest.length + 2 ≤ bytes.length := by
  unfold takeFrame? at taken
  split at taken
  · split at taken <;> cases taken
    simp only [List.length_drop, List.length_cons]
    omega
  · cases taken

/-- Every step of a caller, a goroutine or the server lowers the work. -/
theorem step_work_lt {server : Server} {s s' : State} {e : Event} (internal : e.internal = true)
    (stepped : step server s e = some s') : workBound s' < workBound s := by
  cases live : s.panicked
  case true =>
      simp [step, live] at stepped
  cases e with
  | caller i =>
      simp only [step, live, Bool.false_eq_true, ↓reduceIte] at stepped
      split at stepped
      · exact callerStep_work_lt ‹_› stepped
      · cases stepped
  | task k =>
      simp only [step, live, Bool.false_eq_true, ↓reduceIte] at stepped
      split at stepped
      · exact taskStep_work_lt live ‹_› stepped
      · cases stepped
  | serve n =>
      simp only [step, live, Bool.false_eq_true, ↓reduceIte] at stepped
      repeat' split at stepped
      all_goals cases stepped
      rename_i c found _ query rest taken _
      have shorter := takeFrame?_length taken
      have short := server.reply_short query
      refine workBound_lt_of_connMove found ?_
      simp only [Conn.work, byteWeight, List.length_append, frame, List.length_cons]
      omega
  | deliver n count =>
      simp only [step, live, Bool.false_eq_true, ↓reduceIte] at stepped
      repeat' split at stepped
      all_goals cases stepped
      rename_i c found arriving
      refine workBound_lt_of_connMove found ?_
      simp only [Conn.work, List.length_drop]
      omega
  | call _ | cancel _ | dialFail _ _ | contextDone _ | writeFail _ _ | timeout _ _ =>
      simp [Event.internal] at internal

/-- In every state of a run without a read past its deadline and without a `select` won by
`ctx.Done()`, if no caller, no goroutine and not the server can take a step, every call has
returned: the mutex, the wait in `try` and the reads on the connection never deadlock. -/
theorem no_deadlock_without_interruption {server : Server} {s : State} (events : List Event)
    (uninterrupted : ∀ e ∈ events, e.interrupts = false)
    (ran : run server initial events = some s)
    (stuck : ∀ e, e.internal = true → step server s e = none) :
    ∀ (i : Nat) (c : Caller), s.callers[i]? = some c → ∃ out, c.pc = .done out := by
  intro i c found
  by_contra busy
  obtain ⟨e, internal, moves⟩ := (attributed_of_run events uninterrupted ran).canMove
    (waitersInv_of_reachable ⟨events, ran⟩) found (fun out atDone => busy ⟨out, atDone⟩)
  rw [stuck e internal] at moves
  cases moves

/-- Where the echo call ends nothing can move: its caller and its goroutine are done, and nothing
is in transit. -/
theorem echoCallState_stuck : ∀ e, e.internal = true → step echoServer echoCallState e = none
  | .caller 0, _ | .task 0, _ | .serve 0, _ => rfl
  | .deliver 0 count, _ => by simp [step, echoCallState, Conn.fresh, Nat.pos_iff_ne_zero]
  | .caller (_ + 1), _ | .task (_ + 1), _ | .serve (_ + 1), _ | .deliver (_ + 1) _, _ => rfl

/-- The echo call is such a run: where it ends nothing can move, and its call has returned. -/
theorem no_deadlock_without_interruption_echo :
    (∀ e ∈ echoCallRun, e.interrupts = false) ∧ run echoServer initial echoCallRun = some echoCallState ∧
    (∀ e, e.internal = true → step echoServer echoCallState e = none) ∧
    ∀ (i : Nat) (c : Caller), echoCallState.callers[i]? = some c → ∃ out, c.pc = .done out :=
  ⟨by decide, run_echoCallRun, echoCallState_stuck,
    no_deadlock_without_interruption echoCallRun (by decide) run_echoCallRun echoCallState_stuck⟩

/-- From every state, whatever the interleaving, the callers, the goroutines and the server
take at most `workBound s` steps of their own: the resolver's internal activity always stops. -/
theorem internal_run_length_le {server : Server} :
    ∀ {s s' : State} (more : List Event), (∀ e ∈ more, e.internal = true) →
      run server s more = some s' → more.length ≤ workBound s
  | _, _, [], _, _ => Nat.zero_le _
  | s, _, e :: rest, internal, ran => by
      simp only [run, Option.bind_eq_some] at ran
      obtain ⟨s₁, stepped, ran⟩ := ran
      have lower := step_work_lt (internal e (.head rest)) stepped
      have bounded := internal_run_length_le rest (fun e' member => internal e' (.tail e member)) ran
      simp only [List.length_cons]
      omega

/-- A resolver with one call, about to add itself to `users`. -/
def oneCallState : State :=
  { initial with callers := [{ query := some [1], cancelled := false, pc := .entry }] }

/-- The steps that take that call to an echo server through to its return. -/
def oneCallRun : List Event :=
  [.caller 0, .caller 0, .caller 0, .caller 0, .caller 0, .caller 0,
   .task 0, .task 0, .task 0, .task 0, .serve 0, .deliver 0 3,
   .task 0, .task 0, .task 0, .task 0, .task 0, .task 0, .caller 0, .caller 0]

/-- That run is one of the runs the bound covers. -/
theorem internal_run_length_le_oneCall :
    ∃ s', run echoServer oneCallState oneCallRun = some s' ∧
      oneCallRun.length ≤ workBound oneCallState := by
  obtain ⟨s', ran, _⟩ := @exists_of_run_any echoServer (fun _ => true) oneCallState oneCallRun
    (by decide)
  exact ⟨s', ran, internal_run_length_le oneCallRun (by decide) ran⟩

end ProbeResolver.TcpTls
