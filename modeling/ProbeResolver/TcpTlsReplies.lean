import ProbeResolver.GenericResolver
import ProbeResolver.TcpTlsAttribution

namespace ProbeResolver.TcpTls

/-!
# The TCP/TLS resolver refines a sequential transport

`dnsOverTCPTLSResolver.LookupHost` runs the generic resolver over the
resolver itself as its `dnsTransport`. The sequential design that transport
implements is `serverTransport`: a query too long for a frame fails with
`errDNSOverTCPTLSQueryTooLong`, and any other gets the server's reply to it.

The machine refines it along every run in which no dial or write fails, no
read passes its deadline and no `select` of `try` is won by `ctx.Done()`:
every `roundTrip` returns exactly what `serverTransport` returns for its
query, however many other calls run and however the goroutines interleave.
The I/O of a goroutine only ever meets `r.conn`, which is open, so no I/O
error arises; `Results` says which error each result carries, and
`Attributed` which reply a result without error holds.
-/

/-- The sequential transport the resolver implements against `server`. -/
def serverTransport (server : Server) : DNSTransport Unit where
  roundTrip query _ :=
    (if query.length > 65535 then ([], some .dnsOverTCPTLSQueryTooLong)
     else (server.reply query, none), ())

/-- The result an `asyncTry` goroutine holds once its I/O is over. -/
def TaskPc.out? : TaskPc → Option (GoResult Bytes)
  | .clearDeadline out => some out
  | .send out => some out
  | .sent out => some out
  | _ => none

/-- The result a caller holds once `do` is over. -/
def CallerPc.out? : CallerPc → Option (GoResult Bytes)
  | .unlock out => some out
  | .done out => some out
  | _ => none

/-- A failed dial or write, a read past its deadline, or a `select` won by `ctx.Done()`. -/
def Event.fails (e : Event) : Bool :=
  match e with
  | .dialFail _ _ => true
  | .writeFail _ _ => true
  | _ => e.interrupts

/-- The result the query decides: a query too long for a frame fails with
`errDNSOverTCPTLSQueryTooLong` and no reply, any other gets a reply and no error. -/
def Expected (query : Bytes) (out : GoResult Bytes) : Prop :=
  (query.length > 65535 → out = ([], some .dnsOverTCPTLSQueryTooLong)) ∧
    (query.length ≤ 65535 → out.2 = none)

/-- A goroutine holds the result its query decides, and one whose query is too long for a frame
gets that result at its first step. -/
def Task.resultOk (t : Task) : Prop :=
  (∀ out, t.pc.out? = some out → Expected t.query out) ∧
    (t.query.length > 65535 → t.pc = .start ∨ t.pc.out?.isSome)

/-- A caller holds the result its query decides. -/
def Caller.resultOk (c : Caller) : Prop :=
  ∀ query out, c.query = some query → c.pc.out? = some out → Expected query out

/-- Every goroutine and every caller holds the result its query decides. -/
structure Results (s : State) : Prop where
  tasks : ∀ t ∈ s.tasks, t.resultOk
  callers : ∀ c ∈ s.callers, c.resultOk

theorem results_initial : Results initial :=
  ⟨by simp [initial], by simp [initial]⟩

/-! ## Every step keeps `Results` -/

/-- Replacing one entry of a list whose entries all satisfy `p` by one that does keeps them so. -/
theorem forall_mem_set {α : Type} {p : α → Prop} {l : List α} (all : ∀ x ∈ l, p x) (i : Nat)
    {y : α} (holds : p y) : ∀ x ∈ l.set i y, p x := fun x member => by
  rcases List.mem_or_eq_of_mem_set member with old | rfl
  · exact all x old
  · exact holds

/-- The I/O of a goroutine is on `r.conn`, which is open. -/
theorem Exclusive.io_open {s : State} (inv : Exclusive s) {k : Nat} {t : Task}
    (found : s.tasks[k]? = some t) {n : Nat} (io : t.pc.ioConn? = some n) {c : Conn}
    (connFound : s.conns[n]? = some c) : c.closed = false := by
  have unfinished : t.pc.finished = false := by
    cases atPc : t.pc <;> simp_all [TaskPc.ioConn?, TaskPc.finished]
  obtain ⟨i, d, a, waiter, atWait⟩ := inv.owned k t found unfinished
  obtain ⟨u, m, task, _, current, onM⟩ := inv.waiting i d a k waiter atWait
  rw [found, Option.some_inj] at task
  subst task
  have same : n = m := by
    rcases onM.2 with none | same
    · rw [io] at none
      cases none
    · exact Option.some_inj.mp (io.symm.trans same)
  subst same
  have isOpen := inv.connOpen n current
  simp only [List.getElem?_map, connFound, Option.map_some', Option.some_inj] at isOpen
  exact isOpen

/-- A goroutine step on open connections keeps the goroutine holding the result its query
decides. -/
theorem taskStep_resultOk {s s' : State} {k : Nat} {t : Task} (ok : t.resultOk)
    (ioOpen : ∀ n c, t.pc.ioConn? = some n → s.conns[n]? = some c → c.closed = false)
    (stepped : taskStep s k t = some s') :
    s'.tasks = s.tasks ∨ ∃ t', s'.tasks = s.tasks.set k t' ∧ t'.resultOk := by
  obtain ⟨held, long⟩ := ok
  unfold taskStep at stepped
  split at stepped
  all_goals (repeat' split at stepped)
  all_goals cases stepped
  all_goals first
    | exact .inl rfl
    | refine .inr ⟨_, by first | rfl | rw [State.setTask, State.setDeadline_tasks], ?_⟩
  all_goals simp_all [Task.resultOk, Expected, TaskPc.out?, TaskPc.ioConn?]

/-- Going on from `try` with the result the query decides returns that result. -/
theorem afterTry_expected {query : Bytes} {attempt : Attempt} {out result : GoResult Bytes}
    (expected : Expected query out) (returned : (afterTry attempt out).out? = some result) :
    Expected query result := by
  unfold afterTry at returned
  split at returned
  · simp only [CallerPc.out?, Option.some_inj] at returned
    subst returned
    exact expected
  · split at returned
    · cases returned
    · simp only [CallerPc.out?, Option.some_inj] at returned
      subst returned
      obtain ⟨long, short⟩ := expected
      exact ⟨fun l => by simp_all, fun l => by simp_all⟩
  · simp only [CallerPc.out?, Option.some_inj] at returned
    subst returned
    exact expected

section Steps

variable {s s' : State}

/-- A move of caller `i` to a caller that holds the result its query decides keeps `Results`. -/
theorem Results.of_callerMove (inv : Results s) {i : Nat} {c' : Caller}
    (callers : s'.callers = s.callers.set i c') (tasks : s'.tasks = s.tasks)
    (ok : c'.resultOk) : Results s' :=
  ⟨tasks ▸ inv.tasks, callers ▸ forall_mem_set inv.callers i ok⟩

/-- A caller at a point without a result holds the result its query decides. -/
theorem Caller.resultOk_of_none {c : Caller} (noResult : c.pc.out? = none) : c.resultOk :=
  fun _ _ _ returned => by
    rw [noResult] at returned
    cases returned

/-- Every caller step keeps `Results`, given `Exclusive`. -/
theorem results_callerStep (inv : Results s) (exclusive : Exclusive s) {i : Nat} {c : Caller}
    (found : s.callers[i]? = some c) (stepped : callerStep s i c = some s') : Results s' := by
  unfold callerStep at stepped
  split at stepped
  case h_1 | h_3 | h_5 =>
      cases stepped
      exact inv.of_callerMove rfl rfl (Caller.resultOk_of_none rfl)
  case h_2 =>
      split at stepped <;> cases stepped
      exact inv.of_callerMove rfl rfl (Caller.resultOk_of_none rfl)
  case h_4 =>
      split at stepped <;> cases stepped
      · rename_i unasked
        have ok : Caller.resultOk { c with pc := .unlock ([], none) } := fun query _ asked => by
          simp [unasked] at asked
        by_cases closing : s.users = 0 ∧ s.conn.isSome = true
        · simp only [closing, and_self, ↓reduceIte]
          exact inv.of_callerMove (by rw [State.setCaller, State.closeConn_callers]) (by simp) ok
        · simp only [closing, ↓reduceIte]
          exact inv.of_callerMove rfl rfl ok
      · exact inv.of_callerMove rfl rfl (Caller.resultOk_of_none (by split <;> rfl))
  case h_6 =>
      split at stepped <;> cases stepped
      refine ⟨?_, forall_mem_set inv.callers i (Caller.resultOk_of_none rfl)⟩
      intro t member
      rcases List.mem_append.mp member with old | new
      · exact inv.tasks t old
      · simp only [List.mem_singleton] at new
        subst new
        exact ⟨by simp [TaskPc.out?], fun _ => .inl rfl⟩
  case h_7 attempt k atWait =>
      split at stepped <;> cases stepped
      rename_i query deferred out sent
      obtain ⟨t, n, task, asked, _⟩ := exclusive.waiting i c attempt k found atWait
      rw [sent, Option.some_inj] at task
      subst task
      have held := (inv.tasks _ (List.mem_iff_getElem?.mpr ⟨k, sent⟩)).1 out rfl
      refine inv.of_callerMove rfl rfl fun query' result asked' returned => ?_
      simp only [asked, Option.some_inj] at asked'
      subst asked'
      exact afterTry_expected held returned
  case h_8 =>
      cases stepped
      exact inv.of_callerMove (by rw [State.setCaller, State.closeConn_callers]) (by simp)
        (Caller.resultOk_of_none (by rfl))
  case h_9 out atUnlock =>
      cases stepped
      have mine := inv.callers c (List.mem_iff_getElem?.mpr ⟨i, found⟩)
      exact inv.of_callerMove rfl rfl fun query result asked returned =>
        mine query result asked (by simpa [CallerPc.out?, atUnlock] using returned)
  case h_10 =>
      cases stepped

/-- Every step other than a failure keeps `Results`, given `Exclusive`. -/
theorem results_step {server : Server} {e : Event} (inv : Results s) (exclusive : Exclusive s)
    (ok : e.fails = false) (stepped : step server s e = some s') : Results s' := by
  have live := exclusive.notPanicked
  cases e with
  | call query =>
      simp only [step, live, Bool.false_eq_true, ↓reduceIte] at stepped
      cases stepped
      refine ⟨inv.tasks, fun c member => ?_⟩
      rcases List.mem_append.mp member with old | new
      · exact inv.callers c old
      · simp only [List.mem_singleton] at new
        subst new
        exact Caller.resultOk_of_none rfl
  | cancel i =>
      simp only [step, live, Bool.false_eq_true, ↓reduceIte] at stepped
      split at stepped <;> cases stepped
      rename_i c found
      exact inv.of_callerMove rfl rfl (inv.callers c (List.mem_iff_getElem?.mpr ⟨i, found⟩))
  | caller i =>
      simp only [step, live, Bool.false_eq_true, ↓reduceIte] at stepped
      split at stepped
      · exact results_callerStep inv exclusive ‹_› stepped
      · cases stepped
  | task k =>
      simp only [step, live, Bool.false_eq_true, ↓reduceIte] at stepped
      split at stepped
      · rename_i t found
        have callers := (taskStep_frame stepped).1
        refine ⟨?_, by rw [callers]; exact inv.callers⟩
        rcases taskStep_resultOk (inv.tasks t (List.mem_iff_getElem?.mpr ⟨k, found⟩))
          (fun n c io connFound => exclusive.io_open found io connFound) stepped
          with same | ⟨t', tasks, ok⟩
        · rw [same]
          exact inv.tasks
        · rw [tasks]
          exact forall_mem_set inv.tasks k ok
      · cases stepped
  | serve n | deliver n count =>
      simp only [step, live, Bool.false_eq_true, ↓reduceIte] at stepped
      repeat' split at stepped
      all_goals cases stepped
      exact ⟨inv.tasks, inv.callers⟩
  | dialFail | contextDone | writeFail | timeout =>
      simp [Event.fails, Event.interrupts, Event.contextWins, Event.deadlinePasses] at ok

end Steps

/-- Along every run without a failure, `Attributed` and `Results` hold. -/
theorem attributed_results_of_run {server : Server} {s : State} (events : List Event)
    (noFailure : ∀ e ∈ events, e.fails = false) (ran : run server initial events = some s) :
    Attributed server s ∧ Results s := by
  have uninterrupted : ∀ e : Event, e.fails = false → e.interrupts = false := by
    intro e ok
    cases e <;> first | exact ok | cases ok
  refine run_invariant_of (P := fun s => Attributed server s ∧ Results s)
    (fun _ _ _ ok inv stepped => ⟨attributed_step inv.1 (uninterrupted _ ok) stepped,
      results_step inv.2 inv.1.toExclusive ok stepped⟩)
    events noFailure ⟨attributed_initial server, results_initial⟩ ran

/-- Along every run in which no dial or write fails, no read passes its deadline and no `select`
of `try` is won by `ctx.Done()`, against every server that answers each query with one frame:
every `roundTrip`, once it returns or is about to, returns exactly what `serverTransport`
returns for its query, whatever the other calls do. -/
theorem roundTrip_refines_serverTransport {server : Server} {s : State}
    (events : List Event) (noFailure : ∀ e ∈ events, e.fails = false)
    (ran : run server initial events = some s) :
    ∀ (i : Nat) (c : Caller) (query : Bytes) (out : GoResult Bytes), s.callers[i]? = some c →
      c.query = some query → (c.pc = .unlock out ∨ c.pc = .done out) →
      out = ((serverTransport server).roundTrip query ()).1 := by
  intro i c query out found asked returned
  obtain ⟨attributed, results⟩ := attributed_results_of_run events noFailure ran
  have expected : Expected query out :=
    results.callers c (List.mem_iff_getElem?.mpr ⟨i, found⟩) query out asked
      (by rcases returned with atPc | atPc <;> simp [atPc, CallerPc.out?])
  simp only [serverTransport]
  by_cases long : query.length > 65535
  · rw [if_pos long]
    exact expected.1 long
  · obtain ⟨reply, err⟩ := out
    obtain rfl : err = none := expected.2 (by omega)
    rw [if_neg long, attributed.answered i c query reply found asked returned]

/-- That run has no failure, and its call returns the echo of its query. -/
theorem roundTrip_refines_serverTransport_echo :
    (∀ e ∈ echoCallRun, e.fails = false) ∧ ∃ s, run echoServer initial echoCallRun = some s ∧
      (∃ c ∈ s.callers, c.pc = .done ([1], none)) ∧
      ∀ (i : Nat) (c : Caller) (query : Bytes) (out : GoResult Bytes), s.callers[i]? = some c →
        c.query = some query → (c.pc = .unlock out ∨ c.pc = .done out) →
        out = ((serverTransport echoServer).roundTrip query ()).1 :=
  ⟨by decide, echoCallState, run_echoCallRun, ⟨_, List.mem_singleton_self _, rfl⟩,
    roundTrip_refines_serverTransport echoCallRun (by decide) run_echoCallRun⟩

end ProbeResolver.TcpTls
