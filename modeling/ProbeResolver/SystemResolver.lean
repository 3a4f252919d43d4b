import ProbeResolver.ResolverChain

namespace ProbeResolver

/-!
# The system resolver and its race against the deadline

`resolverSystem.LookupHost` hands the name to the standard library's lookup in
a goroutine and waits, in one `select`, for whichever comes first: the
goroutine's answer on one of two channels, or the end of a context that
`context.WithTimeout` bounds by `timeout()`. Each channel has room for one
value, so the goroutine can always deliver its answer and exit, even when
`LookupHost` has long returned on the deadline.

The machine is one call: the goroutine, the caller's context, the timer, the
clock and the `select`, each step one action of one of them. The world decides
what the lookup returns, and when the clock ticks and the caller's context
ends. Over every interleaving: the goroutine never blocks, so no goroutine is
leaked; the call returns what the lookup returned, in Go's nil-on-error form,
or the context's error; it can return by its deadline without any step of the
lookup; and every party acts at most once.

`NewResolverStdlib` puts `WrapResolver` around this resolver. Its `LookupHTTPS`
and `LookupNS` need a DNS transport it does not have, so through the chain they
answer nothing but IP literals.
-/

namespace SystemResolver

/-- `15 * time.Second`, in nanoseconds. -/
def defaultTimeout : Int := 15 * 1000000000

/-- `resolverSystem.timeout`: the test override when positive, else fifteen seconds. -/
def timeout (testableTimeout : Int) : Int :=
  if testableTimeout > 0 then testableTimeout else defaultTimeout

/-- The deadline is always in the future: a call never starts with its context already over. -/
theorem timeout_pos (testableTimeout : Int) : 0 < timeout testableTimeout := by
  unfold timeout defaultTimeout
  split <;> omega

/-- `context.DeadlineExceeded`, what `ctx.Err()` returns once the deadline has passed. -/
def contextDeadlineExceeded : GoError :=
  .library "context deadline exceeded"

/-- What the world decides about one call of `LookupHost`. -/
structure Call where
  /-- `r.testableTimeout`. -/
  testableTimeout : Int
  /-- What `r.lookupHost()(ctx, hostname)` returns. -/
  lookupOut : GoResult (List String)
  /-- `ctx.Err()` of the caller's context, should it end during the call. -/
  parentErr : GoError
  deriving Repr, DecidableEq

/-- Where the lookup goroutine is. -/
inductive WorkerPc where
  /-- Inside `r.lookupHost()(ctx, hostname)`. -/
  | lookup
  /-- About to send the answer on `errch` or `addrsch`. -/
  | send
  /-- Returned. -/
  | exited
  deriving Repr, DecidableEq

/-- Where `LookupHost` is. -/
inductive MainPc where
  /-- Blocked in the `select`. -/
  | select
  /-- Returned `out`; the deferred `cancel()` has run. -/
  | returned (out : GoResult (List String))
  deriving Repr, DecidableEq

/-- One call of `LookupHost`: its goroutine, its two channels, its context and the clock. -/
structure Race where
  /-- Nanoseconds since `context.WithTimeout`. -/
  elapsed : Nat
  worker : WorkerPc
  /-- The buffer of `addrsch`, of capacity one. -/
  addrsch : List (List String)
  /-- The buffer of `errch`, of capacity one. -/
  errch : List GoError
  /-- `ctx.Err()`: `none` while `ctx.Done()` is open. -/
  ctxErr : Option GoError
  main : MainPc
  deriving Repr, DecidableEq

/-- `LookupHost` right after `go func()`: nothing has happened yet. -/
def initial : Race :=
  { elapsed := 0, worker := .lookup, addrsch := [], errch := [], ctxErr := none, main := .select }

/-- One action of one party of the call. -/
inductive Event where
  /-- A nanosecond passes. -/
  | tick
  /-- The caller's context ends. -/
  | parentDone
  /-- The timer of `context.WithTimeout` fires. -/
  | expire
  /-- `r.lookupHost()(ctx, hostname)` returns. -/
  | lookupReturns
  /-- The goroutine sends its answer. -/
  | send
  /-- The `select` takes `<-ctx.Done()`. -/
  | selectDone
  /-- The `select` takes `<-addrsch`. -/
  | selectAddrs
  /-- The `select` takes `<-errch`. -/
  | selectErr
  deriving Repr, DecidableEq

/-- The deferred `cancel()`: the context ends as cancelled unless it has ended already. -/
def cancel (ctxErr : Option GoError) : Option GoError :=
  ctxErr.orElse fun _ => some .contextCanceled

/-- One step of the call; `none` when the event cannot happen. -/
def step (call : Call) (s : Race) : Event → Option Race
  | .tick => some { s with elapsed := s.elapsed + 1 }
  | .parentDone => if s.ctxErr = none then some { s with ctxErr := some call.parentErr } else none
  | .expire =>
      if s.ctxErr = none ∧ timeout call.testableTimeout ≤ s.elapsed then
        some { s with ctxErr := some contextDeadlineExceeded }
      else none
  | .lookupReturns => if s.worker = .lookup then some { s with worker := .send } else none
  | .send =>
      if s.worker = .send then
        match call.lookupOut with
        | (_, some err) =>
            if s.errch.length < 1 then some { s with errch := s.errch ++ [err], worker := .exited }
            else none
        | (addrs, none) =>
            if s.addrsch.length < 1 then
              some { s with addrsch := s.addrsch ++ [addrs], worker := .exited }
            else none
      else none
  | .selectDone =>
      match s.main, s.ctxErr with
      | .select, some err => some { s with main := .returned ([], some err) }
      | _, _ => none
  | .selectAddrs =>
      match s.main, s.addrsch with
      | .select, addrs :: rest =>
          some { s with addrsch := rest, main := .returned (addrs, none), ctxErr := cancel s.ctxErr }
      | _, _ => none
  | .selectErr =>
      match s.main, s.errch with
      | .select, err :: rest =>
          some { s with errch := rest, main := .returned ([], some err), ctxErr := cancel s.ctxErr }
      | _, _ => none

/-- The state after a list of events, if every one of them can happen in turn. -/
def run (call : Call) : Race → List Event → Option Race
  | s, [] => some s
  | s, e :: rest => (step call s e).bind fun s' => run call s' rest

/-- A state some run of the call reaches. -/
def Reachable (call : Call) (s : Race) : Prop :=
  ∃ events, run call initial events = some s

@[simp] theorem run_nil (call : Call) (s : Race) : run call s [] = some s := rfl

theorem run_cons {call : Call} {s s' : Race} {e : Event} (rest : List Event)
    (stepped : step call s e = some s') : run call s (e :: rest) = run call s' rest := by
  simp [run, stepped]

/-- An invariant of every step of some kind holds along every run made of such steps. -/
theorem run_invariant_of {call : Call} {allowed : Event → Prop} {P : Race → Prop}
    (preserved : ∀ s e s', allowed e → P s → step call s e = some s' → P s') :
    ∀ {s s' : Race} (events : List Event), (∀ e ∈ events, allowed e) → P s →
      run call s events = some s' → P s'
  | _, _, [], _, holds, ran => by
      cases ran
      exact holds
  | s, _, e :: rest, allowedAll, holds, ran => by
      simp only [run, Option.bind_eq_some] at ran
      obtain ⟨s₁, stepped, ran⟩ := ran
      exact run_invariant_of preserved rest (fun e' member => allowedAll e' (.tail e member))
        (preserved s e s₁ (allowedAll e (.head rest)) holds stepped) ran

/-- An invariant of the start and of every step holds in every reachable state. -/
theorem Reachable.invariant {call : Call} {P : Race → Prop} (base : P initial)
    (preserved : ∀ s e s', P s → step call s e = some s' → P s') {s : Race}
    (reachable : Reachable call s) : P s :=
  let ⟨events, ran⟩ := reachable
  run_invariant_of (fun s e s' (_ : True) => preserved s e s') events (fun _ _ => trivial) base ran

/-! ## What the call returns -/

/-- What `LookupHost` returns for the lookup's result when the lookup wins: the error alone when
there is one, else the addresses and `nil`. -/
def answer : GoResult (List String) → GoResult (List String)
  | (_, some err) => ([], some err)
  | (addrs, none) => (addrs, none)

/-- What every reachable state of a call satisfies. -/
structure RaceInv (call : Call) (s : Race) : Prop where
  /-- Until the goroutine has sent, both channels are empty. -/
  unsent : s.worker ≠ .exited → s.addrsch = [] ∧ s.errch = []
  /-- Only the lookup's answer goes into `addrsch`. -/
  addrs : ∀ a ∈ s.addrsch, answer call.lookupOut = (a, none)
  /-- Only the lookup's error goes into `errch`. -/
  errs : ∀ e ∈ s.errch, answer call.lookupOut = ([], some e)
  /-- While the `select` waits, the context can only have ended by its deadline or its parent. -/
  ended : s.main = .select → ∀ e, s.ctxErr = some e →
    e = contextDeadlineExceeded ∨ e = call.parentErr
  /-- The call returns the lookup's answer or the context's error. -/
  returned : ∀ out, s.main = .returned out →
    out = answer call.lookupOut ∨ ∃ e, out = ([], some e) ∧
      (e = contextDeadlineExceeded ∨ e = call.parentErr)

theorem raceInv_initial (call : Call) : RaceInv call initial where
  unsent _ := ⟨rfl, rfl⟩
  addrs := by simp [initial]
  errs := by simp [initial]
  ended _ := by simp [initial]
  returned := by simp [initial]

/-- A send by the goroutine puts the lookup's answer into the one channel it belongs to. -/
theorem answer_of_send {call : Call} {s s' : Race} (inv : RaceInv call s)
    (stepped : step call s .send = some s') :
    s'.worker = .exited ∧ s'.main = s.main ∧ s'.ctxErr = s.ctxErr ∧
      (∀ a ∈ s'.addrsch, answer call.lookupOut = (a, none)) ∧
      ∀ e ∈ s'.errch, answer call.lookupOut = ([], some e) := by
  simp only [step] at stepped
  split at stepped
  · next sending =>
      obtain ⟨noAddrs, noErrs⟩ := inv.unsent (by rw [sending]; exact nofun)
      split at stepped <;> rename_i atOut <;> split at stepped <;> cases stepped <;>
        simp [noAddrs, noErrs, answer, atOut]
  · cases stepped

/-- The steps the goroutine has left. -/
def WorkerPc.remaining : WorkerPc → List Event
  | .lookup => [.lookupReturns, .send]
  | .send => [.send]
  | .exited => []

/-- With both channels empty, the goroutine's send goes through and it exits. -/
theorem send_of_empty (call : Call) {s : Race} (sending : s.worker = .send)
    (noAddrs : s.addrsch = []) (noErrs : s.errch = []) :
    ∃ s', step call s .send = some s' ∧ s'.worker = .exited ∧ s'.main = s.main := by
  simp only [step, sending, if_true]
  split <;> simp [noAddrs, noErrs]

/-- Every step keeps `RaceInv`. -/
theorem raceInv_step {call : Call} {s s' : Race} {e : Event} (inv : RaceInv call s)
    (stepped : step call s e = some s') : RaceInv call s' := by
  cases e with
  | tick =>
      cases stepped
      exact ⟨inv.unsent, inv.addrs, inv.errs, inv.ended, inv.returned⟩
  | parentDone | expire =>
      simp only [step] at stepped
      split at stepped <;> cases stepped
      exact ⟨inv.unsent, inv.addrs, inv.errs, fun _ e ended => by simp_all, inv.returned⟩
  | lookupReturns =>
      simp only [step] at stepped
      split at stepped <;> cases stepped
      exact ⟨fun _ => inv.unsent (by simp_all), inv.addrs, inv.errs, inv.ended, inv.returned⟩
  | send =>
      obtain ⟨exited, main, ctxErr, addrs, errs⟩ := answer_of_send inv stepped
      exact ⟨fun sending => absurd exited sending, addrs, errs,
        fun waiting e ended => inv.ended (main ▸ waiting) e (ctxErr ▸ ended),
        fun out returned => inv.returned out (main ▸ returned)⟩
  | selectDone =>
      simp only [step] at stepped
      split at stepped <;> cases stepped
      rename_i err waiting ended
      exact ⟨inv.unsent, inv.addrs, inv.errs, nofun,
        fun out returned => .inr ⟨err, (MainPc.returned.inj returned).symm,
          inv.ended waiting err ended⟩⟩
  | selectAddrs =>
      simp only [step] at stepped
      split at stepped <;> cases stepped
      rename_i addrs rest waiting buffered
      refine ⟨fun sending => ?_, fun a member => inv.addrs a (by simp [buffered, member]),
        inv.errs, nofun, fun out returned => .inl ?_⟩
      · exact ⟨(List.cons_ne_nil _ _ ((inv.unsent sending).1 ▸ buffered).symm).elim,
          (inv.unsent sending).2⟩
      · rw [← MainPc.returned.inj returned, inv.addrs addrs (by simp [buffered])]
  | selectErr =>
      simp only [step] at stepped
      split at stepped <;> cases stepped
      rename_i err rest waiting buffered
      refine ⟨fun sending => ?_, inv.addrs, fun e member => inv.errs e (by simp [buffered, member]),
        nofun, fun out returned => .inl ?_⟩
      · exact ⟨(inv.unsent sending).1,
          (List.cons_ne_nil _ _ ((inv.unsent sending).2 ▸ buffered).symm).elim⟩
      · rw [← MainPc.returned.inj returned, inv.errs err (by simp [buffered])]

theorem raceInv_of_reachable {call : Call} {s : Race} (reachable : Reachable call s) :
    RaceInv call s :=
  reachable.invariant (raceInv_initial call) (fun _ _ _ inv stepped => raceInv_step inv stepped)

/--
Whatever the call has done, `select` included, in every reachable state the goroutine's
remaining steps can happen: its send never blocks on a full channel, and it ends. No call of
`LookupHost` leaks its goroutine, not even one that returned on the deadline.
-/
theorem goroutine_never_blocks {call : Call} {s : Race} (reachable : Reachable call s) :
    ∃ s', run call s s.worker.remaining = some s' ∧ s'.worker = .exited ∧ s'.main = s.main := by
  have inv := raceInv_of_reachable reachable
  cases atPc : s.worker with
  | lookup =>
      obtain ⟨noAddrs, noErrs⟩ := inv.unsent (by rw [atPc]; exact nofun)
      have returns : step call s .lookupReturns = some { s with worker := .send } := by
        simp [step, atPc]
      obtain ⟨s', sent, exited, main⟩ := send_of_empty call (s := { s with worker := .send }) rfl
        noAddrs noErrs
      exact ⟨s', by simp [WorkerPc.remaining, run_cons _ returns, run_cons _ sent], exited, main⟩
  | send =>
      obtain ⟨noAddrs, noErrs⟩ := inv.unsent (by rw [atPc]; exact nofun)
      obtain ⟨s', sent, exited, main⟩ := send_of_empty call atPc noAddrs noErrs
      exact ⟨s', by simp [WorkerPc.remaining, run_cons _ sent], exited, main⟩
  | exited =>
      exact ⟨s, rfl, atPc, rfl⟩

/-- A call whose lookup finds one address, with a one-nanosecond timeout. -/
def resolvedCall : Call :=
  { testableTimeout := 1, lookupOut := (["10.0.0.1"], none), parentErr := .contextCanceled }

/-- A call that returned on its deadline before its lookup did: the goroutine still ends. -/
theorem goroutine_never_blocks_after_deadline :
    ∃ s, run resolvedCall initial [.tick, .expire, .selectDone] = some s ∧
      s.main = .returned ([], some contextDeadlineExceeded) ∧
      ∃ s', run resolvedCall s s.worker.remaining = some s' ∧ s'.worker = .exited ∧
        s'.main = s.main :=
  have ran : run resolvedCall initial [.tick, .expire, .selectDone] =
      some { initial with elapsed := 1, ctxErr := some contextDeadlineExceeded,
                          main := .returned ([], some contextDeadlineExceeded) } := rfl
  ⟨_, ran, rfl, goroutine_never_blocks ⟨_, ran⟩⟩

/-- While neither the deadline nor the caller's context has ended, the context is open, and a
call that returned holds the lookup's answer. -/
structure Undisturbed (call : Call) (s : Race) : Prop where
  waitingOpen : s.main = .select → s.ctxErr = none
  answered : ∀ out, s.main = .returned out → out = answer call.lookupOut

/-- Every step but the deadline's and the caller's context's end keeps `Undisturbed`. -/
theorem undisturbed_step {call : Call} {s s' : Race} {e : Event} (inv : RaceInv call s)
    (undisturbed : Undisturbed call s) (quiet : e ≠ .expire ∧ e ≠ .parentDone)
    (stepped : step call s e = some s') : Undisturbed call s' := by
  cases e with
  | tick =>
      cases stepped
      exact ⟨undisturbed.waitingOpen, undisturbed.answered⟩
  | parentDone | expire =>
      simp at quiet
  | lookupReturns =>
      simp only [step] at stepped
      split at stepped <;> cases stepped
      exact ⟨undisturbed.waitingOpen, undisturbed.answered⟩
  | send =>
      obtain ⟨_, main, ctxErr, _⟩ := answer_of_send inv stepped
      exact ⟨fun waiting => ctxErr ▸ undisturbed.waitingOpen (main ▸ waiting),
        fun out returned => undisturbed.answered out (main ▸ returned)⟩
  | selectDone =>
      simp only [step] at stepped
      split at stepped <;> cases stepped
      rename_i err waiting ended
      rw [undisturbed.waitingOpen waiting] at ended
      cases ended
  | selectAddrs =>
      simp only [step] at stepped
      split at stepped <;> cases stepped
      rename_i addrs rest waiting buffered
      refine ⟨nofun, fun out returned => ?_⟩
      rw [← MainPc.returned.inj returned, inv.addrs addrs (by simp [buffered])]
  | selectErr =>
      simp only [step] at stepped
      split at stepped <;> cases stepped
      rename_i err rest waiting buffered
      refine ⟨nofun, fun out returned => ?_⟩
      rw [← MainPc.returned.inj returned, inv.errs err (by simp [buffered])]

/--
Every call returns what its lookup returned, in Go's nil-on-error form, or the error of its
context, which is `context.DeadlineExceeded` or the error of the caller's context; and along
every run in which the deadline does not pass and the caller's context does not end, it returns
exactly the lookup's answer.
-/
theorem lookupHost_returns_answer_or_ctxErr (call : Call) :
    (∀ s out, Reachable call s → s.main = .returned out →
      out = answer call.lookupOut ∨ ∃ e, out = ([], some e) ∧
        (e = contextDeadlineExceeded ∨ e = call.parentErr)) ∧
    ∀ events s out, (∀ e ∈ events, e ≠ .expire ∧ e ≠ .parentDone) →
      run call initial events = some s → s.main = .returned out → out = answer call.lookupOut := by
  refine ⟨fun s out reachable => (raceInv_of_reachable reachable).returned out,
    fun events s out quiet ran => ?_⟩
  have both := run_invariant_of (P := fun s => RaceInv call s ∧ Undisturbed call s)
    (fun _ _ _ quiet inv stepped => ⟨raceInv_step inv.1 stepped,
      undisturbed_step inv.1 inv.2 quiet stepped⟩)
    events quiet ⟨raceInv_initial call, ⟨fun _ => rfl, by simp [initial]⟩⟩ ran
  exact both.2.answered out

/-- Undisturbed, that call returns the address; past its deadline, before the lookup returns,
it returns `context.DeadlineExceeded`. -/
theorem lookupHost_returns_answer_or_ctxErr_resolved :
    (∃ s, run resolvedCall initial [.lookupReturns, .send, .selectAddrs] = some s ∧
      s.main = .returned (["10.0.0.1"], none) ∧
      (["10.0.0.1"], none) = answer resolvedCall.lookupOut) ∧
    ∃ s, run resolvedCall initial [.tick, .expire, .selectDone] = some s ∧
      s.main = .returned ([], some contextDeadlineExceeded) ∧
      (([], some contextDeadlineExceeded) = answer resolvedCall.lookupOut ∨
        ∃ e, (([], some contextDeadlineExceeded) : GoResult (List String)) = ([], some e) ∧
          (e = contextDeadlineExceeded ∨ e = resolvedCall.parentErr)) :=
  ⟨⟨_, rfl, rfl, (lookupHost_returns_answer_or_ctxErr resolvedCall).2
      [.lookupReturns, .send, .selectAddrs] _ _ (by decide) rfl rfl⟩,
    ⟨_, rfl, rfl, (lookupHost_returns_answer_or_ctxErr resolvedCall).1 _ _
      ⟨[.tick, .expire, .selectDone], rfl⟩ rfl⟩⟩

/-! ## The deadline -/

/-- Steps of the clock, of the timer and of the `select`: none of the goroutine's and none of the
caller's context's. -/
def Event.withoutLookup : Event → Bool
  | .lookupReturns | .send | .parentDone => false
  | _ => true

theorem run_ticks (call : Call) (s : Race) (n : Nat) (rest : List Event) :
    run call s (List.replicate n .tick ++ rest) =
      run call { s with elapsed := s.elapsed + n } rest := by
  induction n generalizing s with
  | zero => rfl
  | succ n inductionHypothesis =>
      rw [List.replicate_succ, List.cons_append]
      show run call { s with elapsed := s.elapsed + 1 } _ = _
      rw [inductionHypothesis]
      simp only [Nat.add_assoc, Nat.add_comm 1 n]

/--
From every state in which `LookupHost` waits in its `select`, the clock, the timer and the
`select` alone, with no step of the lookup goroutine, can make it return, and by its deadline
at the latest: the lookup never holds the call past `timeout()`.
-/
theorem lookupHost_returns_by_deadline (call : Call) {s : Race} (waiting : s.main = .select) :
    ∃ events s' out, (∀ e ∈ events, e.withoutLookup = true) ∧ run call s events = some s' ∧
      s'.main = .returned out ∧
      (s'.elapsed = s.elapsed ∨ s.elapsed < s'.elapsed ∧ s'.elapsed = timeout call.testableTimeout) := by
  cases ended : s.ctxErr with
  | some err =>
      refine ⟨[.selectDone], { s with main := .returned ([], some err) }, ([], some err), by decide,
        ?_, rfl, .inl rfl⟩
      simp [run, step, waiting, ended]
  | none =>
      obtain ⟨n, wait⟩ : ∃ n, n = (timeout call.testableTimeout - s.elapsed).toNat := ⟨_, rfl⟩
      have late : timeout call.testableTimeout ≤ (s.elapsed : Int) + n := by omega
      refine ⟨List.replicate n .tick ++ [.expire, .selectDone],
        { s with elapsed := s.elapsed + n, ctxErr := some contextDeadlineExceeded,
                 main := .returned ([], some contextDeadlineExceeded) },
        ([], some contextDeadlineExceeded), fun e member => ?_, ?_, rfl, ?_⟩
      · simp only [List.mem_append, List.mem_replicate, List.mem_cons, List.mem_singleton,
          List.not_mem_nil, or_false] at member
        rcases member with ⟨_, rfl⟩ | rfl | rfl <;> rfl
      · rw [run_ticks]
        simp [run, step, ended, late, waiting]
      · show s.elapsed + n = s.elapsed ∨ s.elapsed < s.elapsed + n ∧ ((s.elapsed + n : Nat) : Int) = _
        omega

/-- From the start of `resolvedCall`, its deadline makes it return. -/
theorem lookupHost_returns_by_deadline_initial :
    initial.main = .select ∧
      ∃ events s' out, (∀ e ∈ events, e.withoutLookup = true) ∧
        run resolvedCall initial events = some s' ∧ s'.main = .returned out ∧
        (s'.elapsed = initial.elapsed ∨
          initial.elapsed < s'.elapsed ∧ s'.elapsed = timeout resolvedCall.testableTimeout) :=
  ⟨rfl, lookupHost_returns_by_deadline resolvedCall rfl⟩

/-! ## Every party acts once -/

/-- The actions the parties of a call have left: the lookup's return and the goroutine's send,
the end of the context, the `select`. -/
def Race.pending (s : Race) : Nat :=
  (match s.worker with
    | .lookup => 2
    | .send => 1
    | .exited => 0) +
    (if s.ctxErr = none then 1 else 0) + (if s.main = .select then 1 else 0)

/-- A tick leaves every party's actions; every other step uses one up at least. -/
theorem pending_step {call : Call} {s s' : Race} {e : Event} (stepped : step call s e = some s') :
    s'.pending + (if e = .tick then 0 else 1) ≤ s.pending := by
  cases e
  all_goals simp only [step] at stepped
  all_goals (repeat' split at stepped)
  all_goals cases stepped
  all_goals simp_all [Race.pending, cancel]
  all_goals omega

theorem run_pending {call : Call} :
    ∀ {s s' : Race} (events : List Event), run call s events = some s' →
      (events.filter (· != .tick)).length + s'.pending ≤ s.pending
  | _, _, [], ran => by
      cases ran
      simp
  | s, _, e :: rest, ran => by
      simp only [run, Option.bind_eq_some] at ran
      obtain ⟨s₁, stepped, ran⟩ := ran
      have now := pending_step stepped
      have later := run_pending rest ran
      by_cases tick : e = .tick
      · subst tick
        simp only [List.filter_cons, bne_self_eq_false, Bool.false_eq_true, ↓reduceIte] at now ⊢
        omega
      · simp only [List.filter_cons, bne_iff_ne, ne_eq, tick, not_false_eq_true, decide_True,
          if_true, List.length_cons] at later ⊢
        simp only [tick, if_false] at now
        omega

/-- Besides the clock's ticks, a call makes at most four steps: the lookup returns once, the
goroutine sends once, the context ends once, and the `select` receives once, so no answer is
sent or received twice and `LookupHost` returns once. -/
theorem lookupHost_actions_le_four {call : Call} {s : Race} {events : List Event}
    (ran : run call initial events = some s) : (events.filter (· != .tick)).length ≤ 4 := by
  have start : initial.pending = 4 := rfl
  have bound := run_pending events ran
  omega

/-- The caller's context ending before the lookup returns takes all four steps. -/
theorem lookupHost_actions_le_four_cancelled :
    ∃ s, run resolvedCall initial [.parentDone, .selectDone, .lookupReturns, .send] = some s ∧
      ([.parentDone, .selectDone, .lookupReturns, .send].filter (· != Event.tick)).length ≤ 4 :=
  ⟨_, rfl, @lookupHost_actions_le_four resolvedCall _ _ rfl⟩

/-! ## `NewResolverStdlib` -/

section Stdlib

variable {σ : Type} (classify : GoError → String) (puny : Punycode)
  (lookupHost : Lookup σ (List String))

/-- `&resolverSystem{}` as a `model.Resolver`. Its `LookupHost` is the race above, given here by
what it returns for each name and state; `LookupHTTPS` and `LookupNS` fail with
`ErrNoDNSTransport`. -/
def resolverSystem : Resolver σ where
  lookupHost := lookupHost
  lookupHTTPS _ st := ((none, some .noDNSTransport), st)
  lookupNS _ st := (([], some .noDNSTransport), st)

/-- `NewResolverStdlib`: `WrapResolver` around the system resolver. -/
def newResolverStdlib : Resolver σ :=
  wrapResolver classify puny (resolverSystem lookupHost)

/-- The error a failed lookup of the system resolver comes back with through the chain. -/
def wrapped (err : GoError) : GoError :=
  newErrWrapper classify resolveOperation err

/--
The standard-library resolver finds no HTTPS record and no name server: for every name and
state, `LookupNS` fails and leaves the state as it was, and so does `LookupHTTPS`, unless the
name's ASCII form is an IP literal, which it answers itself. A name whose ASCII form is not an IP
literal fails both with `ErrNoDNSTransport`, wrapped once as a `resolve` error.
-/
theorem newResolverStdlib_no_https_no_ns (h : String) (st : σ) :
    (∃ e, (newResolverStdlib classify puny lookupHost).lookupNS h st = (([], some e), st)) ∧
    ((∃ e, (newResolverStdlib classify puny lookupHost).lookupHTTPS h st = ((none, some e), st)) ∨
      ∃ a, toASCII puny h = (a, none) ∧ (parseIP a).isSome ∧
        (newResolverStdlib classify puny lookupHost).lookupHTTPS h st =
          ((some (if isIPv6 a then ⟨[], [], [a]⟩ else ⟨[], [a], []⟩), none), st)) ∧
    ∀ a, toASCII puny h = (a, none) → parseIP a = none →
      (newResolverStdlib classify puny lookupHost).lookupHTTPS h st =
          ((none, some (wrapped classify .noDNSTransport)), st) ∧
        (newResolverStdlib classify puny lookupHost).lookupNS h st =
          (([], some (wrapped classify .noDNSTransport)), st) := by
  simp only [newResolverStdlib, wrapResolver, resolverIDNA, resolverLogger]
  rcases ascii : toASCII puny h with ⟨a, _ | err⟩
  · simp only [idnaLookup_of_ascii ascii]
    by_cases literal : (parseIP a).isSome
    · have refused : (resolverShortCircuitIPAddr
          (resolverErrWrapper classify (resolverSystem lookupHost))).lookupNS a st =
          (([], some .dnsIPAddress), st) := by
        simp [resolverShortCircuitIPAddr, literal]
      refine ⟨⟨_, passLookup_of_error refused⟩, .inr ⟨a, rfl, literal, loggerLookupHTTPS_of_some ?_⟩,
        fun a' same name => ?_⟩
      · simp only [resolverShortCircuitIPAddr, literal, if_true]
        split <;> rfl
      · cases same
        simp [name] at literal
    · have name : parseIP a = none := by simpa using literal
      have https : (resolverShortCircuitIPAddr
          (resolverErrWrapper classify (resolverSystem lookupHost))).lookupHTTPS a st =
          ((none, some (wrapped classify .noDNSTransport)), st) := by
        simp [resolverShortCircuitIPAddr, resolverErrWrapper, resolverSystem, passLookup, name,
          wrapped]
      have ns : (resolverShortCircuitIPAddr
          (resolverErrWrapper classify (resolverSystem lookupHost))).lookupNS a st =
          (([], some (wrapped classify .noDNSTransport)), st) := by
        simp [resolverShortCircuitIPAddr, resolverErrWrapper, resolverSystem, passLookup, name,
          wrapped]
      exact ⟨⟨_, passLookup_of_error ns⟩, .inl ⟨_, loggerLookupHTTPS_of_error https⟩,
        fun a' same _ => by
          cases same
          exact ⟨loggerLookupHTTPS_of_error https, passLookup_of_error ns⟩⟩
  · simp only [idnaLookup_of_error ascii]
    exact ⟨⟨_, rfl⟩, .inl ⟨_, rfl⟩, nofun⟩

/-- A name through `NewResolverStdlib`: neither `LookupHTTPS` nor `LookupNS` has a transport. -/
theorem newResolverStdlib_no_https_no_ns_name :
    toASCII asciiPunycode "example.com" = ("example.com", none) ∧
      parseIP "example.com" = none ∧
      (newResolverStdlib (fun _ => "generic_timeout_error") asciiPunycode
          (fun _ (st : Unit) => (([], none), st))).lookupHTTPS "example.com" () =
        ((none, some (wrapped (fun _ => "generic_timeout_error") .noDNSTransport)), ()) ∧
      (newResolverStdlib (fun _ => "generic_timeout_error") asciiPunycode
          (fun _ (st : Unit) => (([], none), st))).lookupNS "example.com" () =
        (([], some (wrapped (fun _ => "generic_timeout_error") .noDNSTransport)), ()) :=
  have ascii : toASCII asciiPunycode "example.com" = ("example.com", none) := by decide
  have name : parseIP "example.com" = none := by decide
  ⟨ascii, name,
    (newResolverStdlib_no_https_no_ns _ _ _ "example.com" ()).2.2 "example.com" ascii name⟩

/--
What `NewResolverStdlib`'s `LookupHost` returns for a name whose ASCII form is not an IP literal,
when the system resolver's race for that name has returned: the lookup's addresses, or one
`resolve` wrapper around the lookup's error, around `context.DeadlineExceeded`, or around the
error of the caller's context. Addresses never come with an error.
-/
theorem newResolverStdlib_lookupHost_of_race {call : Call} {s : Race}
    {out : GoResult (List String)} (reachable : Reachable call s) (returned : s.main = .returned out)
    {h a : String} (ascii : toASCII puny h = (a, none)) (name : parseIP a = none) {st st' : σ}
    (raced : lookupHost a st = (out, st')) :
    (∃ addrs, call.lookupOut = (addrs, none) ∧
      (newResolverStdlib classify puny lookupHost).lookupHost h st = ((addrs, none), st')) ∨
    ∃ e, (newResolverStdlib classify puny lookupHost).lookupHost h st =
        (([], some (wrapped classify e)), st') ∧
      (call.lookupOut.2 = some e ∨ e = contextDeadlineExceeded ∨ e = call.parentErr) := by
  have chain : (newResolverStdlib classify puny lookupHost).lookupHost h st =
      passLookup (wrapped classify) [] lookupHost a st :=
    wrapResolver_lookupHost_of_name classify puny (resolverSystem lookupHost) st ascii name
  rcases (raceInv_of_reachable reachable).returned out returned with answered | ⟨e, rfl, ended⟩
  · rcases lookupOut : call.lookupOut with ⟨addrs, _ | err⟩ <;>
      rw [lookupOut] at answered <;> subst answered
    · exact .inl ⟨addrs, rfl, chain.trans (passLookup_of_ok raced)⟩
    · exact .inr ⟨err, chain.trans (passLookup_of_error raced), .inl rfl⟩
  · exact .inr ⟨e, chain.trans (passLookup_of_error raced), .inr ended⟩

end Stdlib

/-- The race of `resolvedCall` on its deadline, seen through `NewResolverStdlib` with a system
resolver that returns it for every name. -/
theorem newResolverStdlib_lookupHost_of_race_expired :
    ∃ s, run resolvedCall initial [.tick, .expire, .selectDone] = some s ∧
      s.main = .returned ([], some contextDeadlineExceeded) ∧
      toASCII asciiPunycode "example.com" = ("example.com", none) ∧
      parseIP "example.com" = none ∧
      ((∃ addrs, resolvedCall.lookupOut = (addrs, none) ∧
        (newResolverStdlib (fun _ => "generic_timeout_error") asciiPunycode
          (fun _ (st : Unit) => (([], some contextDeadlineExceeded), st))).lookupHost
          "example.com" () = ((addrs, none), ())) ∨
      ∃ e, (newResolverStdlib (fun _ => "generic_timeout_error") asciiPunycode
          (fun _ (st : Unit) => (([], some contextDeadlineExceeded), st))).lookupHost
          "example.com" () = (([], some (wrapped (fun _ => "generic_timeout_error") e)), ()) ∧
        (resolvedCall.lookupOut.2 = some e ∨ e = contextDeadlineExceeded ∨
          e = resolvedCall.parentErr)) :=
  have ran : run resolvedCall initial [.tick, .expire, .selectDone] =
      some { initial with elapsed := 1, ctxErr := some contextDeadlineExceeded,
                          main := .returned ([], some contextDeadlineExceeded) } := rfl
  have ascii : toASCII asciiPunycode "example.com" = ("example.com", none) := by decide
  have name : parseIP "example.com" = none := by decide
  ⟨_, ran, rfl, ascii, name,
    newResolverStdlib_lookupHost_of_race _ _ _ ⟨_, ran⟩ rfl ascii name rfl⟩

end SystemResolver

end ProbeResolver
