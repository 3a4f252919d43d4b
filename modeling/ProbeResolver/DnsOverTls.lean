import ProbeResolver.GenericResolver

namespace ProbeResolver

/-!
# The lazily created DNS-over-TLS resolver

`DNSOverTLSResolver.LookupHost` creates the `dnsOverTCPTLSResolver` that does
the work the first time it is needed: under `r.mu` it tests `r.reso` and, when
it is `nil`, stores a new resolver configured from the user's fields. It then
unlocks and calls `r.reso.LookupHost`, reading `r.reso` again without the
lock. `CloseIdleConnections` reads `r.reso` under the lock and forwards to it
when it is set.

The machine runs any number of `LookupHost` and `CloseIdleConnections` calls,
each step one statement of one call, so the test and the store of the lazy
creation are separate steps. Over every interleaving: at most one resolver is
ever created, configured as `newReso` says; `r.reso` is never dereferenced
while `nil`; every call that reaches the inner resolver reaches that one, so
all lookups share its connection; and every call returns once the call it makes
into that resolver returns, which is the inner resolver's own business: here
an event of the environment.
-/

namespace DnsOverTls

/-- `DNSOverTLSDialer`: the dialer the user set, or the default `&Dialer{ALPN: []string{"dot"}}`,
whose type is absent from src/. -/
inductive TLSDialer (δ : Type) where
  | given (dialer : δ)
  | dialer (alpn : List String)

/-- `DNSOverTLSResolver`'s fields, which the user must not change after the first call. -/
structure DNSOverTLSResolver (δ : Type) where
  address : String
  codec : Option DNSCodec
  dialer : Option δ

/-- The fields of a `dnsOverTCPTLSResolver` that its creation sets. -/
structure Reso (δ : Type) where
  address : String
  codec : DNSCodec
  dial : TLSDialer δ
  padding : Bool

section Config

variable {δ : Type} (r : DNSOverTLSResolver δ)

/-- `DNSOverTLSResolver.codec`: the user's codec, or a new `dnsMiekgCodec`. -/
def DNSOverTLSResolver.codecOr (defaultCodec : DNSCodec) : DNSCodec :=
  match r.codec with
  | some codec => codec
  | none => defaultCodec

/-- `DNSOverTLSResolver.dialer`: the user's dialer, or a new one for ALPN `dot`. -/
def DNSOverTLSResolver.dialerOr : TLSDialer δ :=
  match r.dialer with
  | some dialer => .given dialer
  | none => .dialer ["dot"]

/-- The `&dnsOverTCPTLSResolver{...}` that `LookupHost` stores in `r.reso`. -/
def DNSOverTLSResolver.newReso (defaultCodec : DNSCodec) : Reso δ :=
  { address := r.address, codec := r.codecOr defaultCodec, dial := r.dialerOr, padding := true }

end Config

/-- Where a call on the resolver is. -/
inductive CallerPc where
  /-- `LookupHost`: `r.mu.Lock()`. -/
  | lock
  /-- `if r.reso == nil`, holding `r.mu`. -/
  | check
  /-- `r.reso = &dnsOverTCPTLSResolver{...}`, holding `r.mu`. -/
  | create
  /-- `r.mu.Unlock()`. -/
  | unlock
  /-- `return r.reso.LookupHost(ctx, hostname)`: the read of `r.reso`. -/
  | call
  /-- Inside `LookupHost` of the resolver at `reso`. -/
  | inner (reso : Nat)
  /-- `CloseIdleConnections`: `r.mu.Lock()`. -/
  | closeLock
  /-- `reso := r.reso`, holding `r.mu`. -/
  | closeRead
  /-- `r.mu.Unlock()`, with the pointer read. -/
  | closeUnlock (reso : Option Nat)
  /-- `if reso != nil`. -/
  | closeForward (reso : Option Nat)
  /-- Inside `CloseIdleConnections` of the resolver at `reso`. -/
  | closeInner (reso : Nat)
  /-- Returned. -/
  | done
  deriving Repr, DecidableEq

/-- The points at which a call holds `r.mu`. -/
def CallerPc.holdsLock : CallerPc → Bool
  | .check | .create | .unlock | .closeRead | .closeUnlock _ => true
  | _ => false

/-- The points at which a call waits for the inner resolver's method to return. -/
def CallerPc.waitsInner : CallerPc → Bool
  | .inner _ | .closeInner _ => true
  | _ => false

/-- A call holding `r.mu` is not inside the inner resolver. -/
theorem CallerPc.waitsInner_of_holdsLock {pc : CallerPc} (holding : pc.holdsLock = true) :
    pc.waitsInner = false := by
  cases pc <;> first | rfl | cases holding

/-- The points of `LookupHost` past the test of `r.reso`, before the call through it. -/
def CallerPc.pastCheck : CallerPc → Bool
  | .unlock | .call => true
  | _ => false

/-- The resolver a call holds a pointer to. -/
def CallerPc.uses : CallerPc → Option Nat
  | .inner reso => some reso
  | .closeUnlock reso => reso
  | .closeForward reso => reso
  | .closeInner reso => some reso
  | _ => none

/-- The resolver, its mutex, the resolvers created so far (by address) and the calls. -/
structure State (δ : Type) where
  /-- The call holding `r.mu`. -/
  mu : Option Nat
  /-- `r.reso`: the address of the stored resolver, `none` for `nil`. -/
  reso : Option Nat
  /-- Every `dnsOverTCPTLSResolver` created so far; its address is its position. -/
  resos : List (Reso δ)
  callers : List CallerPc
  /-- A call dereferenced `r.reso` while it was `nil`. -/
  panicked : Bool

/-- A resolver no call has used yet. -/
def initial {δ : Type} : State δ :=
  { mu := none, reso := none, resos := [], callers := [], panicked := false }

/-- One event: a new call, one step of a call, or the return of a call's inner method. -/
inductive Event where
  | lookupHost
  | closeIdleConnections
  | caller (i : Nat)
  /-- The inner resolver's `LookupHost` or `CloseIdleConnections` that call `i` made returns. -/
  | innerReturns (i : Nat)
  deriving Repr, DecidableEq

/-- The events of the calls themselves and of the inner methods they wait for. -/
def Event.byCalls : Event → Bool
  | .caller _ | .innerReturns _ => true
  | _ => false

section Machine

variable {δ : Type} (r : DNSOverTLSResolver δ) (defaultCodec : DNSCodec)

/-- Call `i` moves to `pc`. -/
def State.setCaller (s : State δ) (i : Nat) (pc : CallerPc) : State δ :=
  { s with callers := s.callers.set i pc }

/-- The next step of call `i`, at `pc`; `none` while it waits for `r.mu` or for the inner resolver,
and once it returned. -/
def callerStep (s : State δ) (i : Nat) : CallerPc → Option (State δ)
  | .lock => if s.mu = none then some ({ s with mu := some i }.setCaller i .check) else none
  | .check => some (s.setCaller i (if s.reso = none then .create else .unlock))
  | .create =>
      some ({ s with reso := some s.resos.length,
                     resos := s.resos ++ [r.newReso defaultCodec] }.setCaller i .unlock)
  | .unlock => some ({ s with mu := none }.setCaller i .call)
  | .call =>
      match s.reso with
      | some reso => some (s.setCaller i (.inner reso))
      | none => some { s with panicked := true }
  | .inner _ => none
  | .closeLock =>
      if s.mu = none then some ({ s with mu := some i }.setCaller i .closeRead) else none
  | .closeRead => some (s.setCaller i (.closeUnlock s.reso))
  | .closeUnlock reso => some ({ s with mu := none }.setCaller i (.closeForward reso))
  | .closeForward (some reso) => some (s.setCaller i (.closeInner reso))
  | .closeForward none => some (s.setCaller i .done)
  | .closeInner _ => none
  | .done => none

/-- The inner method call `i` waits for returns, and so does call `i`. -/
def innerReturn (s : State δ) (i : Nat) : CallerPc → Option (State δ)
  | .inner _ | .closeInner _ => some (s.setCaller i .done)
  | _ => none

/-- One step of the whole system. -/
def step (s : State δ) : Event → Option (State δ)
  | .lookupHost => if s.panicked then none else some { s with callers := s.callers ++ [.lock] }
  | .closeIdleConnections =>
      if s.panicked then none else some { s with callers := s.callers ++ [.closeLock] }
  | .caller i =>
      if s.panicked then none else
      match s.callers[i]? with
      | some pc => callerStep r defaultCodec s i pc
      | none => none
  | .innerReturns i =>
      if s.panicked then none else
      match s.callers[i]? with
      | some pc => innerReturn s i pc
      | none => none

/-- The state after a list of events, if every one of them can happen in turn. -/
def run : State δ → List Event → Option (State δ)
  | s, [] => some s
  | s, e :: rest => (step r defaultCodec s e).bind fun s' => run s' rest

/-- A state some run from a resolver no call has used reaches. -/
def Reachable (s : State δ) : Prop :=
  ∃ events, run r defaultCodec initial events = some s

@[simp] theorem run_nil (s : State δ) : run r defaultCodec s [] = some s := rfl

/-- An invariant of the start and of every step holds in every reachable state. -/
theorem Reachable.invariant {P : State δ → Prop} (base : P initial)
    (preserved : ∀ s e s', P s → step r defaultCodec s e = some s' → P s') {s : State δ}
    (reachable : Reachable r defaultCodec s) : P s := by
  obtain ⟨events, ran⟩ := reachable
  suffices along : ∀ s₀ events, P s₀ → run r defaultCodec s₀ events = some s → P s from
    along initial events base ran
  intro s₀ events holds ran
  induction events generalizing s₀ with
  | nil =>
      cases ran
      exact holds
  | cons e rest inductionHypothesis =>
      simp only [run, Option.bind_eq_some] at ran
      obtain ⟨s₁, stepped, ran⟩ := ran
      exact inductionHypothesis s₁ (preserved s₀ e s₁ holds stepped) ran

/-! ## One resolver, never `nil` -/

/-- What a call at `pc`, the `i`-th, knows of `r.mu` and `r.reso`: it holds the mutex where it
should, it tests `nil` only while `r.reso` is `nil`, and the pointer it holds is `r.reso`. -/
def Good (mu reso : Option Nat) (i : Nat) (pc : CallerPc) : Prop :=
  (pc.holdsLock = true → mu = some i) ∧ (pc = .create → reso = none) ∧
    (pc.pastCheck = true → reso.isSome = true) ∧ ∀ n, pc.uses = some n → reso = some n

/-- What every reachable state satisfies. -/
structure Inv (s : State δ) : Prop where
  /-- `r.reso` is `nil` and nothing was created, or it points to the one resolver created. -/
  created : (s.reso = none ∧ s.resos = []) ∨
    (s.reso = some 0 ∧ s.resos = [r.newReso defaultCodec])
  live : s.panicked = false
  callers : ∀ i pc, s.callers[i]? = some pc → Good s.mu s.reso i pc
  /-- The call `r.mu` names is at a point where it holds it. -/
  holder : ∀ i, s.mu = some i → ∃ pc, s.callers[i]? = some pc ∧ pc.holdsLock = true

variable {r defaultCodec}

theorem inv_initial : Inv r defaultCodec initial :=
  ⟨.inl ⟨rfl, rfl⟩, rfl, by simp [initial], nofun⟩

theorem getElem?_set_cases {α : Type} {l : List α} {i j : Nat} {a b : α}
    (found : (l.set i a)[j]? = some b) : (j = i ∧ b = a) ∨ (j ≠ i ∧ l[j]? = some b) := by
  rw [List.getElem?_set] at found
  split at found
  · split at found <;> simp_all
  · exact .inr ⟨Ne.symm ‹_›, found⟩

theorem getElem?_concat_cases {α : Type} {l : List α} {j : Nat} {a b : α}
    (found : (l ++ [a])[j]? = some b) : l[j]? = some b ∨ b = a := by
  rw [List.getElem?_append] at found
  split at found
  · exact .inl found
  · obtain ⟨k, beyond⟩ : ∃ k, j - l.length = k := ⟨_, rfl⟩
    rw [beyond] at found
    cases k <;> simp_all

/-- A move of call `i` to `pc'` that may take or release the mutex, or set `r.reso`, keeps `Inv`
when it keeps the creation record, the moved call's knowledge and every other call's, and leaves
the mutex to the moved call at a holding point or to the call that held it. -/
theorem Inv.of_move {s : State δ} (inv : Inv r defaultCodec s) {i : Nat} {pc pc' : CallerPc}
    (found : s.callers[i]? = some pc) {mu reso : Option Nat} {resos : List (Reso δ)}
    (created : (reso = none ∧ resos = []) ∨ (reso = some 0 ∧ resos = [r.newReso defaultCodec]))
    (good : Good mu reso i pc')
    (others : ∀ j pc, j ≠ i → Good s.mu s.reso j pc → Good mu reso j pc)
    (holds : ∀ j, mu = some j → (j = i ∧ pc'.holdsLock = true) ∨ (j ≠ i ∧ s.mu = some j)) :
    Inv r defaultCodec ({ s with mu := mu, reso := reso, resos := resos }.setCaller i pc') := by
  refine ⟨created, inv.live, fun j pc found => ?_, fun j held => ?_⟩
  · rcases getElem?_set_cases found with ⟨rfl, rfl⟩ | ⟨other, old⟩
    · exact good
    · exact others j pc other (inv.callers j pc old)
  · rcases holds j held with ⟨rfl, holding⟩ | ⟨other, held⟩
    · exact ⟨pc', List.getElem?_set_self (List.getElem?_eq_some_iff.mp found).1, holding⟩
    · obtain ⟨pc, old, holding⟩ := inv.holder j held
      exact ⟨pc, by rw [State.setCaller, List.getElem?_set_ne (Ne.symm other)]; exact old, holding⟩

/-- A call at a point where it does not hold the mutex is not the one `r.mu` names. -/
theorem Inv.not_holder {s : State δ} (inv : Inv r defaultCodec s) {i : Nat} {pc : CallerPc}
    (found : s.callers[i]? = some pc) (free : pc.holdsLock = false) : s.mu ≠ some i := by
  intro held
  obtain ⟨pc', found', holding⟩ := inv.holder i held
  rw [found, Option.some_inj] at found'
  subst found'
  rw [free] at holding
  cases holding

/-- A move of call `i` that touches neither the mutex nor `r.reso` keeps `Inv` when the moved call
knows what it should and still holds the mutex if it held it. -/
theorem Inv.of_callerMove {s : State δ} (inv : Inv r defaultCodec s) {i : Nat} {pc pc' : CallerPc}
    (found : s.callers[i]? = some pc) (good : Good s.mu s.reso i pc')
    (keeps : s.mu = some i → pc'.holdsLock = true) : Inv r defaultCodec (s.setCaller i pc') :=
  @Inv.of_move _ r defaultCodec s inv i pc pc' found s.mu s.reso s.resos inv.created good
    (fun _ _ _ => id) fun j held =>
      if same : j = i then .inl ⟨same, keeps (same ▸ held)⟩ else .inr ⟨same, held⟩

/-- Taking the free mutex changes no other call's knowledge. -/
theorem Good.of_lock {reso : Option Nat} {i j : Nat} {pc : CallerPc} (good : Good none reso j pc) :
    Good (some i) reso j pc :=
  ⟨fun holding => (nomatch good.1 holding), good.2⟩

/-- Releasing the mutex changes no other call's knowledge. -/
theorem Good.of_unlock {reso : Option Nat} {i j : Nat} {pc : CallerPc} (other : j ≠ i)
    (good : Good (some i) reso j pc) : Good none reso j pc :=
  ⟨fun holding => absurd (Option.some_inj.mp (good.1 holding)).symm other, good.2⟩

/-- Every step of a call keeps `Inv`. -/
theorem inv_callerStep {s s' : State δ} (inv : Inv r defaultCodec s) {i : Nat} {pc : CallerPc}
    (found : s.callers[i]? = some pc) (stepped : callerStep r defaultCodec s i pc = some s') :
    Inv r defaultCodec s' := by
  have ⟨holding, testing, past, pointer⟩ := inv.callers i pc found
  have notHolder : pc.holdsLock = false → ∀ pc' : CallerPc, s.mu = some i → pc'.holdsLock = true :=
    fun free _ held => absurd held (inv.not_holder found free)
  cases pc with
  | lock | closeLock =>
      simp only [callerStep] at stepped
      split at stepped <;> cases stepped
      rename_i free
      exact inv.of_move found inv.created ⟨fun _ => rfl, nofun, nofun, nofun⟩
        (fun j pc _ good => Good.of_lock (free ▸ good))
        fun j held => .inl ⟨(Option.some_inj.mp held).symm, rfl⟩
  | check =>
      cases stepped
      by_cases unset : s.reso = none
      · rw [if_pos unset]
        exact inv.of_callerMove found ⟨fun _ => holding rfl, fun _ => unset, nofun, nofun⟩
          fun _ => rfl
      · rw [if_neg unset]
        exact inv.of_callerMove found
          ⟨fun _ => holding rfl, nofun, fun _ => Option.isSome_iff_ne_none.mpr unset, nofun⟩
          fun _ => rfl
  | create =>
      cases stepped
      have unset := testing rfl
      have empty : s.resos = [] := by rcases inv.created with ⟨_, empty⟩ | ⟨set, _⟩ <;> simp_all
      refine inv.of_move found (.inr ⟨by simp [empty], by simp [empty]⟩)
        ⟨fun _ => holding rfl, nofun, fun _ => rfl, nofun⟩ (fun j pc other good => ?_)
        fun j held => if same : j = i then .inl ⟨same, rfl⟩ else .inr ⟨same, held⟩
      refine ⟨good.1, fun atCreate => ?_, fun _ => rfl, fun n uses => ?_⟩
      · exact absurd (Option.some_inj.mp ((good.1 (by simp [atCreate, CallerPc.holdsLock])).symm.trans
          (holding rfl))) other
      · rw [good.2.2.2 n uses] at unset
        cases unset
  | unlock =>
      cases stepped
      exact inv.of_move found inv.created ⟨nofun, nofun, fun _ => past rfl, nofun⟩
        (fun j pc other good => Good.of_unlock other (holding rfl ▸ good)) nofun
  | call =>
      simp only [callerStep] at stepped
      split at stepped <;> cases stepped
      · rename_i reso set
        exact inv.of_callerMove found ⟨nofun, nofun, nofun, fun n uses => by
          cases uses
          exact set⟩ (notHolder rfl _)
      · rename_i unset
        simp [unset, CallerPc.pastCheck] at past
  | inner | closeInner =>
      cases stepped
  | closeForward reso =>
      cases reso <;> cases stepped
      · exact inv.of_callerMove found ⟨nofun, nofun, nofun, nofun⟩ (notHolder rfl _)
      · exact inv.of_callerMove found ⟨nofun, nofun, nofun, pointer⟩ (notHolder rfl _)
  | closeRead =>
      cases stepped
      exact inv.of_callerMove found ⟨fun _ => holding rfl, nofun, nofun, fun n uses => uses⟩
        fun _ => rfl
  | closeUnlock reso =>
      cases stepped
      exact inv.of_move found inv.created ⟨nofun, nofun, nofun, pointer⟩
        (fun j pc other good => Good.of_unlock other (holding rfl ▸ good)) nofun
  | done =>
      cases stepped

/-- The return of an inner method keeps `Inv`: the call held no lock and holds no pointer after. -/
theorem inv_innerReturn {s s' : State δ} (inv : Inv r defaultCodec s) {i : Nat} {pc : CallerPc}
    (found : s.callers[i]? = some pc) (stepped : innerReturn s i pc = some s') :
    Inv r defaultCodec s' := by
  cases pc <;> cases stepped <;>
    exact inv.of_callerMove found ⟨nofun, nofun, nofun, nofun⟩
      fun held => absurd held (inv.not_holder found rfl)

/-- Every step keeps `Inv`. -/
theorem inv_step {s s' : State δ} {e : Event} (inv : Inv r defaultCodec s)
    (stepped : step r defaultCodec s e = some s') : Inv r defaultCodec s' := by
  have live := inv.live
  cases e with
  | lookupHost | closeIdleConnections =>
      simp only [step, live, Bool.false_eq_true, if_false, Option.some_inj] at stepped
      subst stepped
      refine ⟨inv.created, rfl, fun j pc found => ?_, fun j held => ?_⟩
      · rcases getElem?_concat_cases found with old | rfl
        · exact inv.callers j pc old
        · exact ⟨nofun, nofun, nofun, nofun⟩
      · obtain ⟨pc, old, holding⟩ := inv.holder j held
        exact ⟨pc, by rw [List.getElem?_append_left (List.getElem?_eq_some_iff.mp old).1]; exact old,
          holding⟩
  | caller i =>
      simp only [step, live, Bool.false_eq_true, if_false] at stepped
      split at stepped
      · exact inv_callerStep inv ‹_› stepped
      · cases stepped
  | innerReturns i =>
      simp only [step, live, Bool.false_eq_true, if_false] at stepped
      split at stepped
      · exact inv_innerReturn inv ‹_› stepped
      · cases stepped

theorem inv_of_reachable {s : State δ} (reachable : Reachable r defaultCodec s) :
    Inv r defaultCodec s :=
  Reachable.invariant r defaultCodec inv_initial (fun _ _ _ inv stepped => inv_step inv stepped)
    reachable

/--
However the calls of `LookupHost` and `CloseIdleConnections` interleave, at most one
`dnsOverTCPTLSResolver` is ever created, configured by `newReso` from the user's fields;
no call dereferences `r.reso` while it is `nil`; and every pointer a call holds, for
`LookupHost` or for `CloseIdleConnections`, is `r.reso`, the resolver created: every lookup goes
through the one resolver, and so through its one connection.
-/
theorem lookupHost_creates_one_reso {s : State δ} (reachable : Reachable r defaultCodec s) :
    s.panicked = false ∧ (s.resos = [] ∨ s.resos = [r.newReso defaultCodec]) ∧
      ∀ (i : Nat) (pc : CallerPc) (n : Nat), s.callers[i]? = some pc → pc.uses = some n →
        s.reso = some n ∧ s.resos[n]? = some (r.newReso defaultCodec) := by
  have inv := inv_of_reachable reachable
  refine ⟨inv.live, inv.created.imp (·.2) (·.2), fun i pc n found uses => ?_⟩
  have pointer := (inv.callers i pc found).2.2.2 n uses
  rcases inv.created with ⟨unset, _⟩ | ⟨set, created⟩
  · rw [unset] at pointer
    cases pointer
  · rw [set, Option.some_inj] at pointer
    subst pointer
    exact ⟨set, by simp [created]⟩

/-- A resolver for `dns-server:853` with the default codec and dialer. -/
def dotResolver : DNSOverTLSResolver Unit :=
  { address := "dns-server:853", codec := none, dialer := none }

/-- A codec that stands for the default one in tests. -/
def nullCodec : DNSCodec :=
  ⟨fun _ _ _ => ([], none), fun _ _ => ([], none)⟩

/-- Two `LookupHost` calls: the first creates the resolver, the second finds it, then both
call through it. -/
def twoLookups : List Event :=
  [.lookupHost, .lookupHost, .caller 0, .caller 0, .caller 0, .caller 0,
   .caller 1, .caller 1, .caller 1, .caller 1, .caller 0]

/-- After those two calls, both are inside the one resolver created. -/
theorem lookupHost_creates_one_reso_shared :
    ∃ s, run dotResolver nullCodec initial twoLookups = some s ∧
      s.callers = [.inner 0, .inner 0] ∧
      s.panicked = false ∧ (s.resos = [] ∨ s.resos = [dotResolver.newReso nullCodec]) ∧
      ∀ (i : Nat) (pc : CallerPc) (n : Nat), s.callers[i]? = some pc → pc.uses = some n →
        s.reso = some n ∧ s.resos[n]? = some (dotResolver.newReso nullCodec) :=
  have ran : run dotResolver nullCodec initial twoLookups =
      some { mu := none, reso := some 0, resos := [dotResolver.newReso nullCodec],
             callers := [.inner 0, .inner 0], panicked := false } := rfl
  ⟨_, ran, rfl, lookupHost_creates_one_reso ⟨_, ran⟩⟩

/-! ## Every call returns -/

/-- How many steps a call at `pc` has left, at most. -/
def CallerPc.rank : CallerPc → Nat
  | .lock => 6
  | .check => 5
  | .create => 4
  | .unlock => 3
  | .call => 2
  | .inner _ => 1
  | .closeLock => 5
  | .closeRead => 4
  | .closeUnlock _ => 3
  | .closeForward _ => 2
  | .closeInner _ => 1
  | .done => 0

/-- How many steps the calls have left, at most. -/
def work : List CallerPc → Nat
  | [] => 0
  | pc :: rest => pc.rank + work rest

theorem work_set : ∀ {l : List CallerPc} {i : Nat} {pc pc' : CallerPc}, l[i]? = some pc →
    work (l.set i pc') + pc.rank = work l + pc'.rank
  | _ :: _, 0, _, _, found => by
      simp only [List.getElem?_cons_zero, Option.some_inj] at found
      subst found
      simp only [List.set_cons_zero, work]
      omega
  | _ :: rest, i + 1, pc, pc', found => by
      simp only [List.getElem?_cons_succ] at found
      have later := @work_set rest i pc pc' found
      simp only [List.set_cons_succ, work]
      omega

/-- Every step of a call moves it to a point with fewer steps left. -/
theorem callerStep_rank {s s' : State δ} (inv : Inv r defaultCodec s) {i : Nat} {pc : CallerPc}
    (found : s.callers[i]? = some pc) (stepped : callerStep r defaultCodec s i pc = some s') :
    ∃ pc', s'.callers = s.callers.set i pc' ∧ pc'.rank < pc.rank := by
  have past := (inv.callers i pc found).2.2.1
  cases pc
  case closeForward reso =>
      cases reso <;> cases stepped <;> exact ⟨_, rfl, by simp [CallerPc.rank]⟩
  all_goals simp only [callerStep] at stepped
  all_goals (repeat' split at stepped)
  all_goals cases stepped
  all_goals first
    | exact ⟨_, rfl, by simp [CallerPc.rank]⟩
    | simp_all [CallerPc.pastCheck]

/-- The return of an inner method takes its call to `done`. -/
theorem innerReturn_rank {s s' : State δ} {i : Nat} {pc : CallerPc}
    (stepped : innerReturn s i pc = some s') :
    ∃ pc', s'.callers = s.callers.set i pc' ∧ pc'.rank < pc.rank := by
  cases pc <;> cases stepped <;> exact ⟨_, rfl, by simp [CallerPc.rank]⟩

/-- The inner method a call waits for can always return. -/
theorem innerReturn_isSome {s : State δ} {i : Nat} {pc : CallerPc} (inside : pc.waitsInner = true) :
    (innerReturn s i pc).isSome = true := by
  cases pc <;> first | rfl | cases inside

/-- A call that neither returned nor waits for the inner resolver can step when it holds the mutex
or the mutex is free. -/
theorem callerStep_isSome {s : State δ} {i : Nat} {pc : CallerPc} (running : pc ≠ .done)
    (outside : pc.waitsInner = false) (mayLock : pc.holdsLock = true ∨ s.mu = none) :
    (callerStep r defaultCodec s i pc).isSome = true := by
  cases pc
  case lock | closeLock =>
      simp_all [callerStep, CallerPc.holdsLock]
  case call =>
      simp only [callerStep]
      split <;> rfl
  case closeForward reso =>
      cases reso <;> rfl
  case done =>
      exact absurd rfl running
  case inner | closeInner =>
      cases outside
  all_goals rfl

/-- The holder of the mutex can always step: it is at a point of its own, never inside the inner
resolver. -/
theorem Inv.holder_canStep {s : State δ} (inv : Inv r defaultCodec s) {h : Nat} (held : s.mu = some h) :
    (step r defaultCodec s (.caller h)).isSome = true := by
  obtain ⟨pc, found, holding⟩ := inv.holder h held
  simp only [step, inv.live, Bool.false_eq_true, if_false, found]
  exact callerStep_isSome (by rintro rfl; cases holding) (CallerPc.waitsInner_of_holdsLock holding)
    (.inl holding)

/-- Unless every call has returned or waits for the inner resolver, some call can step: the holder
of the mutex, or any call when it is free. -/
theorem Inv.canStep {s : State δ} (inv : Inv r defaultCodec s) {i : Nat} {pc : CallerPc}
    (found : s.callers[i]? = some pc) (running : pc ≠ .done) (outside : pc.waitsInner = false) :
    ∃ j, (step r defaultCodec s (.caller j)).isSome = true := by
  cases held : s.mu with
  | some h => exact ⟨h, inv.holder_canStep held⟩
  | none =>
      refine ⟨i, ?_⟩
      simp only [step, inv.live, Bool.false_eq_true, if_false, found]
      exact callerStep_isSome running outside (.inr held)

/-- One step of a call or of an inner method lowers the work left by at least one. -/
theorem step_work_lt {s s' : State δ} (inv : Inv r defaultCodec s) {e : Event}
    (byCalls : e.byCalls = true) (stepped : step r defaultCodec s e = some s') :
    work s'.callers < work s.callers := by
  have moved : ∃ i pc pc', s.callers[i]? = some pc ∧ s'.callers = s.callers.set i pc' ∧
      pc'.rank < pc.rank := by
    cases e <;> simp only [Event.byCalls, Bool.false_eq_true] at byCalls <;>
      simp only [step, inv.live, Bool.false_eq_true, if_false] at stepped <;>
      split at stepped <;> first | cases stepped | skip
    · obtain ⟨pc', moved, fewer⟩ := callerStep_rank inv ‹_› stepped
      exact ⟨_, _, pc', ‹_›, moved, fewer⟩
    · obtain ⟨pc', moved, fewer⟩ := innerReturn_rank stepped
      exact ⟨_, _, pc', ‹_›, moved, fewer⟩
  obtain ⟨i, pc, pc', found, moved, fewer⟩ := moved
  have counted := @work_set _ _ _ pc' found
  rw [moved]
  omega

/-- Every run of steps of the calls and returns of inner methods is no longer than the steps the
calls have left. -/
theorem run_length_le_work {s s' : State δ} (inv : Inv r defaultCodec s) (events : List Event)
    (byCalls : ∀ e ∈ events, e.byCalls = true) (ran : run r defaultCodec s events = some s') :
    events.length ≤ work s.callers := by
  induction events generalizing s with
  | nil => exact Nat.zero_le _
  | cons e rest inductionHypothesis =>
      simp only [run, Option.bind_eq_some] at ran
      obtain ⟨s₁, stepped, ran⟩ := ran
      have later := inductionHypothesis (inv_step inv stepped)
        (fun e member => byCalls e (.tail _ member)) ran
      have lower := step_work_lt inv (byCalls e (.head rest)) stepped
      simp only [List.length_cons]
      omega

/--
Every call of `LookupHost` and `CloseIdleConnections` returns once the inner resolver's method it
calls returns: from every reachable state, every run of steps of the calls and returns of inner
methods is no longer than the steps the calls have left; when no call can step, `r.mu` is free and
every call has returned or waits for the inner resolver; and when no inner method can return
either, every call has returned. In particular `r.mu` is released on every path and no call waits
for it forever.
-/
theorem calls_return_once_inner_calls_return {s : State δ} (reachable : Reachable r defaultCodec s) :
    (∀ events s', (∀ e ∈ events, e.byCalls = true) →
      run r defaultCodec s events = some s' → events.length ≤ work s.callers) ∧
    ((∀ i, step r defaultCodec s (.caller i) = none) →
      s.mu = none ∧ ∀ pc ∈ s.callers, pc = .done ∨ pc.waitsInner = true) ∧
    ((∀ i, step r defaultCodec s (.caller i) = none ∧ step r defaultCodec s (.innerReturns i) = none) →
      ∀ pc ∈ s.callers, pc = .done) := by
  have inv := inv_of_reachable reachable
  have waiting : (∀ i, step r defaultCodec s (.caller i) = none) →
      s.mu = none ∧ ∀ pc ∈ s.callers, pc = .done ∨ pc.waitsInner = true := by
    intro stuck
    refine ⟨Option.eq_none_iff_forall_not_mem.mpr fun h held => ?_, fun pc member => ?_⟩
    · have steps := inv.holder_canStep held
      rw [stuck h] at steps
      cases steps
    · by_contra running
      obtain ⟨i, found⟩ := List.mem_iff_getElem?.mp member
      obtain ⟨j, steps⟩ := inv.canStep found (fun done => running (.inl done))
        (by simpa using fun inside => running (.inr inside))
      rw [stuck j] at steps
      cases steps
  refine ⟨fun events s' byCalls ran => run_length_le_work inv events byCalls ran, waiting,
    fun stuck pc member => ?_⟩
  obtain ⟨i, found⟩ := List.mem_iff_getElem?.mp member
  refine ((waiting fun i => (stuck i).1).2 pc member).resolve_right fun inside => ?_
  have returns := (stuck i).2
  simp only [step, inv.live, Bool.false_eq_true, if_false, found] at returns
  have returnable := innerReturn_isSome (s := s) (i := i) inside
  rw [returns] at returnable
  cases returnable

end Machine

/-- After the two calls, both wait inside the one resolver with `r.mu` free, and when their inner
lookups return, both have returned. -/
theorem calls_return_once_inner_calls_return_shared :
    ∃ s, run dotResolver nullCodec initial twoLookups = some s ∧ s.callers = [.inner 0, .inner 0] ∧
      (∀ i, step dotResolver nullCodec s (.caller i) = none) ∧
      run dotResolver nullCodec s [.innerReturns 0, .innerReturns 1] =
        some { s with callers := [.done, .done] } ∧
      (∀ events s', (∀ e ∈ events, e.byCalls = true) →
        run dotResolver nullCodec s events = some s' → events.length ≤ work s.callers) ∧
      ((∀ i, step dotResolver nullCodec s (.caller i) = none) →
        s.mu = none ∧ ∀ pc ∈ s.callers, pc = .done ∨ pc.waitsInner = true) ∧
      ((∀ i, step dotResolver nullCodec s (.caller i) = none ∧
        step dotResolver nullCodec s (.innerReturns i) = none) → ∀ pc ∈ s.callers, pc = .done) :=
  have ran : run dotResolver nullCodec initial twoLookups =
      some { mu := none, reso := some 0, resos := [dotResolver.newReso nullCodec],
             callers := [.inner 0, .inner 0], panicked := false } := rfl
  ⟨_, ran, rfl, fun | 0 => rfl | 1 => rfl | _ + 2 => rfl, rfl,
    calls_return_once_inner_calls_return ⟨_, ran⟩⟩

end DnsOverTls

end ProbeResolver
