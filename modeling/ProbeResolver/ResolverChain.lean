import ProbeResolver.Idna

namespace ProbeResolver

/-!
# The netxlite resolver chain

`WrapResolver` puts four decorators around any `model.Resolver`:
`resolverIDNA` turns the name into its ASCII form, `resolverLogger` logs,
`resolverShortCircuitIPAddr` answers IP literals itself, and
`resolverErrWrapper` classifies the errors of the resolver inside and tags them
with the `resolve` operation. The resolver inside is any three lookups that may
read and change a state of their own, which covers every behaviour of every
`model.Resolver`, including one whose answers depend on earlier calls.

Log lines, timings and the context argument, which every layer hands down
unchanged, are left out.

The main result describes the whole chain: IDNA errors come back as they are,
IP literals are answered without a lookup, and every other name is looked up
exactly once, with its error wrapped in one layer.
-/

/-- `model.HTTPSSvc`, with the three fields the chain reads and writes. -/
structure HTTPSSvc where
  alpn : List String
  ipv4 : List String
  ipv6 : List String
  deriving Repr, DecidableEq

/-- `net.NS`. -/
structure NS where
  host : String
  deriving Repr, DecidableEq

/-- A lookup method: a name in, a Go result out, the resolver's state threaded through. -/
abbrev Lookup (σ α : Type) := String → σ → GoResult α × σ

/-- `model.Resolver`, its lookups; `LookupHTTPS` returns a pointer, `none` for `nil`. -/
structure Resolver (σ : Type) where
  lookupHost : Lookup σ (List String)
  lookupHTTPS : Lookup σ (Option HTTPSSvc)
  lookupNS : Lookup σ (List NS)

/-- Modelled from the spec: `ResolveOperation`, absent from src/; the spec names it `resolve`. -/
def resolveOperation : String := "resolve"

/--
Modelled from the spec: `newErrWrapper`, absent from src/. The wrapper pairs the
classified failure with the operation name and keeps the original error, to
which it unwraps.
-/
def newErrWrapper (classifier : GoError → String) (operation : String) (err : GoError) :
    GoError :=
  .errWrapper (classifier err) operation err

section Decorators

variable {σ α : Type}

/--
The body that the lookups of `resolverErrWrapper` and `resolverLogger` share:
call the lookup inside; on error return `empty` (Go's `nil`) and the error as
`wrap` makes it, on success the result.
-/
def passLookup (wrap : GoError → GoError) (empty : α) (lookup : Lookup σ α) : Lookup σ α :=
  fun name st =>
    match lookup name st with
    | ((_, some err), st) => ((empty, some (wrap err)), st)
    | ((out, none), st) => ((out, none), st)

/-- `resolverErrWrapper`, with `classifyResolverError` as `classify`. -/
def resolverErrWrapper (classify : GoError → String) (r : Resolver σ) : Resolver σ where
  lookupHost := passLookup (newErrWrapper classify resolveOperation) [] r.lookupHost
  lookupHTTPS := passLookup (newErrWrapper classify resolveOperation) none r.lookupHTTPS
  lookupNS := passLookup (newErrWrapper classify resolveOperation) [] r.lookupNS

/-- The panic of reading a field through a `nil` pointer. -/
def nilDereference : GoError :=
  .runtimePanic "invalid memory address or nil pointer dereference"

/-- `resolverLogger.LookupHTTPS`: the shared body, except that after a `nil` error it reads
`https.ALPN`, `https.IPv4` and `https.IPv6` for its log line, which panics when `https` is `nil`. -/
def loggerLookupHTTPS (lookup : Lookup σ (Option HTTPSSvc)) : Lookup σ (Option HTTPSSvc) :=
  fun name st =>
    match lookup name st with
    | ((_, some err), st) => ((none, some err), st)
    | ((none, none), st) => ((none, some nilDereference), st)
    | ((some https, none), st) => ((some https, none), st)

/-- `resolverLogger`, without its log lines. -/
def resolverLogger (r : Resolver σ) : Resolver σ where
  lookupHost := passLookup id [] r.lookupHost
  lookupHTTPS := loggerLookupHTTPS r.lookupHTTPS
  lookupNS := passLookup id [] r.lookupNS

/-- The body every lookup of `resolverIDNA` shares: look the ASCII form up, or fail with the IDNA error. -/
def idnaLookup (puny : Punycode) (empty : α) (lookup : Lookup σ α) : Lookup σ α :=
  fun name st =>
    match toASCII puny name with
    | (_, some err) => ((empty, some err), st)
    | (host, none) => lookup host st

/-- `resolverIDNA`, with the Punycode codec of `idna` as `puny`. -/
def resolverIDNA (puny : Punycode) (r : Resolver σ) : Resolver σ where
  lookupHost := idnaLookup puny [] r.lookupHost
  lookupHTTPS := idnaLookup puny none r.lookupHTTPS
  lookupNS := idnaLookup puny [] r.lookupNS

/-- `isIPv6`: an IP literal with a colon is taken for IPv6. -/
def isIPv6 (candidate : String) : Bool :=
  candidate.toList.contains ':'

/-- `resolverShortCircuitIPAddr`: each lookup answers an IP literal itself. -/
def resolverShortCircuitIPAddr (r : Resolver σ) : Resolver σ where
  lookupHost hostname st :=
    if (parseIP hostname).isSome then (([hostname], none), st) else r.lookupHost hostname st
  lookupHTTPS hostname st :=
    if (parseIP hostname).isSome then
      let https : HTTPSSvc := ⟨[], [], []⟩
      ((some (if isIPv6 hostname then { https with ipv6 := https.ipv6 ++ [hostname] }
        else { https with ipv4 := https.ipv4 ++ [hostname] }), none), st)
    else r.lookupHTTPS hostname st
  lookupNS hostname st :=
    if (parseIP hostname).isSome then (([], some .dnsIPAddress), st) else r.lookupNS hostname st

/-- `WrapResolver`. -/
def wrapResolver (classify : GoError → String) (puny : Punycode) (resolver : Resolver σ) :
    Resolver σ :=
  resolverIDNA puny (resolverLogger (resolverShortCircuitIPAddr (resolverErrWrapper classify resolver)))

/-- The chain of `WrapResolver` without its logging layer, to compare the two. -/
def wrapResolverWithoutLogger (classify : GoError → String) (puny : Punycode)
    (resolver : Resolver σ) : Resolver σ :=
  resolverIDNA puny (resolverShortCircuitIPAddr (resolverErrWrapper classify resolver))

end Decorators

/-! ## What each layer does with a result -/

section Layers

variable {σ α : Type} {lookup : Lookup σ α} {name : String} {st st' : σ}

theorem passLookup_of_ok {wrap : GoError → GoError} {empty out : α}
    (ok : lookup name st = ((out, none), st')) :
    passLookup wrap empty lookup name st = ((out, none), st') := by
  simp [passLookup, ok]

theorem passLookup_of_error {wrap : GoError → GoError} {empty out : α} {err : GoError}
    (failed : lookup name st = ((out, some err), st')) :
    passLookup wrap empty lookup name st = ((empty, some (wrap err)), st') := by
  simp [passLookup, failed]

theorem idnaLookup_of_error {puny : Punycode} {empty : α} {host : String} {err : GoError}
    (failed : toASCII puny name = (host, some err)) :
    idnaLookup puny empty lookup name st = ((empty, some err), st) := by
  simp [idnaLookup, failed]

theorem idnaLookup_of_ascii {puny : Punycode} {empty : α} {host : String}
    (ascii : toASCII puny name = (host, none)) :
    idnaLookup puny empty lookup name st = lookup host st := by
  simp [idnaLookup, ascii]

theorem loggerLookupHTTPS_of_some {lookup : Lookup σ (Option HTTPSSvc)} {https : HTTPSSvc}
    (ok : lookup name st = ((some https, none), st')) :
    loggerLookupHTTPS lookup name st = ((some https, none), st') := by
  simp [loggerLookupHTTPS, ok]

theorem loggerLookupHTTPS_of_error {lookup : Lookup σ (Option HTTPSSvc)}
    {out : Option HTTPSSvc} {err : GoError} (failed : lookup name st = ((out, some err), st')) :
    loggerLookupHTTPS lookup name st = ((none, some err), st') := by
  simp [loggerLookupHTTPS, failed]

theorem loggerLookupHTTPS_of_nil {lookup : Lookup σ (Option HTTPSSvc)}
    (nil : lookup name st = ((none, none), st')) :
    loggerLookupHTTPS lookup name st = ((none, some nilDereference), st') := by
  simp [loggerLookupHTTPS, nil]

/-- A lookup that returns `empty` (Go's `nil`) beside every error. -/
def NilOnError (empty : α) (lookup : Lookup σ α) : Prop :=
  ∀ name st out err st', lookup name st = ((out, some err), st') → out = empty

theorem passLookup_nilOnError {wrap : GoError → GoError} {empty : α} :
    NilOnError empty (passLookup wrap empty lookup) := by
  intro name st out err st' result
  rcases inner : lookup name st with ⟨⟨_, _ | _⟩, _⟩
  · simp [passLookup_of_ok inner] at result
  · rw [passLookup_of_error inner] at result
    exact (Prod.mk.inj (Prod.mk.inj result).1).1.symm

/-- Logging changes nothing on a lookup that already puts `nil` beside every error. -/
theorem passLookup_id_of_nilOnError {empty : α} (nil : NilOnError empty lookup) :
    passLookup id empty lookup = lookup := by
  funext name st
  rcases result : lookup name st with ⟨⟨out, _ | err⟩, st'⟩
  · exact passLookup_of_ok result
  · rw [passLookup_of_error result, nil name st out err st' result]
    rfl

/-- Logging an `HTTPSSvc` lookup that puts `nil` beside every error changes a result only where it
is `nil` with a `nil` error, which panics. -/
theorem loggerLookupHTTPS_of_ne {lookup : Lookup σ (Option HTTPSSvc)} (nil : NilOnError none lookup)
    (result : (lookup name st).1 ≠ (none, none)) : loggerLookupHTTPS lookup name st = lookup name st := by
  rcases answered : lookup name st with ⟨⟨_ | https, _ | err⟩, st'⟩
  · rw [answered] at result
    exact absurd rfl result
  · rw [loggerLookupHTTPS_of_error answered]
  · exact loggerLookupHTTPS_of_some answered
  · rw [loggerLookupHTTPS_of_error answered, nil name st _ err st' answered]

/-- IDNA and logging commute on `LookupHTTPS`: an IDNA error is no `nil` result. -/
theorem idnaLookup_loggerLookupHTTPS {puny : Punycode} {lookup : Lookup σ (Option HTTPSSvc)} :
    idnaLookup puny none (loggerLookupHTTPS lookup) = loggerLookupHTTPS (idnaLookup puny none lookup) := by
  funext name st
  rcases ascii : toASCII puny name with ⟨host, _ | err⟩
  · simp only [loggerLookupHTTPS, idnaLookup_of_ascii ascii]
  · rw [idnaLookup_of_error ascii, loggerLookupHTTPS_of_error (idnaLookup_of_error ascii)]

theorem idnaLookup_nilOnError {puny : Punycode} {empty : α} (nil : NilOnError empty lookup) :
    NilOnError empty (idnaLookup puny empty lookup) := by
  intro name st out err st' result
  rcases ascii : toASCII puny name with ⟨host, _ | e⟩
  · exact nil host st out err st' (by rwa [idnaLookup_of_ascii ascii] at result)
  · rw [idnaLookup_of_error ascii] at result
    exact (Prod.mk.inj (Prod.mk.inj result).1).1.symm

/-- Logging over a lookup that already puts `nil` beside every error changes nothing. -/
theorem passLookup_id_of_eq {lookup' : Lookup σ α} {wrap : GoError → GoError} {empty : α}
    (same : lookup' name st = passLookup wrap empty lookup name st) :
    passLookup id empty lookup' name st = passLookup wrap empty lookup name st := by
  simp only [passLookup] at same ⊢
  rw [same]
  rcases lookup name st with ⟨⟨_, _ | _⟩, _⟩ <;> rfl

/-- The short circuit keeps `nil` beside every error, its own included. -/
theorem resolverShortCircuitIPAddr_nilOnError {r : Resolver σ}
    (host : NilOnError [] r.lookupHost) (https : NilOnError none r.lookupHTTPS)
    (ns : NilOnError [] r.lookupNS) :
    NilOnError [] (resolverShortCircuitIPAddr r).lookupHost ∧
      NilOnError none (resolverShortCircuitIPAddr r).lookupHTTPS ∧
      NilOnError [] (resolverShortCircuitIPAddr r).lookupNS := by
  refine ⟨fun name st out err st' result => ?_, fun name st out err st' result => ?_,
    fun name st out err st' result => ?_⟩ <;>
    simp only [resolverShortCircuitIPAddr] at result <;>
    by_cases literal : (parseIP name).isSome
  · simp [literal] at result
  · exact host name st out err st' (by simpa [literal] using result)
  · simp [literal] at result
  · exact https name st out err st' (by simpa [literal] using result)
  · simp only [literal, if_true, Prod.mk.injEq] at result
    exact result.1.1.symm
  · exact ns name st out err st' (by simpa [literal] using result)

/-- `isIPv6` answers, on every string `ParseIP` accepts, whether its first dot or colon is a colon. -/
theorem isIPv6_iff_first_separator_colon {s : String} {ip : List UInt8} (parsed : parseIP s = some ip) :
    isIPv6 s = true ↔ s.toList.find? (fun c => c = '.' || c = ':') = some ':' := by
  unfold parseIP at parsed
  split at parsed
  · next c first =>
    have separator := List.find?_some first
    split_ifs at parsed with dot
    · subst dot
      simp only [isIPv6, List.elem_eq_mem, decide_eq_true_eq, first, Option.some.injEq]
      exact ⟨fun colon => absurd colon (parseIPv4_no_colon parsed), fun same => by cases same⟩
    · have colon : c = ':' := by simpa [dot] using separator
      subst colon
      exact ⟨fun _ => first, fun _ => by simpa [isIPv6] using List.mem_of_find?_eq_some first⟩
  · cases parsed

end Layers

/-! ## The chain -/

section Chain

variable {σ : Type} (classify : GoError → String) (puny : Punycode) (inner : Resolver σ) (st : σ)

/-- An IP literal past the IDNA layer is its own answer. -/
theorem wrapResolver_lookupHost_of_literal {h a : String} (ascii : toASCII puny h = (a, none))
    (literal : (parseIP a).isSome) :
    (wrapResolver classify puny inner).lookupHost h st = (([a], none), st) := by
  simp only [wrapResolver, resolverIDNA, idnaLookup_of_ascii ascii]
  exact passLookup_of_ok (by simp [resolverShortCircuitIPAddr, literal])

/-- A name that is not an IP literal goes to the resolver inside, through the error wrapper. -/
theorem wrapResolver_lookupHost_of_name {h a : String} (ascii : toASCII puny h = (a, none))
    (name : parseIP a = none) :
    (wrapResolver classify puny inner).lookupHost h st =
      passLookup (newErrWrapper classify resolveOperation) [] inner.lookupHost a st := by
  simp only [wrapResolver, resolverIDNA, idnaLookup_of_ascii ascii]
  exact passLookup_id_of_eq (by simp [resolverShortCircuitIPAddr, resolverErrWrapper, name])

/-- An IP literal given to `LookupHTTPS` comes back as the one address of its family. -/
theorem wrapResolver_lookupHTTPS_of_literal {s : String} (literal : (parseIP s).isSome) :
    (wrapResolver classify puny inner).lookupHTTPS s st =
      ((some (if isIPv6 s then ⟨[], [], [s]⟩ else ⟨[], [s], []⟩), none), st) := by
  obtain ⟨ip, parsed⟩ := Option.isSome_iff_exists.mp literal
  simp only [wrapResolver, resolverIDNA, idnaLookup_of_ascii (toASCII_of_parseIP puny parsed)]
  refine loggerLookupHTTPS_of_some ?_
  simp only [resolverShortCircuitIPAddr, literal, if_true]
  split <;> rfl

/-- The same answer, with the family told by `ParseIP`'s own dispatch: the first dot or colon. -/
theorem wrapResolver_lookupHTTPS_of_parsed {s : String} {ip : List UInt8} (parsed : parseIP s = some ip) :
    (wrapResolver classify puny inner).lookupHTTPS s st =
      ((some (if s.toList.find? (fun c => c = '.' || c = ':') = some ':' then ⟨[], [], [s]⟩
        else ⟨[], [s], []⟩), none), st) := by
  rw [wrapResolver_lookupHTTPS_of_literal classify puny inner st (by simp [parsed])]
  simp only [isIPv6_iff_first_separator_colon parsed]

/--
`WrapResolver(logger, inner).LookupHost`: an IDNA error comes back as it is; an
IP literal, and in particular every string `ParseIP` accepts, is its own answer
with the state untouched; every other name is looked up once, with its ASCII
form, and a failure comes back wrapped in one `resolve` layer around the error
of the resolver inside. `LookupHTTPS` answers an IP literal with an `HTTPSSvc`
holding only it, under IPv6 when `ParseIP` read it as IPv6 (its first dot or
colon is a colon) and under IPv4 otherwise.
-/
theorem wrapResolver_lookup_contract :
    (∀ h a e, toASCII puny h = (a, some e) →
      (wrapResolver classify puny inner).lookupHost h st = (([], some e), st)) ∧
    (∀ h a, toASCII puny h = (a, none) → (parseIP a).isSome →
      (wrapResolver classify puny inner).lookupHost h st = (([a], none), st)) ∧
    (∀ s, (parseIP s).isSome →
      (wrapResolver classify puny inner).lookupHost s st = (([s], none), st)) ∧
    (∀ h a addrs st', toASCII puny h = (a, none) → parseIP a = none →
      inner.lookupHost a st = ((addrs, none), st') →
      (wrapResolver classify puny inner).lookupHost h st = ((addrs, none), st')) ∧
    (∀ h a addrs e st', toASCII puny h = (a, none) → parseIP a = none →
      inner.lookupHost a st = ((addrs, some e), st') →
      ∃ wrapped, (wrapResolver classify puny inner).lookupHost h st = (([], some wrapped), st') ∧
        wrapped = .errWrapper (classify e) resolveOperation e ∧ wrapped.unwrap = some e) ∧
    (∀ s, (parseIP s).isSome →
      (wrapResolver classify puny inner).lookupHTTPS s st =
        ((some (if s.toList.find? (fun c => c = '.' || c = ':') = some ':' then ⟨[], [], [s]⟩
          else ⟨[], [s], []⟩), none), st)) := by
  refine ⟨fun h a e failed => idnaLookup_of_error failed,
    fun h a ascii literal => wrapResolver_lookupHost_of_literal classify puny inner st ascii literal,
    fun s literal => ?_, fun h a addrs st' ascii name ok => ?_,
    fun h a addrs e st' ascii name failed => ⟨_, ?_, rfl, rfl⟩,
    fun s literal => ?_⟩
  · obtain ⟨ip, parsed⟩ := Option.isSome_iff_exists.mp literal
    exact wrapResolver_lookupHost_of_literal classify puny inner st
      (toASCII_of_parseIP puny parsed) literal
  · rw [wrapResolver_lookupHost_of_name classify puny inner st ascii name]
    exact passLookup_of_ok ok
  · rw [wrapResolver_lookupHost_of_name classify puny inner st ascii name]
    exact passLookup_of_error failed
  · obtain ⟨ip, parsed⟩ := Option.isSome_iff_exists.mp literal
    exact wrapResolver_lookupHTTPS_of_parsed classify puny inner st parsed

/-- A resolver that counts its lookups and times out on every one. -/
def timeoutResolver : Resolver Nat where
  lookupHost _ n := (([], some (.library "generic_timeout_error")), n + 1)
  lookupHTTPS _ n := ((none, some (.library "generic_timeout_error")), n + 1)
  lookupNS _ n := (([], some (.library "generic_timeout_error")), n + 1)

/-- A Punycode codec for names that never reach it. -/
def asciiPunycode : Punycode := ⟨fun label => (label, none), fun label => (acePrefix ++ label, none)⟩

theorem wrapResolver_lookup_contract_timeout_and_literals :
    (toASCII asciiPunycode "example.com" = ("example.com", none) ∧
      parseIP "example.com" = none ∧
      timeoutResolver.lookupHost "example.com" 0 =
        (([], some (.library "generic_timeout_error")), 1) ∧
      ∃ wrapped, (wrapResolver (fun _ => "generic_timeout_error") asciiPunycode
          timeoutResolver).lookupHost "example.com" 0 = (([], some wrapped), 1) ∧
        wrapped = .errWrapper "generic_timeout_error" resolveOperation
          (.library "generic_timeout_error") ∧
        wrapped.unwrap = some (.library "generic_timeout_error")) ∧
    ((parseIP "10.0.0.1").isSome = true ∧
      (wrapResolver (fun _ => "generic_timeout_error") asciiPunycode timeoutResolver).lookupHost
        "10.0.0.1" 0 = ((["10.0.0.1"], none), 0)) ∧
    ((parseIP "::ffff:10.0.0.1").isSome = true ∧
      (wrapResolver (fun _ => "generic_timeout_error") asciiPunycode timeoutResolver).lookupHTTPS
        "::ffff:10.0.0.1" 0 = ((some ⟨[], [], ["::ffff:10.0.0.1"]⟩, none), 0)) ∧
    ((parseIP "10.0.0.1").isSome = true ∧
      (wrapResolver (fun _ => "generic_timeout_error") asciiPunycode timeoutResolver).lookupHTTPS
        "10.0.0.1" 0 = ((some ⟨[], ["10.0.0.1"], []⟩, none), 0)) :=
  have contract := wrapResolver_lookup_contract (fun _ => "generic_timeout_error") asciiPunycode
    timeoutResolver 0
  ⟨⟨by decide, by decide, rfl,
      contract.2.2.2.2.1 "example.com" "example.com" [] _ 1 (by decide) (by decide) rfl⟩,
    ⟨by decide, contract.2.2.1 "10.0.0.1" (by decide)⟩,
    ⟨by decide, contract.2.2.2.2.2 "::ffff:10.0.0.1" (by decide)⟩,
    ⟨by decide, contract.2.2.2.2.2 "10.0.0.1" (by decide)⟩⟩

/-- What the chain below the logger answers: `nil` with a `nil` error exactly when the name is no
IP literal and the resolver inside answered so. -/
theorem wrapResolverWithoutLogger_lookupHTTPS_nil {h : String} :
    ((wrapResolverWithoutLogger classify puny inner).lookupHTTPS h st).1 = (none, none) ↔
      ∃ a, toASCII puny h = (a, none) ∧ parseIP a = none ∧ (inner.lookupHTTPS a st).1 = (none, none) := by
  rcases ascii : toASCII puny h with ⟨a, _ | err⟩
  · simp only [wrapResolverWithoutLogger, resolverIDNA, idnaLookup_of_ascii ascii, Prod.mk.injEq,
      true_and, exists_eq_left', resolverShortCircuitIPAddr, resolverErrWrapper]
    cases literal : parseIP a
    · rcases answered : inner.lookupHTTPS a st with ⟨⟨out, _ | e⟩, st'⟩
      · simp [passLookup_of_ok answered, literal, answered]
      · simp [passLookup_of_error answered, literal, answered]
    · simp [literal]
  · simp [wrapResolverWithoutLogger, resolverIDNA, idnaLookup_of_error ascii]

/--
Within `WrapResolver` the logging layer alters no `LookupHost` or `LookupNS`
result, and a `LookupHTTPS` result only where the chain below it answers `nil`
with a `nil` error: there its log line dereferences the `nil` answer and panics.
That happens exactly for a name that is no IP literal, looked up by a resolver
that answers it `nil, nil`.
-/
theorem wrapResolver_logging_transparent :
    (wrapResolver classify puny inner).lookupHost =
        (wrapResolverWithoutLogger classify puny inner).lookupHost ∧
      (wrapResolver classify puny inner).lookupNS =
        (wrapResolverWithoutLogger classify puny inner).lookupNS ∧
      (∀ h st, ((wrapResolverWithoutLogger classify puny inner).lookupHTTPS h st).1 ≠ (none, none) →
        (wrapResolver classify puny inner).lookupHTTPS h st =
          (wrapResolverWithoutLogger classify puny inner).lookupHTTPS h st) ∧
      (∀ h st st', (wrapResolverWithoutLogger classify puny inner).lookupHTTPS h st = ((none, none), st') →
        (wrapResolver classify puny inner).lookupHTTPS h st = ((none, some nilDereference), st')) ∧
      (∀ h st, ((wrapResolverWithoutLogger classify puny inner).lookupHTTPS h st).1 = (none, none) ↔
        ∃ a, toASCII puny h = (a, none) ∧ parseIP a = none ∧ (inner.lookupHTTPS a st).1 = (none, none)) := by
  obtain ⟨host, https, ns⟩ := resolverShortCircuitIPAddr_nilOnError (r := resolverErrWrapper classify inner)
    passLookup_nilOnError passLookup_nilOnError passLookup_nilOnError
  have commute : (wrapResolver classify puny inner).lookupHTTPS =
      loggerLookupHTTPS (wrapResolverWithoutLogger classify puny inner).lookupHTTPS :=
    idnaLookup_loggerLookupHTTPS
  refine ⟨?_, ?_, fun h st result => ?_, fun h st st' nil => ?_,
    fun h st => wrapResolverWithoutLogger_lookupHTTPS_nil classify puny inner st⟩
  · simp only [wrapResolver, wrapResolverWithoutLogger, resolverIDNA, resolverLogger,
      passLookup_id_of_nilOnError host]
  · simp only [wrapResolver, wrapResolverWithoutLogger, resolverIDNA, resolverLogger,
      passLookup_id_of_nilOnError ns]
  · rw [commute]
    exact loggerLookupHTTPS_of_ne (idnaLookup_nilOnError https) result
  · rw [commute]
    exact loggerLookupHTTPS_of_nil nil

/-- A resolver whose `LookupHTTPS` answers every name `nil, nil`. -/
def nilHTTPSResolver : Resolver Nat where
  lookupHost _ n := (([], none), n)
  lookupHTTPS _ n := ((none, none), n)
  lookupNS _ n := (([], none), n)

example : (wrapResolver (fun _ => "") asciiPunycode nilHTTPSResolver).lookupHTTPS "example.com" 0 =
    ((none, some nilDereference), 0) := by decide

/-- `LookupNS` refuses every IP literal with `ErrDNSIPAddress` itself, which no layer classifies. -/
theorem wrapResolver_lookupNS_of_literal {s : String} (literal : (parseIP s).isSome) :
    (wrapResolver classify puny inner).lookupNS s st = (([], some .dnsIPAddress), st) := by
  obtain ⟨ip, parsed⟩ := Option.isSome_iff_exists.mp literal
  simp only [wrapResolver, resolverIDNA, idnaLookup_of_ascii (toASCII_of_parseIP puny parsed)]
  have refused : (resolverShortCircuitIPAddr (resolverErrWrapper classify inner)).lookupNS s st =
      (([], some .dnsIPAddress), st) := by
    simp [resolverShortCircuitIPAddr, literal]
  exact passLookup_of_error refused

theorem wrapResolver_lookupNS_loopback :
    (parseIP "::1").isSome = true ∧
      (wrapResolver (fun _ => "generic_timeout_error") asciiPunycode timeoutResolver).lookupNS
        "::1" 0 = (([], some .dnsIPAddress), 0) :=
  ⟨by decide, wrapResolver_lookupNS_of_literal _ _ _ _ (by decide)⟩

end Chain

/--
For every string `ParseIP` accepts, the colon test of `isIPv6` says exactly
whether `ParseIP` read it as IPv6, and so `WrapResolver`'s `LookupHTTPS` files
every IP literal under the family `ParseIP` read it as.
-/
theorem isIPv6_iff_parsed_as_ipv6 {s : String} {ip : List UInt8} (parsed : parseIP s = some ip) :
    (isIPv6 s = true ↔ s.toList.find? (fun c => c = '.' || c = ':') = some ':') ∧
      ∀ {σ : Type} (classify : GoError → String) (puny : Punycode) (inner : Resolver σ) (st : σ),
        (wrapResolver classify puny inner).lookupHTTPS s st =
          ((some (if s.toList.find? (fun c => c = '.' || c = ':') = some ':' then ⟨[], [], [s]⟩
            else ⟨[], [s], []⟩), none), st) :=
  ⟨isIPv6_iff_first_separator_colon parsed,
    fun classify puny inner st => wrapResolver_lookupHTTPS_of_parsed classify puny inner st parsed⟩

theorem isIPv6_iff_parsed_as_ipv6_mapped :
    parseIP "::ffff:10.0.0.1" = some (v4InV6Prefix ++ [10, 0, 0, 1]) ∧
      (isIPv6 "::ffff:10.0.0.1" = true ↔
        "::ffff:10.0.0.1".toList.find? (fun c => c = '.' || c = ':') = some ':') ∧
      (wrapResolver (fun _ => "generic_timeout_error") asciiPunycode timeoutResolver).lookupHTTPS
        "::ffff:10.0.0.1" 0 =
          ((some (if "::ffff:10.0.0.1".toList.find? (fun c => c = '.' || c = ':') = some ':'
            then ⟨[], [], ["::ffff:10.0.0.1"]⟩ else ⟨[], ["::ffff:10.0.0.1"], []⟩), none), 0) :=
  have parsed : parseIP "::ffff:10.0.0.1" = some (v4InV6Prefix ++ [10, 0, 0, 1]) := by decide
  ⟨parsed, (isIPv6_iff_parsed_as_ipv6 parsed).1, (isIPv6_iff_parsed_as_ipv6 parsed).2 _ _ _ _⟩

end ProbeResolver
