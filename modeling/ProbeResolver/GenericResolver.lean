import ProbeResolver.EncodeRequest
import ProbeResolver.DecodeResponse

namespace ProbeResolver

/-!
# The generic dual-query resolver

`dnsGenericResolver.LookupHost` runs one `asyncLookupHost` goroutine for the A
query and waits for its result before it starts the one for the AAAA query, so
the two lookups run one after the other on the same transport. Each lookup is
encode, round trip, decode. The transport is any function that may read and
change a state of its own, which covers every outcome of every round trip,
including outcomes that depend on earlier ones.

With the default codec every lookup either fails without addresses or returns a
non-empty list, so the defensive "no answer" branch of the merge cannot be
taken.
-/

/-- `DNSCodec`. -/
structure DNSCodec where
  encodeLookupHostRequest : String → UInt16 → Bool → GoResult Bytes
  decodeLookupHostResponse : UInt16 → Bytes → GoResult (List String)

/-- `&dnsMiekgCodec{}`; `drawId qtype` is what `dns.Id()` draws for the query of that type. -/
def dnsMiekgCodec (lib : DNSLibrary) (w : Nat) (drawId : UInt16 → UInt16) : DNSCodec where
  encodeLookupHostRequest domain qtype padding :=
    encodeLookupHostRequest lib w (drawId qtype) domain qtype padding
  decodeLookupHostResponse := decodeLookupHostResponse lib

/-- `dnsTransport`: a round trip that may read and change the transport's state. -/
structure DNSTransport (σ : Type) where
  roundTrip : Bytes → σ → GoResult Bytes × σ

/-- `dnsGenericResolver`. -/
structure DNSGenericResolver (σ : Type) where
  codec : DNSCodec
  padding : Bool
  t : DNSTransport σ

/-- A lookup result that is a failure without addresses or a non-empty success. -/
def LookupWellFormed (result : GoResult (List String)) : Prop :=
  result.2.isSome ↔ result.1 = []

/-- The merge the spec describes: A's error when both fail, else A's then AAAA's addresses. -/
def mergeLookups (replyA replyAAAA : GoResult (List String)) : GoResult (List String) :=
  if replyA.2.isSome ∧ replyAAAA.2.isSome then ([], replyA.2) else (replyA.1 ++ replyAAAA.1, none)

/-- The end of `LookupHost`, once both replies are in, as the code writes it. -/
def mergeReplies (replyA replyAAAA : GoResult (List String)) : GoResult (List String) :=
  if replyA.2.isSome ∧ replyAAAA.2.isSome then
    ([], replyA.2)
  else
    let addrs := [] ++ replyA.1 ++ replyAAAA.1
    if addrs.length < 1 then ([], some .dnsNoAnswerFromDNSServer) else (addrs, none)

/-- Two well-formed replies never reach the "no answer" branch: the code merges as the spec says. -/
theorem mergeReplies_eq_mergeLookups {replyA replyAAAA : GoResult (List String)}
    (wellFormedA : LookupWellFormed replyA) (wellFormedAAAA : LookupWellFormed replyAAAA) :
    mergeReplies replyA replyAAAA = mergeLookups replyA replyAAAA := by
  obtain ⟨addrsA, errA⟩ := replyA
  obtain ⟨addrsAAAA, errAAAA⟩ := replyAAAA
  unfold LookupWellFormed at wellFormedA wellFormedAAAA
  cases errA <;> cases errAAAA <;> cases addrsA <;> cases addrsAAAA <;>
    simp_all [mergeReplies, mergeLookups]

namespace DNSGenericResolver

variable {σ : Type} (r : DNSGenericResolver σ)

/-- `doLookupHost`: encode, round trip, decode, each failure returned as is. -/
def doLookupHost (hostname : String) (qtype : UInt16) (padding : Bool) (s : σ) :
    GoResult (List String) × σ :=
  match r.codec.encodeLookupHostRequest hostname qtype padding with
  | (_, some err) => (([], some err), s)
  | (query, none) =>
      match r.t.roundTrip query s with
      | ((_, some err), s') => (([], some err), s')
      | ((reply, none), s') => (r.codec.decodeLookupHostResponse qtype reply, s')

/-- `asyncLookupHost`: the goroutine sends `doLookupHost`'s result on its channel. -/
def asyncLookupHost (hostname : String) (qtype : UInt16) (padding : Bool) (s : σ) :
    GoResult (List String) × σ :=
  r.doLookupHost hostname qtype padding s

/-- `dnsGenericResolver.LookupHost`: the A lookup, then the AAAA lookup, then `mergeReplies`. -/
def lookupHost (hostname : String) (s : σ) : GoResult (List String) × σ :=
  let lookupA := r.asyncLookupHost hostname typeA r.padding s
  let lookupAAAA := r.asyncLookupHost hostname typeAAAA r.padding lookupA.2
  (mergeReplies lookupA.1 lookupAAAA.1, lookupAAAA.2)

/-- The transport state after one lookup's round trip; unchanged when encoding fails. -/
def transportAfter (hostname : String) (qtype : UInt16) (padding : Bool) (s : σ) : σ :=
  match r.codec.encodeLookupHostRequest hostname qtype padding with
  | (_, some _) => s
  | (query, none) => (r.t.roundTrip query s).2

/-- Decoding never touches the transport: a lookup changes it by its round trip only. -/
theorem doLookupHost_state (hostname : String) (qtype : UInt16) (padding : Bool) (s : σ) :
    (r.doLookupHost hostname qtype padding s).2 = r.transportAfter hostname qtype padding s := by
  unfold doLookupHost transportAfter
  split
  · rfl
  · split <;> simp_all

/-- A lookup is well formed whenever the codec's decoder is. -/
theorem doLookupHost_wellFormed
    (decodes : ∀ qtype reply, LookupWellFormed (r.codec.decodeLookupHostResponse qtype reply))
    (hostname : String) (qtype : UInt16) (padding : Bool) (s : σ) :
    LookupWellFormed (r.doLookupHost hostname qtype padding s).1 := by
  unfold doLookupHost
  split
  · simp [LookupWellFormed]
  · split
    · simp [LookupWellFormed]
    · exact decodes ..

/-- With a well-formed decoder, `LookupHost` returns the merge of its two lookups. -/
theorem lookupHost_eq_merge
    (decodes : ∀ qtype reply, LookupWellFormed (r.codec.decodeLookupHostResponse qtype reply))
    (hostname : String) (s : σ) :
    (r.lookupHost hostname s).1 =
      mergeLookups (r.doLookupHost hostname typeA r.padding s).1
        (r.doLookupHost hostname typeAAAA r.padding (r.doLookupHost hostname typeA r.padding s).2).1 :=
  mergeReplies_eq_mergeLookups (r.doLookupHost_wellFormed decodes ..)
    (r.doLookupHost_wellFormed decodes ..)

end DNSGenericResolver

/-- The default codec's decoder is well formed for every query type and reply. -/
theorem dnsMiekgCodec_decodes_wellFormed (lib : DNSLibrary) (w : Nat) (drawId : UInt16 → UInt16)
    (qtype : UInt16) (reply : Bytes) :
    LookupWellFormed ((dnsMiekgCodec lib w drawId).decodeLookupHostResponse qtype reply) :=
  decodeLookupHostResponse_wellFormed lib qtype reply

/--
`LookupHost` with the default codec, for every transport and every hostname:
the transport sees the A lookup's round trip and then the AAAA lookup's, the
second even when the first failed; each lookup fails without addresses or
returns a non-empty list; when both fail the result is the A lookup's error,
and otherwise it is A's addresses followed by AAAA's, non-empty and without
error; no result pairs addresses with an error.
-/
theorem lookupHost_dualQuery {σ : Type} (lib : DNSLibrary) (w : Nat) (drawId : UInt16 → UInt16)
    (padding : Bool) (t : DNSTransport σ) (hostname : String) (s : σ) :
    let r : DNSGenericResolver σ := { codec := dnsMiekgCodec lib w drawId, padding := padding, t := t }
    let lookupA := r.doLookupHost hostname typeA padding s
    let lookupAAAA := r.doLookupHost hostname typeAAAA padding lookupA.2
    (r.lookupHost hostname s).2 =
        r.transportAfter hostname typeAAAA padding (r.transportAfter hostname typeA padding s) ∧
    LookupWellFormed lookupA.1 ∧ LookupWellFormed lookupAAAA.1 ∧
    (lookupA.1.2.isSome → lookupAAAA.1.2.isSome →
      (r.lookupHost hostname s).1 = ([], lookupA.1.2)) ∧
    (¬ (lookupA.1.2.isSome ∧ lookupAAAA.1.2.isSome) →
      (r.lookupHost hostname s).1 = (lookupA.1.1 ++ lookupAAAA.1.1, none) ∧
        lookupA.1.1 ++ lookupAAAA.1.1 ≠ []) ∧
    ((r.lookupHost hostname s).1.2.isSome → (r.lookupHost hostname s).1.1 = []) := by
  intro r lookupA lookupAAAA
  have decodes := dnsMiekgCodec_decodes_wellFormed lib w drawId
  have merged := r.lookupHost_eq_merge decodes hostname s
  have wellFormedA : LookupWellFormed lookupA.1 := r.doLookupHost_wellFormed decodes ..
  have wellFormedAAAA : LookupWellFormed lookupAAAA.1 := r.doLookupHost_wellFormed decodes ..
  refine ⟨?_, wellFormedA, wellFormedAAAA, ?_, ?_, ?_⟩
  · show (r.doLookupHost hostname typeAAAA padding lookupA.2).2 = _
    rw [r.doLookupHost_state, r.doLookupHost_state]
  · intro failsA failsAAAA
    rw [merged]
    simp [mergeLookups, lookupA, lookupAAAA, r, failsA, failsAAAA] at *
  · intro notBoth
    refine ⟨by rw [merged]; exact if_neg notBoth, fun appendNil => ?_⟩
    rw [List.append_eq_nil] at appendNil
    exact notBoth ⟨wellFormedA.mpr appendNil.1, wellFormedAAAA.mpr appendNil.2⟩
  · rw [merged]
    unfold mergeLookups
    split_ifs <;> simp

end ProbeResolver
