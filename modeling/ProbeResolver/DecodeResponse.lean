import ProbeResolver.DNSMessage

namespace ProbeResolver

/-!
# Decoding a LookupHost reply

`dnsMiekgCodec.DecodeLookupHostResponse` unpacks the reply, maps the response
code to an error, and on success collects the addresses of the answer records
whose dynamic type matches the query type. The loop switches on the query type
once per record; `requestedAddrs` states the same selection as one filter over
the answer section, and `decodeLookupHostResponse_spec` proves the two agree for
every reply.
-/

/-- The body of `for _, answer := range reply.Answer`: the `switch qtype` and its type assertion. -/
def collectAnswer (lib : DNSLibrary) (qtype : UInt16) (addrs : List String) (answer : RR) :
    List String :=
  if qtype = typeA then
    match answer with
    | .a ip => addrs ++ [lib.ipString ip]
    | _ => addrs
  else if qtype = typeAAAA then
    match answer with
    | .aaaa ip => addrs ++ [lib.ipString ip]
    | _ => addrs
  else
    addrs

/-- `dnsMiekgCodec.DecodeLookupHostResponse`. -/
def decodeLookupHostResponse (lib : DNSLibrary) (qtype : UInt16) (data : Bytes) :
    GoResult (List String) :=
  match lib.unpack data with
  | .error err => ([], some err)
  | .ok reply =>
      if reply.rcode = rcodeNameError then
        ([], some .dnsNoSuchHost)
      else if reply.rcode = rcodeServerFailure then
        ([], some .dnsServerTemporarilyMisbehaving)
      else if reply.rcode = rcodeSuccess then
        let addrs := reply.answer.foldl (collectAnswer lib qtype) []
        if addrs.length ≤ 0 then ([], some .dnsNoAnswerFromDNSServer) else (addrs, none)
      else
        ([], some .dnsServerMisbehaving)

/-- The address of an A record. -/
def aAddr? (lib : DNSLibrary) : RR → Option String
  | .a ip => some (lib.ipString ip)
  | _ => none

/-- The address of an AAAA record. -/
def aaaaAddr? (lib : DNSLibrary) : RR → Option String
  | .aaaa ip => some (lib.ipString ip)
  | _ => none

/--
The addresses a reply answers with, as the spec states them: in answer order,
those of the A records for `TypeA`, of the AAAA records for `TypeAAAA`, and none
for any other query type.
-/
def requestedAddrs (lib : DNSLibrary) (qtype : UInt16) (answers : List RR) : List String :=
  if qtype = typeA then answers.filterMap (aAddr? lib)
  else if qtype = typeAAAA then answers.filterMap (aaaaAddr? lib)
  else []

/-- The answer loop appends exactly the requested addresses, in order. -/
theorem foldl_collectAnswer (lib : DNSLibrary) (qtype : UInt16) (answers : List RR)
    (addrs : List String) :
    answers.foldl (collectAnswer lib qtype) addrs = addrs ++ requestedAddrs lib qtype answers := by
  induction answers generalizing addrs with
  | nil =>
      simp [requestedAddrs]
  | cons answer rest inductionHypothesis =>
      rw [List.foldl_cons, inductionHypothesis]
      unfold collectAnswer requestedAddrs
      split_ifs <;> cases answer <;> simp [aAddr?, aaaaAddr?]

/--
The reply decoder, for every query type and every reply: an unpacking error is
returned as is; name-error, server-failure and every other non-success code map
to their sentinels; on success the requested addresses are returned, or the
no-answer sentinel when there are none.
-/
theorem decodeLookupHostResponse_spec (lib : DNSLibrary) (qtype : UInt16) (data : Bytes) :
    decodeLookupHostResponse lib qtype data =
      match lib.unpack data with
      | .error err => ([], some err)
      | .ok reply =>
          if reply.rcode = rcodeNameError then
            ([], some .dnsNoSuchHost)
          else if reply.rcode = rcodeServerFailure then
            ([], some .dnsServerTemporarilyMisbehaving)
          else if reply.rcode ≠ rcodeSuccess then
            ([], some .dnsServerMisbehaving)
          else if requestedAddrs lib qtype reply.answer = [] then
            ([], some .dnsNoAnswerFromDNSServer)
          else
            (requestedAddrs lib qtype reply.answer, none) := by
  unfold decodeLookupHostResponse
  split
  · rfl
  · simp only [foldl_collectAnswer, List.nil_append, Nat.le_zero, List.length_eq_zero,
      ne_eq, ite_not]

/-- A decoded reply is a failure without addresses or a non-empty list without error. -/
theorem decodeLookupHostResponse_wellFormed (lib : DNSLibrary) (qtype : UInt16) (data : Bytes) :
    (decodeLookupHostResponse lib qtype data).2.isSome ↔
      (decodeLookupHostResponse lib qtype data).1 = [] := by
  rw [decodeLookupHostResponse_spec]
  split
  · simp
  · split_ifs <;> simp_all

end ProbeResolver
