import ProbeResolver.GenericResolver

namespace ProbeResolver

/-!
# DNS over HTTPS

`DNSOverHTTPSResolver.roundTrip` POSTs the query to the server's URL with the
`application/dns-message` content type, treats a status other than 200 as a
temporarily misbehaving server, and returns the body as the reply.
`LookupHost` runs the generic resolver over that transport with padding on, and
`DNSResolver` wraps whatever error comes out in `ErrLookupHost`.

The HTTP client is any `Do` that may read and change a state of its own. To
speak about every request the resolver sends, the client is given a log: the
recording client hands each request to the client and appends it to the log.
With the default codec, every request of every lookup is a POST of a padded
query, whose length is a whole number of 128-byte blocks.

The check of the reply's content type only logs, and is left out.
-/

/-- An HTTP request, as `roundTrip` builds it. -/
structure HTTPRequest where
  method : String
  url : String
  header : List (String × String)
  body : Bytes
  deriving Repr, DecidableEq

/-- An HTTP response, as far as `roundTrip` reads it: the status, and what `ioutil.ReadAll` returns. -/
structure HTTPResponse where
  statusCode : Nat
  body : GoResult Bytes
  deriving Repr, DecidableEq

/-- `DNSOverHTTPSHTTPClient`: `Do` may read and change a state of the client's own. -/
structure HTTPClient (σ : Type) where
  doRequest : HTTPRequest → σ → Except GoError HTTPResponse × σ

/-- `http.NewRequestWithContext`: it fails with the error `parseURL` gives for a URL that does not parse. -/
def newRequest (parseURL : String → Option GoError) (method url : String) (body : Bytes) :
    Except GoError HTTPRequest :=
  match parseURL url with
  | some err => .error err
  | none => .ok ⟨method, url, [], body⟩

/-- `req.Header.Set`. -/
def HTTPRequest.setHeader (req : HTTPRequest) (key value : String) : HTTPRequest :=
  { req with header := req.header.filter (·.1 ≠ key) ++ [(key, value)] }

/-- `DNSOverHTTPSResolver`; `client` is what `client()` returns, `codec` stays optional. -/
structure DNSOverHTTPSResolver (σ : Type) where
  client : HTTPClient σ
  codec : Option DNSCodec
  url : String
  userAgent : String

namespace DNSOverHTTPSResolver

variable {σ : Type} (parseURL : String → Option GoError) (r : DNSOverHTTPSResolver σ)

/-- `codec()`: the configured codec, else `defaultCodec` (`&dnsMiekgCodec{}`). -/
def codecOr (defaultCodec : DNSCodec) : DNSCodec :=
  r.codec.getD defaultCodec

/-- The headers `roundTrip` sets on its request. -/
def withHeaders (req : HTTPRequest) : HTTPRequest :=
  let req := if r.userAgent ≠ "" then req.setHeader "user-agent" r.userAgent else req
  req.setHeader "content-type" "application/dns-message"

/-- `roundTrip`. -/
def roundTrip (query : Bytes) (st : σ) : GoResult Bytes × σ :=
  match newRequest parseURL "POST" r.url query with
  | .error err => (([], some err), st)
  | .ok req =>
    match r.client.doRequest (r.withHeaders req) st with
    | (.error err, st) => (([], some err), st)
    | (.ok resp, st) =>
      if resp.statusCode ≠ 200 then (([], some .dnsServerTemporarilyMisbehaving), st)
      else (resp.body, st)

/-- The generic resolver `LookupHost` builds: padding on, this resolver as the transport. -/
def genericResolver (defaultCodec : DNSCodec) : DNSGenericResolver σ where
  codec := r.codecOr defaultCodec
  padding := true
  t := ⟨r.roundTrip parseURL⟩

@[simp] theorem genericResolver_padding (defaultCodec : DNSCodec) :
    (r.genericResolver parseURL defaultCodec).padding = true :=
  rfl

/-- `LookupHost`, which does not wrap its error. -/
def lookupHost (defaultCodec : DNSCodec) (hostname : String) (st : σ) :
    GoResult (List String) × σ :=
  (r.genericResolver parseURL defaultCodec).lookupHost hostname st

end DNSOverHTTPSResolver

/-- `DNSResolver.LookupHost` over an underlying resolver: an error comes back as `ErrLookupHost`. -/
def dnsResolverLookupHost {σ : Type} (underlying : String → σ → GoResult (List String) × σ)
    (hostname : String) (st : σ) : GoResult (List String) × σ :=
  match underlying hostname st with
  | ((addrs, some err), st) => ((addrs, some (.lookupHost err)), st)
  | ((addrs, none), st) => ((addrs, none), st)

/-! ## The requests on the wire -/

/-- The client that hands every request to `c` and appends it to a log. -/
def HTTPClient.recording {σ : Type} (c : HTTPClient σ) : HTTPClient (σ × List HTTPRequest) where
  doRequest req st :=
    match c.doRequest req st.1 with
    | (result, s) => (result, (s, st.2 ++ [req]))

/-- A request as the DNS-over-HTTPS transport sends a query: a POST of it to `url`. -/
def DoHQuery (url : String) (query : Bytes) (req : HTTPRequest) : Prop :=
  req.method = "POST" ∧ req.url = url ∧ req.body = query ∧
    ("content-type", "application/dns-message") ∈ req.header

theorem newRequest_ok {parseURL : String → Option GoError} {method url : String} {body : Bytes}
    {req : HTTPRequest} (built : newRequest parseURL method url body = .ok req) :
    req = ⟨method, url, [], body⟩ := by
  unfold newRequest at built
  split at built
  · cases built
  · exact (Except.ok.inj built).symm

namespace DNSOverHTTPSResolver

variable {σ : Type} {parseURL : String → Option GoError} (r : DNSOverHTTPSResolver σ)

/-- The headers keep the request's method, URL and body, and add the content type. -/
theorem withHeaders_doHQuery {query : Bytes} {req : HTTPRequest}
    (built : newRequest parseURL "POST" r.url query = .ok req) :
    DoHQuery r.url query (r.withHeaders req) := by
  obtain rfl := newRequest_ok built
  unfold withHeaders
  split_ifs <;> simp [DoHQuery, HTTPRequest.setHeader]

/-- A round trip changes the client's state by one `Do`, or not at all when the URL does not parse. -/
theorem roundTrip_state (query : Bytes) (st : σ) :
    (r.roundTrip parseURL query st).2 =
      match newRequest parseURL "POST" r.url query with
      | .error _ => st
      | .ok req => (r.client.doRequest (r.withHeaders req) st).2 := by
  unfold roundTrip
  split
  · rfl
  · split
    · simp_all
    · split_ifs <;> simp_all

/-- A round trip through the recording client logs at most one request: its query, POSTed. -/
theorem roundTrip_recording {c : HTTPClient σ} {codec : Option DNSCodec} {url userAgent : String}
    {query : Bytes} {st : σ} {log : List HTTPRequest} {req : HTTPRequest}
    (logged : req ∈ ((⟨c.recording, codec, url, userAgent⟩ : DNSOverHTTPSResolver _).roundTrip
      parseURL query (st, log)).2.2) :
    req ∈ log ∨ DoHQuery url query req := by
  rw [roundTrip_state] at logged
  split at logged
  · exact .inl logged
  · next built parsed =>
    simp only [HTTPClient.recording, List.mem_append, List.mem_singleton] at logged
    rcases logged with old | rfl
    · exact .inl old
    · exact .inr (withHeaders_doHQuery _ parsed)

/-- A request of a DNS-over-HTTPS lookup: a POST of a query padded to whole 128-byte blocks. -/
def PaddedDoHQuery (url : String) (req : HTTPRequest) : Prop :=
  DoHQuery url req.body req ∧ req.body.length % 128 = 0

/-- The default codec pads every query it encodes to whole blocks. -/
theorem dnsMiekgCodec_padded {lib : DNSLibrary} {w : Nat} (wide : 7 ≤ w)
    {drawId : UInt16 → UInt16} {hostname : String} {qtype : UInt16} {packed : Bytes}
    (encoded : (dnsMiekgCodec lib w drawId).encodeLookupHostRequest hostname qtype true =
      (packed, none)) :
    packed.length % 128 = 0 := by
  rw [encodeLookupHostRequest_padded_length lib w _ hostname qtype encoded]
  exact paddingRemainder_aligned wide _

section Recording

variable {c : HTTPClient σ} {url userAgent : String} {lib : DNSLibrary} {w : Nat}
  {drawId : UInt16 → UInt16}

/-- One lookup of `LookupHost` logs at most one request, a padded query. -/
theorem doLookupHost_recording (wide : 7 ≤ w) {hostname : String} {qtype : UInt16}
    {st : σ} {log : List HTTPRequest} {req : HTTPRequest}
    (logged : req ∈ (((⟨c.recording, none, url, userAgent⟩ : DNSOverHTTPSResolver _).genericResolver
      parseURL (dnsMiekgCodec lib w drawId)).doLookupHost hostname qtype true (st, log)).2.2) :
    req ∈ log ∨ PaddedDoHQuery url req := by
  rw [DNSGenericResolver.doLookupHost_state] at logged
  unfold DNSGenericResolver.transportAfter at logged
  split at logged
  · exact .inl logged
  · next query encoded =>
    refine (roundTrip_recording logged).imp id fun sent => ⟨?_, ?_⟩
    · rwa [sent.2.2.1]
    · rw [sent.2.2.1]
      exact dnsMiekgCodec_padded wide encoded

/--
With the default codec and a word size of at least 7 bits, every request that
`LookupHost` sends, for every hostname and every behaviour of the HTTP client,
is a POST to the server's URL with the DNS content type whose body is a query
padded to a whole number of 128-byte blocks.
-/
theorem lookupHost_requests_padded (wide : 7 ≤ w) (hostname : String) (st : σ)
    {req : HTTPRequest}
    (sent : req ∈ ((⟨c.recording, none, url, userAgent⟩ : DNSOverHTTPSResolver _).lookupHost
      parseURL (dnsMiekgCodec lib w drawId) hostname (st, [])).2.2) :
    PaddedDoHQuery url req := by
  rcases doLookupHost_recording wide sent with afterA | padded
  · rcases doLookupHost_recording wide afterA with none | padded
    · cases none
    · exact padded
  · exact padded

/-- A DNS-over-HTTPS server that answers every request with 404. -/
def notFoundClient : HTTPClient Unit :=
  ⟨fun _ _ => (.ok ⟨404, ([], none)⟩, ())⟩

theorem lookupHost_requests_padded_notFound :
    ∃ req ∈ ((⟨notFoundClient.recording, none, "doh-server", ""⟩ :
        DNSOverHTTPSResolver _).lookupHost (fun _ => none)
        (dnsMiekgCodec rfc1035Library 64 fun _ => 0) "example.com" ((), [])).2.2,
      PaddedDoHQuery "doh-server" req := by
  obtain ⟨req, sent⟩ := List.exists_mem_of_ne_nil _ (by decide :
    ((⟨notFoundClient.recording, none, "doh-server", ""⟩ :
        DNSOverHTTPSResolver _).lookupHost (fun _ => none)
        (dnsMiekgCodec rfc1035Library 64 fun _ => 0) "example.com" ((), [])).2.2 ≠ [])
  exact ⟨req, sent, lookupHost_requests_padded (by decide) "example.com" () sent⟩

end Recording

section Refusing

/-! A server that refuses every request. -/

variable (defaultCodec : DNSCodec)
  (parses : parseURL r.url = none)
  (refuses : ∀ req s, ∃ resp s', r.client.doRequest req s = (.ok resp, s') ∧ resp.statusCode ≠ 200)

include parses refuses

theorem doLookupHost_of_refusing_encoded {hostname : String} {qtype : UInt16} {st : σ}
    {query : Bytes}
    (encoded : (r.codecOr defaultCodec).encodeLookupHostRequest hostname qtype true =
      (query, none)) :
    ((r.genericResolver parseURL defaultCodec).doLookupHost hostname qtype true st).1 =
      ([], some .dnsServerTemporarilyMisbehaving) := by
  obtain ⟨resp, s', answered, status⟩ := refuses (r.withHeaders ⟨"POST", r.url, [], query⟩) st
  simp [DNSGenericResolver.doLookupHost, genericResolver, encoded, roundTrip, newRequest, parses,
    answered, status]

theorem doLookupHost_of_refusing (hostname : String) (qtype : UInt16) (st : σ) :
    ((r.genericResolver parseURL defaultCodec).doLookupHost hostname qtype true st).1.2.isSome := by
  rcases encoded : (r.codecOr defaultCodec).encodeLookupHostRequest hostname qtype true with
    ⟨query, _ | err⟩
  · simp [r.doLookupHost_of_refusing_encoded defaultCodec parses refuses encoded]
  · simp [DNSGenericResolver.doLookupHost, genericResolver, encoded]

/--
When the URL parses and the server answers every request with a status other
than 200, `DNSResolver.LookupHost` over this resolver fails, for every hostname
whose A query encodes, with `ErrLookupHost` around `ErrDNSServerTemporarilyMisbehaving`
and no address.
-/
theorem dnsResolver_lookupHost_of_refusing (hostname : String) (st : σ)
    (encodesA : ((r.codecOr defaultCodec).encodeLookupHostRequest hostname typeA true).2 = none) :
    (dnsResolverLookupHost (r.lookupHost parseURL defaultCodec) hostname st).1 =
      ([], some (.lookupHost .dnsServerTemporarilyMisbehaving)) := by
  have lookupA : ((r.genericResolver parseURL defaultCodec).doLookupHost hostname typeA true st).1 =
      ([], some .dnsServerTemporarilyMisbehaving) :=
    r.doLookupHost_of_refusing_encoded defaultCodec parses refuses (Prod.ext rfl encodesA)
  have failsAAAA := r.doLookupHost_of_refusing defaultCodec parses refuses hostname typeAAAA
    ((r.genericResolver parseURL defaultCodec).doLookupHost hostname typeA true st).2
  simp only [dnsResolverLookupHost, lookupHost, DNSGenericResolver.lookupHost,
    DNSGenericResolver.asyncLookupHost, mergeReplies, genericResolver_padding, lookupA, failsAAAA,
    Option.isSome_some, and_self, if_true]

end Refusing

/-- A DNS-over-HTTPS resolver whose server answers every request with 404, with the default codec
and no user agent. -/
def notFoundResolver : DNSOverHTTPSResolver Unit :=
  ⟨notFoundClient, none, "doh-server", ""⟩

theorem dnsResolver_lookupHost_of_refusing_notFound :
    (dnsResolverLookupHost (notFoundResolver.lookupHost (fun _ => none)
      (dnsMiekgCodec rfc1035Library 64 fun _ => 0)) "example.com" ()).1 =
      ([], some (.lookupHost .dnsServerTemporarilyMisbehaving)) :=
  notFoundResolver.dnsResolver_lookupHost_of_refusing (dnsMiekgCodec rfc1035Library 64 fun _ => 0)
    rfl (fun _ _ => ⟨_, (), rfl, by decide⟩) "example.com" () (by decide)

end DNSOverHTTPSResolver

end ProbeResolver
