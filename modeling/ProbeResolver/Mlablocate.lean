import ProbeResolver.DnsOverHttps

namespace ProbeResolver

/-!
# The locate API client

`mlablocate.Client.Query` asks version 1 of the locate API which server a tool
should use: it GETs `scheme://hostname/tool` with the client's user agent,
fails on a status other than 200, reads the body and decodes it as JSON into a
`Result`, whose FQDN must not be empty.

The HTTP client is any `Do` over a state of its own, as for DNS over HTTPS.
`url.URL.String`, the `url.Parse` inside `http.NewRequestWithContext` and
`json.Unmarshal` are library code and come in as parameters; the logger only
logs and is left out. The results are the contract the function's comment
states, that it returns either a valid result or an error, and what it sends:
at most one request, the GET it builds, and exactly one when the URL parses.
-/

/-- `req.Header.Add`. -/
def HTTPRequest.addHeader (req : HTTPRequest) (key value : String) : HTTPRequest :=
  { req with header := req.header ++ [(key, value)] }

namespace Mlablocate

/-- `Result`: the FQDN of the server, and its site. -/
structure LocateResult where
  fqdn : String
  site : String
  deriving Repr, DecidableEq

/-- `Result{}`. -/
def LocateResult.zero : LocateResult := ⟨"", ""⟩

/-- The library code `Query` calls. -/
structure Library where
  /-- `(&url.URL{Scheme: scheme, Host: host, Path: path}).String()`. -/
  urlString : String → String → String → String
  /-- The error `url.Parse` gives for a URL that does not parse. -/
  parseURL : String → Option GoError
  /-- `json.Unmarshal(data, &result)` into a zero `Result`. -/
  unmarshal : Bytes → Except GoError LocateResult

/-- `Client`, without its logger. -/
structure Client (σ : Type) where
  httpClient : HTTPClient σ
  hostname : String
  scheme : String
  userAgent : String

/-- `NewClient`. -/
def newClient {σ : Type} (httpClient : HTTPClient σ) (userAgent : String) : Client σ :=
  { httpClient, hostname := "locate.measurementlab.net", scheme := "https", userAgent }

/-- `fmt.Errorf("mlablocate: non-200 status code: %d", resp.StatusCode)`. -/
def non200Error (statusCode : Nat) : GoError :=
  .library ("mlablocate: non-200 status code: " ++ toString statusCode)

/-- `errors.New("mlablocate: returned empty FQDN")`. -/
def emptyFQDNError : GoError :=
  .library "mlablocate: returned empty FQDN"

section Query

variable {σ : Type} (lib : Library) (c : Client σ)

/-- The URL `Query` asks for `tool`. -/
def Client.locateURL (tool : String) : String :=
  lib.urlString c.scheme c.hostname tool

/-- What `Query` does once `Do` returned a response: check the status, read the body, decode it,
check the FQDN. -/
def decodeResponse (resp : HTTPResponse) : GoResult LocateResult :=
  if resp.statusCode ≠ 200 then (.zero, some (non200Error resp.statusCode))
  else
    match resp.body with
    | (_, some err) => (.zero, some err)
    | (data, none) =>
      match lib.unmarshal data with
      | .error err => (.zero, some err)
      | .ok result => if result.fqdn = "" then (.zero, some emptyFQDNError) else (result, none)

/-- `Query`: the decoded result, or `Result{}` and the error of the step that failed. -/
def Client.query (tool : String) (st : σ) : GoResult LocateResult × σ :=
  match newRequest lib.parseURL "GET" (c.locateURL lib tool) [] with
  | .error err => ((.zero, some err), st)
  | .ok req =>
    match c.httpClient.doRequest (req.addHeader "User-Agent" c.userAgent) st with
    | (.error err, st) => ((.zero, some err), st)
    | (.ok resp, st) => (decodeResponse lib resp, st)

/-- A result `Query` may return: a valid one, with an FQDN, and no error; or `Result{}` and an
error. -/
def Valid (out : GoResult LocateResult) : Prop :=
  (out.2 = none ∧ out.1.fqdn ≠ "") ∨ (out.2.isSome ∧ out.1 = .zero)

/-- Every way `Query` goes on after the response arrives ends in a valid result. -/
theorem decodeResponse_valid (resp : HTTPResponse) : Valid (decodeResponse lib resp) := by
  unfold decodeResponse
  split
  · exact .inr ⟨rfl, rfl⟩
  · split
    · exact .inr ⟨rfl, rfl⟩
    · split
      · exact .inr ⟨rfl, rfl⟩
      · split
        · exact .inr ⟨rfl, rfl⟩
        · exact .inl ⟨rfl, ‹_›⟩

/--
What the comment of `Query` promises, for every HTTP client, every library, every tool and every
state of the client: it returns either a valid result, with a non-empty FQDN and a `nil` error,
or `Result{}` and an error; never a result and an error together, never an empty FQDN as success.
-/
theorem query_valid_or_error (tool : String) (st : σ) : Valid (c.query lib tool st).1 := by
  unfold Client.query
  split
  · exact .inr ⟨rfl, rfl⟩
  · split
    · exact .inr ⟨rfl, rfl⟩
    · exact decodeResponse_valid lib _

/--
What `Query` sends, seen through a client that logs every request it is given, for every client,
library, tool, state and log: nothing when the URL does not parse; otherwise exactly one request,
a GET of the locate URL with the client's user agent and no body, whatever the server answers.
-/
theorem query_sends_one_get (tool : String) (st : σ) (log : List HTTPRequest) :
    (lib.parseURL (c.locateURL lib tool) = none ∧
      ({ c with httpClient := c.httpClient.recording }.query lib tool (st, log)).2.2 =
        log ++ [⟨"GET", c.locateURL lib tool, [("User-Agent", c.userAgent)], []⟩]) ∨
    ((lib.parseURL (c.locateURL lib tool)).isSome ∧
      ({ c with httpClient := c.httpClient.recording }.query lib tool (st, log)).2.2 = log) := by
  have sameURL : Client.locateURL lib { c with httpClient := c.httpClient.recording } tool =
      c.locateURL lib tool := rfl
  unfold Client.query
  rw [sameURL]
  cases parsed : lib.parseURL (c.locateURL lib tool) with
  | some err =>
      exact .inr ⟨rfl, by simp [newRequest, parsed]⟩
  | none =>
      refine .inl ⟨rfl, ?_⟩
      simp only [newRequest, parsed, HTTPClient.recording, HTTPRequest.addHeader, List.nil_append]
      rcases answered : c.httpClient.doRequest
        ⟨"GET", c.locateURL lib tool, [("User-Agent", c.userAgent)], []⟩ st with ⟨_ | _, _⟩ <;>
        simp [answered]

end Query

end Mlablocate

end ProbeResolver
