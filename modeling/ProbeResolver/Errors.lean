import Mathlib.Data.List.Basic
import Mathlib.Algebra.Group.Nat.Basic
import Mathlib.Algebra.Group.Int

namespace ProbeResolver

/-!
# Go errors of the resolver layer

Every `error` value that the modelled code creates, compares or wraps is one
constructor here: the sentinels made with `errors.New` in `oonet/dns.go` and
in the `netxlite` resolver, the wrapper types that embed another error, and one
constructor for every error that a library call returns (`net`, `miekg/dns`,
`idna`, a caller-supplied transport).

Go compares sentinels by pointer, so two sentinels with the same text are still
different values; `errors.As` walks the `Unwrap` chain, which only the wrapper
types that declare `Unwrap` extend.
-/

/-- Wire bytes: Go's `[]byte`, with `nil` and the empty slice identified. -/
abbrev Bytes := List UInt8

/-- The `error` values of the modelled code. -/
inductive GoError where
  /-- `ErrDNSNoSuchHost`. -/
  | dnsNoSuchHost
  /-- `ErrDNSNoAsnwerFromDNSServer`. -/
  | dnsNoAnswerFromDNSServer
  /-- `ErrDNSServerTemporarilyMisbehaving`. -/
  | dnsServerTemporarilyMisbehaving
  /-- `ErrDNSServerMisbehaving`. -/
  | dnsServerMisbehaving
  /-- `errDNSOverTCPTLSQueryTooLong`. -/
  | dnsOverTCPTLSQueryTooLong
  /-- `&errDNSOverTCPTLSRedial{err}`: a failed write, hinting that the caller redial. -/
  | dnsOverTCPTLSRedial (cause : GoError)
  /-- `&ErrLookupHost{err}`, the error `DNSResolver.LookupHost` returns. -/
  | lookupHost (cause : GoError)
  /-- `ErrNoDNSTransport`. -/
  | noDNSTransport
  /-- `ErrDNSIPAddress`. -/
  | dnsIPAddress
  /-- `ErrNoResolver`. -/
  | noResolver
  /-- `*ErrWrapper`: a classified failure, the operation that failed, and the cause. -/
  | errWrapper (failure operation : String) (wrappedErr : GoError)
  /-- `context.Canceled`, what `ctx.Err()` returns after cancellation. -/
  | contextCanceled
  /-- An error returned by a library or by a caller-supplied collaborator. -/
  | library (text : String)
  /-- A run-time panic. Go returns no error then: the goroutine unwinds and, as no layer of the
  resolvers recovers, the process ends. A model function returns it in the error's place, so that a
  call that crashes is told apart from every call that returns. -/
  | runtimePanic (text : String)
  deriving Repr, DecidableEq

namespace GoError

/-- `err.Error()`. An embedded error lends its text to the embedding struct. -/
def message : GoError → String
  | dnsNoSuchHost => "no such host"
  | dnsNoAnswerFromDNSServer => "no answer from DNS server"
  | dnsServerTemporarilyMisbehaving => "server misbehaving"
  | dnsServerMisbehaving => "server misbehaving"
  | dnsOverTCPTLSQueryTooLong => "query too long"
  | dnsOverTCPTLSRedial cause => cause.message
  | lookupHost cause => cause.message
  | noDNSTransport => "operation requires a DNS transport"
  | dnsIPAddress => "ooresolver: expected domain, found IP address"
  | noResolver => "no configured resolver"
  | errWrapper failure _ _ => failure
  | contextCanceled => "context canceled"
  | library text => text
  | runtimePanic text => "runtime error: " ++ text

/--
`errors.Unwrap`. `ErrLookupHost` and `ErrWrapper` declare `Unwrap`;
`errDNSOverTCPTLSRedial` only embeds its cause and so does not.
-/
def unwrap : GoError → Option GoError
  | lookupHost cause => some cause
  | errWrapper _ _ wrappedErr => some wrappedErr
  | _ => none

/-- `errors.As(err, &redial)` with `redial` of type `*errDNSOverTCPTLSRedial`. -/
def asRedial : GoError → Bool
  | dnsOverTCPTLSRedial _ => true
  | lookupHost cause => cause.asRedial
  | errWrapper _ _ wrappedErr => wrappedErr.asRedial
  | _ => false

end GoError

/-- The `(T, error)` pair a Go function returns; `none` is the `nil` error. -/
abbrev GoResult (α : Type) := α × Option GoError

end ProbeResolver
