import ProbeResolver.Errors

namespace ProbeResolver

/-!
# DNS messages as the codec sees them

`dnsMiekgCodec` builds and reads `*dns.Msg` values of the `miekg/dns`
library. This module keeps the fields the codec writes or reads: the header
id, the recursion-desired flag, the response code, one question, the answer
records by dynamic type, and the OPT pseudo-record `SetEdns0` adds to the
additional section.

The library itself is not part of the repository. `DNSLibrary` collects the
calls the codec makes, together with the one property of `Len` and `Pack` that
the padding computation relies on: packing an uncompressed message yields
exactly `Len` bytes, and an EDNS0 option adds its 4-byte header and its payload
to the length. `rfc1035Library` is one library with these properties.
-/

/-- `dns.TypeA`. -/
def typeA : UInt16 := 1

/-- `dns.TypeAAAA`. -/
def typeAAAA : UInt16 := 28

/-- `dns.TypeOPT`. -/
def typeOPT : UInt16 := 41

/-- `dns.ClassINET`. -/
def classINET : UInt16 := 1

/-- `dns.RcodeSuccess`. -/
def rcodeSuccess : Int := 0

/-- `dns.RcodeServerFailure`. -/
def rcodeServerFailure : Int := 2

/-- `dns.RcodeNameError`. -/
def rcodeNameError : Int := 3

/-- `net.IP`: the address bytes of an A or AAAA record. -/
abbrev IP := Bytes

/-- An answer record (`dns.RR`), distinguished by its dynamic type. -/
inductive RR where
  /-- `*dns.A`. -/
  | a (ip : IP)
  /-- `*dns.AAAA`. -/
  | aaaa (ip : IP)
  /-- Any other record type (CNAME, DNAME, RRSIG, ...). -/
  | other (rrtype : UInt16)
  deriving Repr, DecidableEq

/-- An EDNS0 option; the codec only ever adds `*dns.EDNS0_PADDING`. -/
inductive EDNS0 where
  | padding (padding : Bytes)
  deriving Repr, DecidableEq

/-- The packed payload of an option (`o.pack()`). -/
def EDNS0.data : EDNS0 → Bytes
  | .padding bytes => bytes

/-- The OPT pseudo-record (`*dns.OPT`) of the additional section. -/
structure OPT where
  udpSize : UInt16
  dnssecOK : Bool
  option : List EDNS0
  deriving Repr, DecidableEq

/-- One entry of the question section (`dns.Question`). -/
structure Question where
  name : String
  qtype : UInt16
  qclass : UInt16
  deriving Repr, DecidableEq

/-- The fields of `dns.Msg` the codec writes or reads. -/
structure Msg where
  id : UInt16
  recursionDesired : Bool
  rcode : Int
  question : List Question
  answer : List RR
  /-- The OPT record `SetEdns0` appends to `Extra`, which is otherwise empty. -/
  edns0 : Option OPT
  deriving Repr, DecidableEq

namespace Msg

/-- `m.SetEdns0(udpsize, do)`: append an OPT record with no options. -/
def setEdns0 (m : Msg) (udpSize : UInt16) (dnssecOK : Bool) : Msg :=
  { m with edns0 := some { udpSize := udpSize, dnssecOK := dnssecOK, option := [] } }

/--
`m.IsEdns0().Option = append(m.IsEdns0().Option, o)`. Without an OPT record
`IsEdns0` is `nil` and Go would panic; the codec always calls `SetEdns0` first.
-/
def appendOption (m : Msg) (o : EDNS0) : Msg :=
  { m with edns0 := m.edns0.map fun opt => { opt with option := opt.option ++ [o] } }

@[simp] theorem setEdns0_edns0 (m : Msg) (udpSize : UInt16) (dnssecOK : Bool) :
    (m.setEdns0 udpSize dnssecOK).edns0 =
      some { udpSize := udpSize, dnssecOK := dnssecOK, option := [] } :=
  rfl

@[simp] theorem appendOption_edns0 (m : Msg) (o : EDNS0) :
    (m.appendOption o).edns0 =
      m.edns0.map fun opt => { opt with option := opt.option ++ [o] } :=
  rfl

end Msg

/--
The library calls of the codec: `dns.Fqdn`, `Msg.Len`, `Msg.Pack`,
`Msg.Unpack` and `net.IP.String`, with the length contract of `Len` and `Pack`
for uncompressed messages.
-/
structure DNSLibrary where
  fqdn : String → String
  len : Msg → Nat
  pack : Msg → GoResult Bytes
  unpack : Bytes → Except GoError Msg
  ipString : IP → String
  pack_length :
    ∀ m packed, pack m = (packed, none) → packed.length = len m
  len_appendOption :
    ∀ m opt o, m.edns0 = some opt →
      len (m.appendOption o) = len m + 4 + o.data.length

/-! ## An RFC 1035 serialiser -/

/-- A 16-bit field in network byte order. -/
def be16 (v : Nat) : Bytes :=
  [(v >>> 8).toUInt8, v.toUInt8]

/-- Wire form of a name: one length-prefixed label per dot-separated part, then the root. -/
def packName (name : String) : Bytes :=
  ((name.splitOn ".").filter (· ≠ "")).foldr
    (fun label rest => label.length.toUInt8 :: label.toList.map (·.toNat.toUInt8) ++ rest) [0]

/-- Wire form of one EDNS0 option: code, length, payload. -/
def packOption : EDNS0 → Bytes
  | .padding bytes => be16 12 ++ be16 bytes.length ++ bytes

/-- Wire form of the OPT record: root owner, type, UDP size, extended flags, options. -/
def packOPT (opt : OPT) : Bytes :=
  let options := (opt.option.map packOption).flatten
  [0] ++ be16 typeOPT.toNat ++ be16 opt.udpSize.toNat ++ be16 0 ++
    be16 (if opt.dnssecOK then 0x8000 else 0) ++ be16 options.length ++ options

/-- Wire form of an answer record's type and data (owner name and TTL are not kept). -/
def packRR : RR → Bytes
  | .a ip => be16 typeA.toNat ++ be16 ip.length ++ ip
  | .aaaa ip => be16 typeAAAA.toNat ++ be16 ip.length ++ ip
  | .other rrtype => be16 rrtype.toNat ++ be16 0

/-- The header, question, answer and additional sections in RFC 1035 order. -/
def packMsg (m : Msg) : Bytes :=
  be16 m.id.toNat ++ be16 (if m.recursionDesired then 0x0100 else 0) ++
    be16 m.question.length ++ be16 m.answer.length ++ be16 0 ++
    be16 m.edns0.toList.length ++
    (m.question.map fun q => packName q.name ++ be16 q.qtype.toNat ++ be16 q.qclass.toNat).flatten ++
    (m.answer.map packRR).flatten ++ (m.edns0.map packOPT).getD []

@[simp] theorem be16_length (v : Nat) : (be16 v).length = 2 :=
  rfl

/-- Adding an option to the OPT record lengthens its wire form by the option's. -/
theorem packOPT_append_length (opt : OPT) (o : EDNS0) :
    (packOPT { opt with option := opt.option ++ [o] }).length =
      (packOPT opt).length + 4 + o.data.length := by
  cases o
  simp [packOPT, packOption, EDNS0.data]
  omega

/-- `dns.Fqdn` for names without escapes, and the RFC 1035 serialiser. -/
def rfc1035Library : DNSLibrary where
  fqdn name := if name.endsWith "." then name else name ++ "."
  len m := (packMsg m).length
  pack m := (packMsg m, none)
  unpack _ := .error (.library "dns: unpacking is not modelled by this serialiser")
  ipString ip := toString ip
  pack_length := by
    intro m packed packed_eq
    cases packed_eq
    rfl
  len_appendOption := by
    intro m opt o has_edns0
    obtain ⟨id, rd, rcode, question, answer, edns0⟩ := m
    cases has_edns0
    simp [packMsg, Msg.appendOption, packOPT_append_length]
    omega

end ProbeResolver
