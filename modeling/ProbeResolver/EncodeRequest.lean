import ProbeResolver.DNSMessage

namespace ProbeResolver

/-!
# Encoding a LookupHost query and its EDNS0 padding

`dnsMiekgCodec.EncodeLookupHostRequest` builds a recursive query with one
question. With padding on, it adds an OPT record and then a padding option
sized by

```text
remainder := (desiredBlockSize - uint(query.Len()+4)) % desiredBlockSize
```

where `query.Len()` already counts the OPT record and `4` is the header of the
padding option itself. The subtraction is in Go's `uint`, whose width `w` is 32
or 64 bits, so it wraps whenever the query is longer than a block. Because
`2 ^ w` is a multiple of 128 as soon as `w ≥ 7`, the wrap is invisible modulo
128: the remainder is the distance from `query.Len()+4` to the next multiple
of 128, and the packed query ends exactly on a block boundary.
-/

/-- `desiredBlockSize`: padded queries are a multiple of this many bytes. -/
def desiredBlockSize : Nat := 128

/-- `EDNS0MaxResponseSize`. -/
def edns0MaxResponseSize : UInt16 := 4096

/-- `DNSSECEnabled`. -/
def dnssecEnabled : Bool := true

/--
`(desiredBlockSize - uint(query.Len()+4)) % desiredBlockSize` in Go's `w`-bit
`uint`: the `int` sum converted to `uint` keeps its low `w` bits.
-/
def paddingRemainder (w queryLen : Nat) : Nat :=
  ((BitVec.ofNat w desiredBlockSize - BitVec.ofNat w (queryLen + 4)) %
    BitVec.ofNat w desiredBlockSize).toNat

/-- The query before the `if padding` block: id, RD flag and one IN question. -/
def baseQuery (lib : DNSLibrary) (id : UInt16) (domain : String) (qtype : UInt16) : Msg where
  id := id
  recursionDesired := true
  rcode := 0
  question := [{ name := lib.fqdn domain, qtype := qtype, qclass := classINET }]
  answer := []
  edns0 := none

/-- The query after `SetEdns0` and before the padding option: what `query.Len()` measures. -/
def edns0Query (lib : DNSLibrary) (id : UInt16) (domain : String) (qtype : UInt16) : Msg :=
  (baseQuery lib id domain qtype).setEdns0 edns0MaxResponseSize dnssecEnabled

/-- The message `EncodeLookupHostRequest` packs; `id` is the draw of `dns.Id()`. -/
def lookupHostQuery (lib : DNSLibrary) (w : Nat) (id : UInt16) (domain : String)
    (qtype : UInt16) (padding : Bool) : Msg :=
  if padding then
    let query := edns0Query lib id domain qtype
    let remainder := paddingRemainder w (lib.len query)
    query.appendOption (.padding (List.replicate remainder 0))
  else
    baseQuery lib id domain qtype

/-- `dnsMiekgCodec.EncodeLookupHostRequest`. -/
def encodeLookupHostRequest (lib : DNSLibrary) (w : Nat) (id : UInt16) (domain : String)
    (qtype : UInt16) (padding : Bool) : GoResult Bytes :=
  lib.pack (lookupHostQuery lib w id domain qtype padding)

/-! ## The remainder modulo a word size -/

section Arithmetic

variable {w : Nat}

/-- From 7 bits on, the word size is a whole number of blocks. -/
theorem block_dvd_wordSize (wide : 7 ≤ w) : 128 ∣ 2 ^ w :=
  Nat.pow_dvd_pow 2 wide

/-- The `uint` computation is the distance to the next block boundary. -/
theorem paddingRemainder_eq (wide : 7 ≤ w) (queryLen : Nat) :
    paddingRemainder w queryLen = (128 - (queryLen + 4) % 128) % 128 := by
  have blocks := block_dvd_wordSize wide
  obtain ⟨k, wordSize⟩ := blocks
  have lowBits : (queryLen + 4) % 2 ^ w % 128 = (queryLen + 4) % 128 :=
    Nat.mod_mod_of_dvd _ (block_dvd_wordSize wide)
  have inWord : (queryLen + 4) % 2 ^ w < 2 ^ w := Nat.mod_lt _ (Nat.two_pow_pos w)
  simp only [paddingRemainder, desiredBlockSize, BitVec.toNat_umod, BitVec.toNat_sub,
    BitVec.toNat_ofNat]
  rcases Nat.eq_or_lt_of_le wide with rfl | wider
  · simp only [Nat.reducePow, Nat.mod_self, Nat.mod_zero]
    omega
  · have blockFits : 128 % 2 ^ w = 128 :=
      Nat.mod_eq_of_lt (Nat.pow_lt_pow_right (by decide) wider : 2 ^ 7 < 2 ^ w)
    rw [blockFits, Nat.mod_mod_of_dvd _ (block_dvd_wordSize wide)]
    omega

theorem paddingRemainder_lt (wide : 7 ≤ w) (queryLen : Nat) :
    paddingRemainder w queryLen < 128 := by
  rw [paddingRemainder_eq wide]
  omega

/-- The padded length is a multiple of the block size. -/
theorem paddingRemainder_aligned (wide : 7 ≤ w) (queryLen : Nat) :
    (queryLen + 4 + paddingRemainder w queryLen) % 128 = 0 := by
  rw [paddingRemainder_eq wide]
  omega

/-- No smaller multiple of the block size holds the query and the option header. -/
theorem paddingRemainder_least (wide : 7 ≤ w) (queryLen m : Nat)
    (aligned : m % 128 = 0) (fits : queryLen + 4 ≤ m) :
    queryLen + 4 + paddingRemainder w queryLen ≤ m := by
  rw [paddingRemainder_eq wide]
  omega

/-- The remainder Go's wrapping `uint` arithmetic gives, read in the integers:
`((128 - (L+4)) mod 2^w) mod 128`. -/
theorem paddingRemainder_wrap (wide : 7 ≤ w) (queryLen : Nat) :
    (paddingRemainder w queryLen : Int) = ((128 - (queryLen + 4 : Int)) % 2 ^ w) % 128 := by
  have blocks : (128 : Int) ∣ 2 ^ w := by
    exact_mod_cast block_dvd_wordSize wide
  rw [Int.emod_emod_of_dvd _ blocks, paddingRemainder_eq wide]
  omega

/-- The padded length, `queryLen + 4` rounded up to a whole number of blocks. -/
theorem paddedLength_eq_blocks (wide : 7 ≤ w) (queryLen : Nat) :
    queryLen + 4 + paddingRemainder w queryLen = 128 * ((queryLen + 4 + 127) / 128) := by
  rw [paddingRemainder_eq wide]
  omega

end Arithmetic

/-! ## The padded query -/

section Padded

variable (lib : DNSLibrary) (w : Nat) (id : UInt16) (domain : String) (qtype : UInt16)

/-- With padding on, the OPT record carries exactly one option: the computed padding. -/
theorem lookupHostQuery_padded_edns0 :
    (lookupHostQuery lib w id domain qtype true).edns0 =
      some { udpSize := edns0MaxResponseSize, dnssecOK := dnssecEnabled,
             option := [.padding (List.replicate
               (paddingRemainder w (lib.len (edns0Query lib id domain qtype))) 0)] } :=
  rfl

/-- The padding option adds its header and payload to `query.Len()`. -/
theorem lookupHostQuery_padded_len :
    lib.len (lookupHostQuery lib w id domain qtype true) =
      lib.len (edns0Query lib id domain qtype) + 4 +
        paddingRemainder w (lib.len (edns0Query lib id domain qtype)) := by
  simp only [lookupHostQuery, ↓reduceIte]
  rw [lib.len_appendOption (edns0Query lib id domain qtype) _ _ rfl]
  simp [EDNS0.data]

/-- A packed padded query is exactly as long as its `Len`. -/
theorem encodeLookupHostRequest_padded_length {packed : Bytes}
    (packs : encodeLookupHostRequest lib w id domain qtype true = (packed, none)) :
    packed.length =
      lib.len (edns0Query lib id domain qtype) + 4 +
        paddingRemainder w (lib.len (edns0Query lib id domain qtype)) := by
  rw [lib.pack_length _ _ packs, lookupHostQuery_padded_len]

end Padded

/--
For every word size of at least 7 bits, the padding option of a successfully
encoded query holds `((128 - (L+4)) mod 2^w) mod 128` zero bytes, where `L` is
`query.Len()` with the OPT record; that count is below 128 and brings `L + 4`
to the least multiple of 128 above it, which is the packed length. So two
queries whose `L + 4` round up to the same number of blocks pack to the same
length.
-/
theorem encodeLookupHostRequest_padding (lib : DNSLibrary) {w : Nat} (wide : 7 ≤ w) :
    (∀ id domain qtype,
      let queryLen := lib.len (edns0Query lib id domain qtype)
      let remainder := paddingRemainder w queryLen
      (remainder : Int) = ((128 - (queryLen + 4 : Int)) % 2 ^ w) % 128 ∧
      remainder < 128 ∧
      (queryLen + 4 + remainder) % 128 = 0 ∧
      (∀ m, m % 128 = 0 → queryLen + 4 ≤ m → queryLen + 4 + remainder ≤ m) ∧
      (lookupHostQuery lib w id domain qtype true).edns0 =
        some { udpSize := edns0MaxResponseSize, dnssecOK := dnssecEnabled,
               option := [.padding (List.replicate remainder 0)] } ∧
      ∀ packed, encodeLookupHostRequest lib w id domain qtype true = (packed, none) →
        packed.length = queryLen + 4 + remainder) ∧
    (∀ id₁ domain₁ qtype₁ packed₁ id₂ domain₂ qtype₂ packed₂,
      (lib.len (edns0Query lib id₁ domain₁ qtype₁) + 4 + 127) / 128 =
        (lib.len (edns0Query lib id₂ domain₂ qtype₂) + 4 + 127) / 128 →
      encodeLookupHostRequest lib w id₁ domain₁ qtype₁ true = (packed₁, none) →
      encodeLookupHostRequest lib w id₂ domain₂ qtype₂ true = (packed₂, none) →
      packed₁.length = packed₂.length) := by
  refine ⟨fun id domain qtype => ?_, ?_⟩
  · exact ⟨paddingRemainder_wrap wide _, paddingRemainder_lt wide _,
      paddingRemainder_aligned wide _, paddingRemainder_least wide _,
      lookupHostQuery_padded_edns0 .., fun _ packs =>
        encodeLookupHostRequest_padded_length lib w id domain qtype packs⟩
  · intro id₁ domain₁ qtype₁ packed₁ id₂ domain₂ qtype₂ packed₂ sameBlocks packs₁ packs₂
    rw [encodeLookupHostRequest_padded_length _ _ _ _ _ packs₁,
      encodeLookupHostRequest_padded_length _ _ _ _ _ packs₂,
      paddedLength_eq_blocks wide, paddedLength_eq_blocks wide, sameBlocks]

/- `String.endsWith` and `String.splitOn` are well-founded recursions: they are unsealed to
evaluate `dns.Fqdn` and the labels of a name. -/
unseal String.substrEq.loop String.splitOnAux in
/-- The A query for `example.com` with its OPT record: a 12-byte header, 13 bytes of name,
4 of type and class, 11 of OPT record. -/
theorem edns0Query_example_com_len :
    rfc1035Library.len (edns0Query rfc1035Library 0 "example.com" typeA) = 40 := by
  decide

/-- The padding contract on a 64-bit `uint`, with the RFC 1035 serialiser, and the A query for
`example.com`: 40 bytes, 44 with the option's header, padded to 128. -/
theorem encodeLookupHostRequest_padding_uint64 :
    7 ≤ 64 ∧
    (∀ id domain qtype,
      let queryLen := rfc1035Library.len (edns0Query rfc1035Library id domain qtype)
      let remainder := paddingRemainder 64 queryLen
      (remainder : Int) = ((128 - (queryLen + 4 : Int)) % 2 ^ 64) % 128 ∧
      remainder < 128 ∧
      (queryLen + 4 + remainder) % 128 = 0 ∧
      (∀ m, m % 128 = 0 → queryLen + 4 ≤ m → queryLen + 4 + remainder ≤ m) ∧
      (lookupHostQuery rfc1035Library 64 id domain qtype true).edns0 =
        some { udpSize := edns0MaxResponseSize, dnssecOK := dnssecEnabled,
               option := [.padding (List.replicate remainder 0)] } ∧
      ∀ packed, encodeLookupHostRequest rfc1035Library 64 id domain qtype true = (packed, none) →
        packed.length = queryLen + 4 + remainder) ∧
    (∀ id₁ domain₁ qtype₁ packed₁ id₂ domain₂ qtype₂ packed₂,
      (rfc1035Library.len (edns0Query rfc1035Library id₁ domain₁ qtype₁) + 4 + 127) / 128 =
        (rfc1035Library.len (edns0Query rfc1035Library id₂ domain₂ qtype₂) + 4 + 127) / 128 →
      encodeLookupHostRequest rfc1035Library 64 id₁ domain₁ qtype₁ true = (packed₁, none) →
      encodeLookupHostRequest rfc1035Library 64 id₂ domain₂ qtype₂ true = (packed₂, none) →
      packed₁.length = packed₂.length) ∧
    rfc1035Library.len (edns0Query rfc1035Library 0 "example.com" typeA) = 40 ∧
    paddingRemainder 64 40 = 84 ∧
    ∃ packed, encodeLookupHostRequest rfc1035Library 64 0 "example.com" typeA true = (packed, none) ∧
      packed.length = 128 :=
  have contract := encodeLookupHostRequest_padding rfc1035Library (w := 64) (by decide)
  have queryLen := edns0Query_example_com_len
  have remainder : paddingRemainder 64 40 = 84 := by decide
  ⟨by decide, contract.1, contract.2, queryLen, remainder, _, rfl, by
    rw [(contract.1 0 "example.com" typeA).2.2.2.2.2 _ rfl, queryLen, remainder]⟩

end ProbeResolver
