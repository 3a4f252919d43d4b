import Mathlib.Data.List.Basic
import ProbeResolver.Errors

namespace ProbeResolver

/-!
# Parsing IP literals

`resolverShortCircuitIPAddr` asks `net.ParseIP` whether a hostname is an IP
literal. This module embeds `ParseIP` of Go's `net` package as Go 1.17, the
release the netxlite workflow of the repository tests with, has it: `dtoi` and
`xtoi` read a number, `parseIPv4` reads four dotted octets and rejects leading
zeroes, and `parseIPv6` reads colon-separated groups with at most one `::` and
an optional trailing dotted quad. Inputs are read as characters: every test of
the source is on an ASCII byte, so reading the UTF-8 bytes gives the same answer.

The result of interest is the parser's soundness: every string that `ParseIP`
accepts is made of hexadecimal digits, dots and colons.
-/

/-- `big`: bigger than any number `dtoi` and `xtoi` need, small enough never to overflow. -/
def big : Nat := 0xFFFFFF

/-- A decimal digit as `dtoi` tests and reads it. -/
def decDigit? (c : Char) : Option Nat :=
  if '0' ≤ c ∧ c ≤ '9' then some (c.toNat - '0'.toNat) else none

/-- A hexadecimal digit as `xtoi` tests and reads it, one branch per range. -/
def hexDigit? (c : Char) : Option Nat :=
  if '0' ≤ c ∧ c ≤ '9' then some (c.toNat - '0'.toNat)
  else if 'a' ≤ c ∧ c ≤ 'f' then some (c.toNat - 'a'.toNat + 10)
  else if 'A' ≤ c ∧ c ≤ 'F' then some (c.toNat - 'A'.toNat + 10)
  else none

/--
The loop `dtoi` and `xtoi` share: read digits in `base` from position `i` on,
with `n` the value so far. It returns the number, the characters consumed and
success; on overflow it gives up with `overflow` as the number.
-/
def readDigits (base overflow : Nat) (digit? : Char → Option Nat) (n i : Nat) :
    List Char → Nat × Nat × Bool
  | c :: s =>
    match digit? c with
    | some d =>
      if n * base + d ≥ big then (overflow, i, false)
      else readDigits base overflow digit? (n * base + d) (i + 1) s
    | none => if i = 0 then (0, 0, false) else (n, i, true)
  | [] => if i = 0 then (0, 0, false) else (n, i, true)

/-- `dtoi`: decimal to integer. -/
def dtoi (s : List Char) : Nat × Nat × Bool :=
  readDigits 10 big decDigit? 0 0 s

/-- `xtoi`: hexadecimal to integer. -/
def xtoi (s : List Char) : Nat × Nat × Bool :=
  readDigits 16 0 hexDigit? 0 0 s

/-- `v4InV6Prefix`: the first twelve bytes of an IPv4 address in 16-byte form. -/
def v4InV6Prefix : List UInt8 := [0, 0, 0, 0, 0, 0, 0, 0, 0, 0, 0xff, 0xff]

/-- One octet of `parseIPv4`, read after its separating dot: the octet and the input left. -/
def parseIPv4Octet (s : List Char) : Option (UInt8 × List Char) :=
  match dtoi s with
  | (n, c, ok) =>
    if !ok || n > 0xFF then none
    -- Reject non-zero components with leading zeroes.
    else if c > 1 ∧ s.head? = some '0' then none
    else some (n.toUInt8, s.drop c)

/-- The loop of `parseIPv4` from octet `i` on, with `k` octets still to read. -/
def parseIPv4Loop (i : Nat) : Nat → List Char → Option (List UInt8)
  | 0, s => if s.length ≠ 0 then none else some []
  | k + 1, s =>
    if s.length = 0 then none
    else if i > 0 ∧ s.head? ≠ some '.' then none
    else
      match parseIPv4Octet (if i > 0 then s.drop 1 else s) with
      | none => none
      | some (b, s) => (parseIPv4Loop (i + 1) k s).map (b :: ·)

/-- `parseIPv4`: an address `d.d.d.d`, in 16-byte form. -/
def parseIPv4 (s : List Char) : Option (List UInt8) :=
  (parseIPv4Loop 0 4 s).map (v4InV6Prefix ++ ·)

/--
The loop of `parseIPv6`: `ip` holds the bytes read so far, `ellipsis` where the
`::` stands (`-1` in the source is `none`). It returns the bytes, the ellipsis
and the unread input. Each pass adds two bytes or ends, so eight passes suffice.
-/
def parseIPv6Loop : Nat → List UInt8 → Option Nat → List Char →
    Option (List UInt8 × Option Nat × List Char)
  | 0, ip, ellipsis, s => some (ip, ellipsis, s)
  | fuel + 1, ip, ellipsis, s =>
    if ip.length < 16 then
      match xtoi s with
      | (n, c, ok) =>
        if !ok || n > 0xFFFF then none
        -- If followed by dot, might be in trailing IPv4.
        else if s[c]? = some '.' then
          if ellipsis.isNone ∧ ip.length ≠ 16 - 4 then none
          else if ip.length + 4 > 16 then none
          else
            match parseIPv4 s with
            | none => none
            | some ip4 => some (ip ++ ip4.drop 12, ellipsis, [])
        else
          let ip := ip ++ [(n >>> 8).toUInt8, n.toUInt8]
          let s := s.drop c
          if s.length = 0 then some (ip, ellipsis, s)
          else if s.head? ≠ some ':' ∨ s.length = 1 then none
          else
            let s := s.drop 1
            if s.head? = some ':' then
              if ellipsis.isSome then none
              else
                let s := s.drop 1
                if s.length = 0 then some (ip, some ip.length, s)
                else parseIPv6Loop fuel ip (some ip.length) s
            else parseIPv6Loop fuel ip ellipsis s
    else some (ip, ellipsis, s)

/-- The part of `parseIPv6` after a leading `::`: the loop, then the expansion of the ellipsis. -/
def parseIPv6Groups (ellipsis : Option Nat) (s : List Char) : Option (List UInt8) :=
  match parseIPv6Loop 8 [] ellipsis s with
  | none => none
  | some (ip, ellipsis, s) =>
    -- Must have used entire string.
    if s.length ≠ 0 then none
    else if ip.length < 16 then
      match ellipsis with
      | none => none
      | some e => some (ip.take e ++ List.replicate (16 - ip.length) 0 ++ ip.drop e)
    -- Ellipsis must represent at least one 0 group.
    else if ellipsis.isSome then none
    else some ip

/-- `parseIPv6`: colon-separated groups, a leading `::` read before the loop. -/
def parseIPv6 : List Char → Option (List UInt8)
  | [':', ':'] => some (List.replicate 16 0)
  | ':' :: ':' :: s => parseIPv6Groups (some 0) s
  | s => parseIPv6Groups none s

/-- `ParseIP`: the first dot or colon decides between the two syntaxes. -/
def parseIP (s : String) : Option (List UInt8) :=
  match s.toList.find? (fun c => c = '.' || c = ':') with
  | some c => if c = '.' then parseIPv4 s.toList else parseIPv6 s.toList
  | none => none

example : parseIP "::ffff:10.0.0.1" = some (v4InV6Prefix ++ [10, 0, 0, 1]) := by decide

example : parseIP "010.0.0.1" = none := by decide

/-! ## Accepted literals are hexadecimal digits, dots and colons -/

/-- A character that may stand in an IP literal. -/
def ipLiteralChar (c : Char) : Bool :=
  (hexDigit? c).isSome || c = '.' || c = ':'

section Soundness

theorem ipLiteralChar_of_decDigit? {c : Char} (digit : (decDigit? c).isSome = true) :
    ipLiteralChar c = true := by
  unfold decDigit? at digit
  split_ifs at digit with range
  · simp [ipLiteralChar, hexDigit?, range]
  · simp at digit

theorem ipLiteralChar_of_hexDigit? {c : Char} (digit : (hexDigit? c).isSome = true) :
    ipLiteralChar c = true := by
  simp [ipLiteralChar, digit]

/-- What `readDigits` reports as consumed are characters its `digit?` accepted. -/
theorem readDigits_consumed {base overflow : Nat} {digit? : Char → Option Nat} :
    ∀ {n i m c : Nat} {s : List Char}, readDigits base overflow digit? n i s = (m, c, true) →
      i ≤ c ∧ (s.take (c - i)).all (fun x => (digit? x).isSome) = true
  | n, i, m, c, [], read => by
    simp only [readDigits] at read
    split_ifs at read <;> simp_all
  | n, i, m, c, x :: s, read => by
    simp only [readDigits] at read
    split at read
    · next d accepted =>
      split_ifs at read
      · simp at read
      obtain ⟨le, digits⟩ := readDigits_consumed read
      refine ⟨by omega, ?_⟩
      rw [show c - i = c - (i + 1) + 1 by omega, List.take_succ_cons]
      simp_all
    · split_ifs at read <;> simp_all

theorem all_of_take_drop {p : Char → Bool} {s : List Char} (c : Nat)
    (front : (s.take c).all p = true) (back : (s.drop c).all p = true) : s.all p = true := by
  rw [← List.take_append_drop c s, List.all_append, front, back]
  rfl

theorem all_of_head_drop {p : Char → Bool} {s : List Char} {x : Char}
    (head : s.head? = some x) (px : p x = true) (back : (s.drop 1).all p = true) :
    s.all p = true := by
  cases s with
  | nil => cases head
  | cons y s => simp_all

section Dotted

/-! A dotted quad passes every character test that digits and the dot pass. -/

variable {p : Char → Bool}

/-- Reading one octet consumes decimal digits only. -/
theorem parseIPv4Octet_all (digit : ∀ c, (decDigit? c).isSome = true → p c = true)
    {s rest : List Char} {b : UInt8}
    (read : parseIPv4Octet s = some (b, rest)) (back : rest.all p = true) : s.all p = true := by
  unfold parseIPv4Octet at read
  rcases hd : dtoi s with ⟨n, c, ok⟩
  rw [hd] at read
  dsimp only at read
  split_ifs at read with bad
  obtain ⟨-, rfl⟩ := Prod.mk.inj (Option.some.inj read)
  obtain ⟨rfl, -⟩ : ok = true ∧ n ≤ 255 := by simpa using bad
  obtain ⟨-, digits⟩ := readDigits_consumed hd
  refine all_of_take_drop c ?_ back
  simp only [List.all_eq_true, Nat.sub_zero] at digits ⊢
  exact fun x mem => digit x (digits x mem)

/-- The IPv4 loop accepts only an input made of octets and dots. -/
theorem parseIPv4Loop_all (digit : ∀ c, (decDigit? c).isSome = true → p c = true)
    (dot : p '.' = true) : ∀ {i k : Nat} {s : List Char} {bytes : List UInt8},
      parseIPv4Loop i k s = some bytes → s.all p = true
  | i, 0, s, bytes, parsed => by
    simp only [parseIPv4Loop] at parsed
    split_ifs at parsed with nonempty
    simp_all [List.length_eq_zero]
  | i, k + 1, s, bytes, parsed => by
    unfold parseIPv4Loop at parsed
    by_cases empty : s.length = 0
    · simp [empty] at parsed
    by_cases notDot : i > 0 ∧ s.head? ≠ some '.'
    · simp [notDot] at parsed
    rw [if_neg empty, if_neg notDot] at parsed
    split at parsed
    · cases parsed
    · next b rest read =>
      obtain ⟨_, tail, -⟩ := Option.map_eq_some'.mp parsed
      have back := parseIPv4Octet_all digit read (parseIPv4Loop_all digit dot tail)
      split_ifs at back with first
      · exact all_of_head_drop (by simpa [first] using notDot) dot back
      · exact back

theorem parseIPv4_all (digit : ∀ c, (decDigit? c).isSome = true → p c = true)
    (dot : p '.' = true) {s : List Char} {ip : List UInt8} (parsed : parseIPv4 s = some ip) :
    s.all p = true :=
  have ⟨_, loop, _⟩ := Option.map_eq_some'.mp parsed
  parseIPv4Loop_all digit dot loop

end Dotted

/-- A dotted quad has no colon. -/
theorem parseIPv4_no_colon {s : List Char} {ip : List UInt8} (parsed : parseIPv4 s = some ip) :
    ':' ∉ s := by
  have notColon := parseIPv4_all (p := (· != ':'))
    (fun c digit => bne_iff_ne.mpr (by rintro rfl; exact absurd digit (by decide))) rfl parsed
  exact fun mem => by simpa using List.all_eq_true.mp notColon ':' mem

/-- The IPv6 loop consumes only hexadecimal digits, colons and a trailing dotted quad. -/
theorem parseIPv6Loop_literal : ∀ {fuel : Nat} {ip : List UInt8} {ellipsis : Option Nat}
    {s : List Char} {out : List UInt8 × Option Nat × List Char},
    parseIPv6Loop fuel ip ellipsis s = some out → out.2.2.all ipLiteralChar = true →
      s.all ipLiteralChar = true
  | 0, ip, ellipsis, s, out, parsed, back => by
    simp only [parseIPv6Loop, Option.some.injEq] at parsed
    rwa [← parsed] at back
  | fuel + 1, ip, ellipsis, s, out, parsed, back => by
    unfold parseIPv6Loop at parsed
    rcases hx : xtoi s with ⟨n, c, ok⟩
    rw [hx] at parsed
    dsimp only at parsed
    by_cases room : ip.length < 16
    · rw [if_pos room] at parsed
      cases ok
      · simp at parsed
      -- a group is hexadecimal digits
      have group (rest : (s.drop c).all ipLiteralChar = true) : s.all ipLiteralChar = true := by
        obtain ⟨-, digits⟩ := readDigits_consumed hx
        refine all_of_take_drop c ?_ rest
        simp only [List.all_eq_true, Nat.sub_zero] at digits ⊢
        exact fun x mem => ipLiteralChar_of_hexDigit? (digits x mem)
      have colon {t : List Char} (head : t.head? = some ':')
          (rest : (t.drop 1).all ipLiteralChar = true) : t.all ipLiteralChar = true :=
        all_of_head_drop head (by decide) rest
      by_cases bad : (!true || decide (n > 0xFFFF)) = true
      · rw [if_pos bad] at parsed
        cases parsed
      rw [if_neg bad] at parsed
      by_cases dot : s[c]? = some '.'
      · -- a trailing dotted quad ends the input
        rw [if_pos dot] at parsed
        split at parsed
        · cases parsed
        split at parsed
        · cases parsed
        split at parsed
        · cases parsed
        · exact parseIPv4_all (fun _ => ipLiteralChar_of_decDigit?) rfl ‹_›
      rw [if_neg dot] at parsed
      by_cases ends : (s.drop c).length = 0
      · rw [if_pos ends] at parsed
        exact group (by rwa [← Option.some.inj parsed] at back)
      rw [if_neg ends] at parsed
      by_cases sep : (s.drop c).head? ≠ some ':' ∨ (s.drop c).length = 1
      · rw [if_pos sep] at parsed
        cases parsed
      rw [if_neg sep] at parsed
      have head := not_not.mp (not_or.mp sep).1
      by_cases twice : ((s.drop c).drop 1).head? = some ':'
      · rw [if_pos twice] at parsed
        split at parsed
        · cases parsed
        split at parsed
        · exact group (colon head (colon twice (by rwa [← Option.some.inj parsed] at back)))
        · exact group (colon head (colon twice (parseIPv6Loop_literal parsed back)))
      · rw [if_neg twice] at parsed
        exact group (colon head (parseIPv6Loop_literal parsed back))
    · rw [if_neg room, Option.some.injEq] at parsed
      rwa [← parsed] at back

theorem parseIPv6Groups_literal {ellipsis : Option Nat} {s : List Char} {ip : List UInt8}
    (parsed : parseIPv6Groups ellipsis s = some ip) : s.all ipLiteralChar = true := by
  unfold parseIPv6Groups at parsed
  split at parsed
  · cases parsed
  · next rest loop =>
    have used : rest.length = 0 := by
      by_contra left
      rw [if_pos left] at parsed
      cases parsed
    exact parseIPv6Loop_literal loop (by simp [List.length_eq_zero.mp used])

theorem parseIPv6_literal {s : List Char} {ip : List UInt8} (parsed : parseIPv6 s = some ip) :
    s.all ipLiteralChar = true := by
  unfold parseIPv6 at parsed
  split at parsed
  · rfl
  · simp only [List.all_cons, parseIPv6Groups_literal parsed]
    rfl
  · exact parseIPv6Groups_literal parsed

/-- Every string `ParseIP` accepts is made of hexadecimal digits, dots and colons. -/
theorem parseIP_literal {s : String} {ip : List UInt8} (parsed : parseIP s = some ip) :
    s.toList.all ipLiteralChar = true := by
  unfold parseIP at parsed
  split at parsed
  · split_ifs at parsed
    · exact parseIPv4_all (fun _ => ipLiteralChar_of_decDigit?) rfl parsed
    · exact parseIPv6_literal parsed
  · cases parsed

/-- The characters of an IP literal are ASCII. -/
theorem ipLiteralChar_ascii {c : Char} (literal : ipLiteralChar c = true) : c.toNat < 0x80 := by
  have bound (d : Char) (le : c ≤ d) (ascii : d.toNat < 0x80) : c.toNat < 0x80 :=
    Nat.lt_of_le_of_lt (le : c.toNat ≤ d.toNat) ascii
  unfold ipLiteralChar hexDigit? at literal
  split_ifs at literal with digit lower upper
  · exact bound '9' digit.2 (by decide)
  · exact bound 'f' lower.2 (by decide)
  · exact bound 'F' upper.2 (by decide)
  · simp only [Option.isSome_none, Bool.false_or, Bool.or_eq_true, decide_eq_true_eq] at literal
    rcases literal with rfl | rfl <;> decide

end Soundness

end ProbeResolver
