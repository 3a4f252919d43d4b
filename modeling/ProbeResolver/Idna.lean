import ProbeResolver.ParseIP

namespace ProbeResolver

/-!
# The IDNA step of the resolver chain

`resolverIDNA` calls `idna.ToASCII`, which is `process` of the `Punycode`
profile of `golang.org/x/net/idna` (`idna10.0.0.go`). That profile maps nothing,
validates nothing and checks no length: it decodes every label carrying the ACE
prefix `xn--`, then encodes every label that is not ASCII, and it reports the
first error either loop meets. The Punycode codec itself is a parameter.

The label iterator of the source skips a trailing empty label; an empty label is
neither decoded nor encoded, so visiting every label of the split is the same.
The profile has no bidi rule, so the bidi bookkeeping is left out.

An ASCII name with no label starting with `xn--` comes back unchanged and
without error; in particular every string `ParseIP` accepts does.
-/

/-- `acePrefix`. -/
def acePrefix : List Char := ['x', 'n', '-', '-']

/--
The two Punycode routines `process` calls on one label: `decode` reads the part
after the ACE prefix, `encode` returns the label with the prefix put in front.
-/
structure Punycode where
  decode : List Char → GoResult (List Char)
  encode : List Char → GoResult (List Char)

/-- `ascii`: no byte of the label is at or above `utf8.RuneSelf`. -/
def ascii (label : List Char) : Bool :=
  label.all (·.toNat < 0x80)

/--
One label of the first loop: a label with the ACE prefix is decoded. It returns
the replacement, if the label is set, and the error to record.
-/
def decodeLabel (puny : Punycode) (label : List Char) : Option (List Char) × Option GoError :=
  if acePrefix.isPrefixOf label then
    match puny.decode (label.drop acePrefix.length) with
    -- Spec says keep the old label.
    | (_, some err2) => (none, some err2)
    | (u, none) => (some u, none)
  else (none, none)

/-- One label of the second loop, which `toASCII` runs: a label that is not ASCII is encoded. -/
def encodeLabel (puny : Punycode) (label : List Char) : Option (List Char) × Option GoError :=
  if !ascii label then
    match puny.encode label with
    | (a, err2) => (some a, err2)
  else (none, none)

/--
One loop of `process` over the labels: `visit` each label, set it when `visit`
gives a replacement, and keep the first error (`if err == nil { err = err2 }`).
It also reports whether any label was set, that is whether the iterator now
holds a slice.
-/
def processLabels (visit : List Char → Option (List Char) × Option GoError) :
    Option GoError → List (List Char) → List (List Char) × Option GoError × Bool
  | err, [] => ([], err, false)
  | err, label :: labels =>
    match visit label with
    | (set, err2) =>
      match processLabels visit (err.or err2) labels with
      | (rest, err, changed) => (set.getD label :: rest, err, set.isSome || changed)

/--
`idna.ToASCII`: the two loops over the labels of `s`; the result is the joined
labels once one was set, and `s` itself otherwise.
-/
def toASCII (puny : Punycode) (s : String) : GoResult String :=
  match processLabels (decodeLabel puny) none (s.toList.splitOn '.') with
  | (labels, err, decoded) =>
    match processLabels (encodeLabel puny) err labels with
    | (labels, err, encoded) =>
      (if decoded || encoded then String.mk (['.'].intercalate labels) else s, err)

/-! ## Names that `toASCII` leaves alone -/

section Unchanged

variable {visit : List Char → Option (List Char) × Option GoError}

/-- A loop in which no label is visited to any effect sets nothing and keeps the error. -/
theorem processLabels_of_noop :
    ∀ {err : Option GoError} {labels : List (List Char)},
      (∀ label ∈ labels, visit label = (none, none)) →
        processLabels visit err labels = (labels, err, false)
  | _, [], _ => rfl
  | err, label :: labels, noop => by
    have rest (e : Option GoError) : processLabels visit e labels = (labels, e, false) :=
      processLabels_of_noop fun l mem => noop l (List.mem_cons_of_mem _ mem)
    simp [processLabels, noop label (List.mem_cons_self _ _), rest]

theorem decodeLabel_of_not_ace {puny : Punycode} {label : List Char}
    (plain : acePrefix.isPrefixOf label = false) : decodeLabel puny label = (none, none) := by
  simp [decodeLabel, plain]

theorem encodeLabel_of_ascii {puny : Punycode} {label : List Char}
    (isAscii : ascii label = true) : encodeLabel puny label = (none, none) := by
  simp [encodeLabel, isAscii]

/-- An ASCII name without an ACE label is its own ASCII form, and no error is reported. -/
theorem toASCII_of_plain (puny : Punycode) {s : String}
    (plain : ∀ label ∈ s.toList.splitOn '.',
      acePrefix.isPrefixOf label = false ∧ ascii label = true) :
    toASCII puny s = (s, none) := by
  have decoded : processLabels (decodeLabel puny) none (s.toList.splitOn '.') =
      (s.toList.splitOn '.', none, false) :=
    processLabels_of_noop fun label mem => decodeLabel_of_not_ace (plain label mem).1
  have encoded : processLabels (encodeLabel puny) none (s.toList.splitOn '.') =
      (s.toList.splitOn '.', none, false) :=
    processLabels_of_noop fun label mem => encodeLabel_of_ascii (plain label mem).2
  simp only [toASCII, decoded, encoded]
  rfl

/-- The labels of a split have only characters of the string split. -/
theorem all_of_mem_splitOnP_go {p q : Char → Bool} :
    ∀ {l acc : List Char}, l.all q = true → acc.all q = true →
      ∀ label ∈ List.splitOnP.go p l acc, label.all q = true
  | [], acc, _, front, label, mem => by
    simp only [List.splitOnP.go, List.mem_singleton] at mem
    simpa [mem] using front
  | c :: l, acc, all, front, label, mem => by
    simp only [List.all_cons, Bool.and_eq_true] at all
    unfold List.splitOnP.go at mem
    split_ifs at mem
    · rcases List.mem_cons.mp mem with rfl | mem
      · simpa using front
      · exact all_of_mem_splitOnP_go all.2 List.all_nil label mem
    · exact all_of_mem_splitOnP_go all.2 (by simp [front, all.1]) label mem

/-- `ToASCII` leaves every string that `ParseIP` accepts unchanged, without error. -/
theorem toASCII_of_parseIP (puny : Punycode) {s : String} {ip : List UInt8}
    (parsed : parseIP s = some ip) : toASCII puny s = (s, none) := by
  refine toASCII_of_plain puny fun label mem => ?_
  have literal : label.all ipLiteralChar = true :=
    all_of_mem_splitOnP_go (parseIP_literal parsed) List.all_nil label mem
  constructor
  · cases label with
    | nil => rfl
    | cons c label =>
      have notX : 'x' ≠ c := by
        rintro rfl
        exact absurd (List.all_eq_true.mp literal 'x' (List.mem_cons_self _ _)) (by decide)
      simp [acePrefix, List.isPrefixOf, notX]
  · simp only [ascii, List.all_eq_true, decide_eq_true_eq] at literal ⊢
    exact fun c mem => ipLiteralChar_ascii (literal c mem)

end Unchanged

end ProbeResolver
