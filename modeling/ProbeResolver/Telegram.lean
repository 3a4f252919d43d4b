namespace ProbeResolver

/-!
# The Telegram test summary

`Telegram.GetTestKeys` turns the test keys of a Telegram measurement, a JSON
object decoded into a `map[string]interface{}`, into the summary the probe
shows: TCP blocking, HTTP blocking, web blocking, and an anomaly when any of
the three is set. A key that is absent or `null` counts as no blocking; a key
that is present is read with a type assertion, which panics when the value has
another type.

The result describes the whole function: it panics exactly when one of the
three keys holds a value of another type than its assertion expects, and
otherwise reports an anomaly exactly when a blocking key holds `true` or the
web status is `"blocked"`.
-/

namespace Telegram

/-- A value of a decoded JSON object, by the dynamic Go type `encoding/json` gives it. -/
inductive Value where
  /-- `nil`: JSON `null`, or an absent key. -/
  | null
  | bool (b : Bool)
  /-- A `float64`; no modelled code reads the number. -/
  | number
  | string (s : String)
  /-- A `[]interface{}`; no modelled code reads the elements. -/
  | array
  /-- A `map[string]interface{}`; no modelled code reads the members. -/
  | object
  deriving Repr, DecidableEq

/-- The name Go's run time prints for the dynamic type of a non-`nil` value. -/
def Value.typeName : Value → String
  | .null => "nil"
  | .bool _ => "bool"
  | .number => "float64"
  | .string _ => "string"
  | .array => "[]interface {}"
  | .object => "map[string]interface {}"

/-- The panic of a failed type assertion `v.(want)`. -/
def conversionPanic (v : Value) (want : String) : String :=
  "interface conversion: interface {} is " ++ v.typeName ++ ", not " ++ want

/-- `v.(bool)`. -/
def assertBool : Value → Except String Bool
  | .bool b => .ok b
  | v => .error (conversionPanic v "bool")

/-- `v.(string)`. -/
def assertString : Value → Except String String
  | .string s => .ok s
  | v => .error (conversionPanic v "string")

/-- `TelegramTestKeys`. -/
structure TelegramTestKeys where
  httpBlocking : Bool
  tcpBlocking : Bool
  webBlocking : Bool
  isAnomaly : Bool
  deriving Repr, DecidableEq

/-- The reading of `telegram_tcp_blocking` and of `telegram_http_blocking`: `false` when `nil`,
else the value asserted to be a `bool`. -/
def blockingKey (tk : String → Value) (key : String) : Except String Bool :=
  if tk key = .null then .ok false else assertBool (tk key)

/-- The reading of `telegram_web_status`: `false` when `nil`, else whether the value, asserted
to be a `string`, is `"blocked"`. -/
def webStatusKey (tk : String → Value) : Except String Bool :=
  if tk "telegram_web_status" = .null then .ok false
  else
    match assertString (tk "telegram_web_status") with
    | .ok status => .ok (status == "blocked")
    | .error panic => .error panic

/-- `GetTestKeys`, with `tk[key]` as `tk key` and a panic as an error. -/
def getTestKeys (tk : String → Value) : Except String TelegramTestKeys := do
  let tcpBlocking ← blockingKey tk "telegram_tcp_blocking"
  let httpBlocking ← blockingKey tk "telegram_http_blocking"
  let webBlocking ← webStatusKey tk
  pure { tcpBlocking, httpBlocking, webBlocking,
         isAnomaly := webBlocking || httpBlocking || tcpBlocking }

/-- A value that `tk[key].(bool)` reads, or `nil`, which is not asserted. -/
def BoolOrNull (v : Value) : Prop :=
  v = .null ∨ ∃ b, v = .bool b

/-- A value that `tk[key].(string)` reads, or `nil`. -/
def StringOrNull (v : Value) : Prop :=
  v = .null ∨ ∃ s, v = .string s

theorem blockingKey_ok {tk : String → Value} {key : String} :
    (∃ b, blockingKey tk key = .ok b) ↔ BoolOrNull (tk key) := by
  unfold blockingKey BoolOrNull
  cases tk key <;> simp [assertBool]

theorem blockingKey_eq {tk : String → Value} {key : String} {b : Bool}
    (read : blockingKey tk key = .ok b) : b = true ↔ tk key = .bool true := by
  unfold blockingKey at read
  cases atKey : tk key <;> cases b <;> simp_all [assertBool]

theorem webStatusKey_ok {tk : String → Value} :
    (∃ b, webStatusKey tk = .ok b) ↔ StringOrNull (tk "telegram_web_status") := by
  unfold webStatusKey StringOrNull
  cases tk "telegram_web_status" <;> simp [assertString]

theorem webStatusKey_eq {tk : String → Value} {b : Bool} (read : webStatusKey tk = .ok b) :
    b = true ↔ tk "telegram_web_status" = .string "blocked" := by
  unfold webStatusKey at read
  cases atKey : tk "telegram_web_status" <;> simp_all [assertString]
  rw [← read, beq_iff_eq]

/--
`GetTestKeys`, for every object of test keys: it panics exactly when one of
`telegram_tcp_blocking`, `telegram_http_blocking` and `telegram_web_status` holds a value of
another type than the `bool`, `bool` and `string` its assertions expect; otherwise each flag is
set exactly when its key holds `true` (the web status `"blocked"`), and the summary reports an
anomaly exactly when one of them is set.
-/
theorem getTestKeys_spec (tk : String → Value) :
    ((∃ keys, getTestKeys tk = .ok keys) ↔
      BoolOrNull (tk "telegram_tcp_blocking") ∧ BoolOrNull (tk "telegram_http_blocking") ∧
        StringOrNull (tk "telegram_web_status")) ∧
    ∀ keys, getTestKeys tk = .ok keys →
      (keys.tcpBlocking = true ↔ tk "telegram_tcp_blocking" = .bool true) ∧
      (keys.httpBlocking = true ↔ tk "telegram_http_blocking" = .bool true) ∧
      (keys.webBlocking = true ↔ tk "telegram_web_status" = .string "blocked") ∧
      (keys.isAnomaly = true ↔ tk "telegram_tcp_blocking" = .bool true ∨
        tk "telegram_http_blocking" = .bool true ∨ tk "telegram_web_status" = .string "blocked") := by
  constructor
  · rw [← blockingKey_ok, ← blockingKey_ok, ← webStatusKey_ok]
    unfold getTestKeys
    cases tcp : blockingKey tk "telegram_tcp_blocking" <;>
      cases http : blockingKey tk "telegram_http_blocking" <;>
      cases web : webStatusKey tk <;> simp [bind, Except.bind, pure, Except.pure]
  · intro keys summarized
    unfold getTestKeys at summarized
    cases tcp : blockingKey tk "telegram_tcp_blocking" <;>
      cases http : blockingKey tk "telegram_http_blocking" <;>
      cases web : webStatusKey tk <;>
      simp only [tcp, http, web, bind, Except.bind, pure, Except.pure, reduceCtorEq,
        Except.ok.injEq] at summarized
    subst summarized
    have tcpSet := blockingKey_eq tcp
    have httpSet := blockingKey_eq http
    have webSet := webStatusKey_eq web
    refine ⟨tcpSet, httpSet, webSet, ?_⟩
    simp only [Bool.or_eq_true, ← tcpSet, ← httpSet, ← webSet, or_comm, or_left_comm]

/-- Test keys of a measurement that saw the Telegram web site blocked, and nothing else. -/
def webBlockedKeys (key : String) : Value :=
  if key = "telegram_web_status" then .string "blocked" else .null

/-- Their summary: web blocking, hence an anomaly. -/
theorem getTestKeys_spec_webBlocked :
    getTestKeys webBlockedKeys =
        .ok { httpBlocking := false, tcpBlocking := false, webBlocking := true, isAnomaly := true } ∧
      ((false = true ↔ webBlockedKeys "telegram_tcp_blocking" = .bool true) ∧
        (false = true ↔ webBlockedKeys "telegram_http_blocking" = .bool true) ∧
        (true = true ↔ webBlockedKeys "telegram_web_status" = .string "blocked") ∧
        (true = true ↔ webBlockedKeys "telegram_tcp_blocking" = .bool true ∨
          webBlockedKeys "telegram_http_blocking" = .bool true ∨
          webBlockedKeys "telegram_web_status" = .string "blocked")) :=
  have summarized : getTestKeys webBlockedKeys =
      .ok { httpBlocking := false, tcpBlocking := false, webBlocking := true, isAnomaly := true } :=
    rfl
  ⟨summarized, (getTestKeys_spec webBlockedKeys).2 _ summarized⟩

end Telegram

end ProbeResolver
