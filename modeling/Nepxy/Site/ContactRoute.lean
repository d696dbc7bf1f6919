import Nepxy.Js.Json

/-!
# The contact route

`POST` of `app/api/contact/route.ts`. The body is read as text and parsed; a parse failure is
caught and answered with a 400. The three field reads come after the `try`, so they are not
guarded: a body whose JSON value is `null` makes the first read throw a `TypeError` out of the
handler. For every other body the handler answers, with the 400 of a missing field unless all
three fields are strings with a character outside white space.

The body is modelled as the text `request.json()` decodes from the bytes; every byte string
decodes to some text, so what holds for every text holds for every body.
-/

namespace Nepxy.Site
open Nepxy.Js Nepxy.Js.JsString

structure Response where
  status : Nat
  body : JsonValue
  deriving DecidableEq, Repr

structure Submission where
  name : JsString
  email : JsString
  message : JsString
  deriving DecidableEq, Repr

def errorResponse (message : JsString) : Response :=
  ⟨400, .object [(ofString "error", .string message)]⟩

def okResponse : Response := ⟨200, .object [(ofString "ok", .bool true)]⟩

def trimmedField (payload : JsonValue) (key : JsString) : Except Throw JsString := do
  match ← getProperty payload key with
  | some (.string s) => pure (trim s)
  | _ => pure []

def post (body : JsString) : Except Throw (Response × List Submission) :=
  match jsonParse body with
  | .error _ => .ok (errorResponse (ofString "Invalid JSON payload."), [])
  | .ok payload => do
    let name ← trimmedField payload (ofString "name")
    let email ← trimmedField payload (ofString "email")
    let message ← trimmedField payload (ofString "message")
    if name.isEmpty || email.isEmpty || message.isEmpty then
      pure (errorResponse (ofString "Name, email, and message are required."), [])
    else pure (okResponse, [⟨name, email, message⟩])

def stringField (v : JsonValue) (key : JsString) : JsString :=
  match v with
  | .object members =>
    match members.reverse.lookup key with
    | some (.string s) => trim s
    | _ => []
  | _ => []

theorem trimmedField_null (key : JsString) : trimmedField .null key = .error .typeError := rfl

theorem trimmedField_of_ne_null {v : JsonValue} (h : v ≠ .null) (key : JsString) :
    trimmedField v key = .ok (stringField v key) := by
  cases v with
  | null => exact absurd rfl h
  | object members =>
    simp only [trimmedField, getProperty, stringField]
    generalize members.reverse.lookup key = read
    rcases read with _ | ⟨_ | _ | _ | s | _ | _⟩ <;> rfl
  | _ => rfl

theorem post_of_parse_error {body : JsString} {e : Throw} (h : jsonParse body = .error e) :
    post body = .ok (errorResponse (ofString "Invalid JSON payload."), []) := by
  simp [post, h]

theorem post_of_parse_null {body : JsString} (h : jsonParse body = .ok .null) :
    post body = .error .typeError := by
  simp [post, h, trimmedField_null]
  rfl

theorem post_of_parse_value {body : JsString} {v : JsonValue} (h : jsonParse body = .ok v)
    (hv : v ≠ .null) :
    post body =
      let name := stringField v (ofString "name")
      let email := stringField v (ofString "email")
      let message := stringField v (ofString "message")
      if name.isEmpty || email.isEmpty || message.isEmpty then
        .ok (errorResponse (ofString "Name, email, and message are required."), [])
      else .ok (okResponse, [⟨name, email, message⟩]) := by
  simp only [post, h, trimmedField_of_ne_null hv]
  rfl

/-- The value is an object whose member `key`, as a read finds it, is a string with a character
outside white space. -/
def HasText (v : JsonValue) (key : JsString) : Prop :=
  ∃ members s, v = .object members ∧ members.reverse.lookup key = some (.string s) ∧ trim s ≠ []

theorem stringField_ne_nil_iff {v : JsonValue} {key : JsString} :
    stringField v key ≠ [] ↔ HasText v key := by
  unfold stringField HasText
  cases v with
  | object members =>
    simp only [JsonValue.object.injEq, exists_eq_left']
    split
    · next s hs => simp [hs]
    · next hs => simpa using fun s h => absurd h (hs s)
  | _ => simp

instance (v : JsonValue) (key : JsString) : Decidable (HasText v key) :=
  decidable_of_iff _ stringField_ne_nil_iff

def ContactFields (v : JsonValue) : Prop :=
  HasText v (ofString "name") ∧ HasText v (ofString "email") ∧ HasText v (ofString "message")

instance (v : JsonValue) : Decidable (ContactFields v) := inferInstanceAs (Decidable (_ ∧ _))

def submissionOf (v : JsonValue) : Submission :=
  ⟨stringField v (ofString "name"), stringField v (ofString "email"),
    stringField v (ofString "message")⟩

/-- Every body: a parse failure is answered with the invalid-JSON 400, `null` throws, an accepted
submission is answered with `{ok: true}` and logged with its trimmed fields, and any other value
gets the missing-field 400. -/
theorem post_spec (body : JsString) :
    match jsonParse body with
    | .error _ => post body = .ok (errorResponse (ofString "Invalid JSON payload."), [])
    | .ok .null => post body = .error .typeError
    | .ok v =>
      if ContactFields v then post body = .ok (okResponse, [submissionOf v])
      else post body = .ok (errorResponse (ofString "Name, email, and message are required."), [])
    := by
  split
  · next e h => exact post_of_parse_error h
  · next h => exact post_of_parse_null h
  · next v hnull h =>
    rw [post_of_parse_value h hnull]
    simp only [ContactFields, ← stringField_ne_nil_iff, submissionOf, List.isEmpty_iff,
      Bool.or_eq_true, decide_eq_true_eq]
    by_cases hn : stringField v (ofString "name") = [] <;>
      by_cases he : stringField v (ofString "email") = [] <;>
      by_cases hm : stringField v (ofString "message") = [] <;> simp [hn, he, hm]

theorem post_null_body_throws : post (ofString "null") = .error .typeError := by decide

end Nepxy.Site
