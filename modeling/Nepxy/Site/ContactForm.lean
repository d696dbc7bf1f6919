import Nepxy.Site.ContactRoute
import Nepxy.Js.JsonStringify
import Nepxy.Js.EventLoop

/-!
# The contact form and the route

`Home` of `app/page.tsx` keeps the three fields of the contact form, the status of the last
submission and the error it shows. `handleSubmit` marks the form as loading, posts
`JSON.stringify(formState)` to the route and waits; the continuation shows success and clears the
fields on a response with an `ok` status, shows `payload?.error` or a default message on any
other response, and a third message when the request fails.

The server answers a request with `post`, sent as `NextResponse.json` sends it (`serve`); a
handler that throws is answered with status 500 and an empty body. The submit button is disabled
while the form is loading, so one request at most is awaited at a time; `HomeState.pending` is the
body of that request.

The browser submits the form only when its three fields are filled in and the email field holds a
valid address (after dropping the line breaks and surrounding white space the email input
strips). `homeStep` lets every submission through: its runs contain every run the browser
allows, and those of a client that skips the check, so what holds of them holds of the page.
-/

namespace Nepxy.Site
open Nepxy.Js Nepxy.Js.JsString Nepxy.Js.Json

structure FormState where
  name : JsString
  email : JsString
  message : JsString
  deriving DecidableEq, Repr

inductive FormField
  | name
  | email
  | message
  deriving DecidableEq, Repr

inductive Status
  | idle
  | loading
  | success
  | error
  deriving DecidableEq, Repr

structure HomeState where
  formState : FormState
  status : Status
  errorMessage : JsString
  pending : Option JsString
  deriving DecidableEq, Repr

def homeInit : HomeState := ⟨⟨[], [], []⟩, .idle, [], none⟩

def FormState.set (f : FormState) : FormField → JsString → FormState
  | .name, v => { f with name := v }
  | .email, v => { f with email := v }
  | .message, v => { f with message := v }

def FormState.toJson (f : FormState) : JsonValue :=
  .object [(ofString "name", .string f.name), (ofString "email", .string f.email),
    (ofString "message", .string f.message)]

def serve (body : JsString) : Nat × JsString :=
  match post body with
  | .ok (response, _) => (response.status, stringify response.body)
  | .error _ => (500, [])

/-- `payload?.error || "Something went wrong. Please try again."`. The route's payloads carry a
string `error` or none; a truthy `error` of another type, which it never sends, is not modelled. -/
def shownError (payload : JsonValue) : JsString :=
  let fallback := ofString "Something went wrong. Please try again."
  match payload with
  | .object members =>
    match members.reverse.lookup (ofString "error") with
    | some (.string s) => if s.isEmpty then fallback else s
    | _ => fallback
  | _ => fallback

def handleChange (s : HomeState) (field : FormField) (value : JsString) : HomeState :=
  { s with formState := s.formState.set field value }

def handleSubmit (s : HomeState) : HomeState :=
  { s with status := .loading, errorMessage := [], pending := some (stringify s.formState.toJson) }

def handleSubmitResponse (s : HomeState) (status : Nat) (text : JsString) : HomeState :=
  if 200 ≤ status ∧ status ≤ 299 then
    { s with status := .success, formState := ⟨[], [], []⟩, pending := none }
  else
    let payload := match jsonParse text with
      | .ok v => v
      | .error _ => .object []
    { s with status := .error, errorMessage := shownError payload, pending := none }

def handleSubmitFailure (s : HomeState) : HomeState :=
  { s with
    status := .error
    errorMessage := ofString "Unable to send your message right now."
    pending := none }

inductive HomeEvent
  | change (field : FormField) (value : JsString)
  | submit
  | reply
  | networkError
  deriving DecidableEq, Repr

def homeStep (s : HomeState) : HomeEvent → Option HomeState
  | .change field value => some (handleChange s field value)
  | .submit => if s.status = .loading then none else some (handleSubmit s)
  | .reply =>
    match s.pending with
    | some body => some (handleSubmitResponse s (serve body).1 (serve body).2)
    | none => none
  | .networkError =>
    match s.pending with
    | some _ => some (handleSubmitFailure s)
    | none => none

theorem jsonParse_formJson (f : FormState) : jsonParse (stringify f.toJson) = .ok f.toJson :=
  jsonParse_eq_of_parseValue (parseValue_stringify_self rfl)

theorem stringField_formJson (f : FormState) :
    stringField f.toJson (ofString "name") = trim f.name ∧
    stringField f.toJson (ofString "email") = trim f.email ∧
    stringField f.toJson (ofString "message") = trim f.message := ⟨rfl, rfl, rfl⟩

/-- The route answers whatever the form sends: with the missing-field 400 when a trimmed field is
empty, and otherwise with `{ok: true}`, logging the trimmed fields. It never throws. -/
theorem post_formJson (f : FormState) :
    post (stringify f.toJson) =
      if (trim f.name).isEmpty || (trim f.email).isEmpty || (trim f.message).isEmpty then
        .ok (errorResponse (ofString "Name, email, and message are required."), [])
      else .ok (okResponse, [⟨trim f.name, trim f.email, trim f.message⟩]) := by
  obtain ⟨hn, he, hm⟩ := stringField_formJson f
  rw [post_of_parse_value (jsonParse_formJson f) (by simp [FormState.toJson]), hn, he, hm]

theorem serve_formJson (f : FormState) :
    serve (stringify f.toJson) =
      if (trim f.name).isEmpty || (trim f.email).isEmpty || (trim f.message).isEmpty then
        (400, stringify (errorResponse (ofString "Name, email, and message are required.")).body)
      else (200, stringify okResponse.body) := by
  obtain ⟨hn, he, hm⟩ := stringField_formJson f
  rw [serve, post_of_parse_value (jsonParse_formJson f) (by simp [FormState.toJson]), hn, he, hm]
  dsimp only
  split_ifs <;> rfl

theorem handleSubmitResponse_formJson (s : HomeState) (f : FormState) :
    handleSubmitResponse s (serve (stringify f.toJson)).1 (serve (stringify f.toJson)).2 =
      if (trim f.name).isEmpty || (trim f.email).isEmpty || (trim f.message).isEmpty then
        { s with status := .error, errorMessage := ofString "Name, email, and message are required.",
                 pending := none }
      else { s with status := .success, formState := ⟨[], [], []⟩, pending := none } := by
  have herr : jsonParse (stringify (errorResponse
      (ofString "Name, email, and message are required.")).body) = .ok (errorResponse
      (ofString "Name, email, and message are required.")).body :=
    jsonParse_eq_of_parseValue (parseValue_stringify_self rfl)
  rw [serve_formJson]
  by_cases hc : ((trim f.name).isEmpty || (trim f.email).isEmpty || (trim f.message).isEmpty)
  · simp only [if_pos hc, handleSubmitResponse, herr]
    rfl
  · simp only [if_neg hc]
    rfl

theorem homeRun_changes (s : HomeState) (edits : List (FormField × JsString)) :
    (edits.map fun e => HomeEvent.change e.1 e.2).foldlM homeStep s =
      some { s with formState := edits.foldl (fun f e => f.set e.1 e.2) s.formState } := by
  induction edits generalizing s with
  | nil => rfl
  | cons e edits ih => exact ih (handleChange s e.1 e.2)

/-- The route judges the form as it was when it was submitted. Edits typed while the request is
awaited are kept when the route rejects it, and lost when it accepts, since success clears the
fields. -/
theorem homeRun_submit_edits_reply (s : HomeState) (hs : s.status ≠ .loading)
    (edits : List (FormField × JsString)) :
    (HomeEvent.submit :: (edits.map fun e : FormField × JsString => HomeEvent.change e.1 e.2) ++
        [HomeEvent.reply]).foldlM homeStep s =
      some (if (trim s.formState.name).isEmpty || (trim s.formState.email).isEmpty ||
          (trim s.formState.message).isEmpty then
        { formState := edits.foldl (fun (f : FormState) (e : FormField × JsString) => f.set e.1 e.2)
            s.formState,
          status := .error, errorMessage := ofString "Name, email, and message are required.",
          pending := none }
      else { formState := ⟨[], [], []⟩, status := .success, errorMessage := [], pending := none }) := by
  simp only [List.cons_append, List.foldlM_cons, homeStep, if_neg hs, Option.bind_eq_bind,
    Option.some_bind, List.foldlM_append, homeRun_changes, List.foldlM_nil, handleSubmit]
  rw [handleSubmitResponse_formJson]
  split <;> rfl

theorem homeRun_submit_edits_reply_lost :
    Status.idle ≠ .loading ∧
    [HomeEvent.submit, .change .message (ofString "PS"), .reply].foldlM homeStep
        ⟨⟨ofString "Ada", ofString "ada@example.com", ofString "Hi"⟩, .idle, [], none⟩ =
      some ⟨⟨[], [], []⟩, .success, [], none⟩ :=
  ⟨by decide, (homeRun_submit_edits_reply
    ⟨⟨ofString "Ada", ofString "ada@example.com", ofString "Hi"⟩, .idle, [], none⟩ (by decide)
    [(.message, ofString "PS")]).trans (by decide)⟩

end Nepxy.Site
