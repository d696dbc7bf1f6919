import Nepxy.Site.ContactForm

/-!
# The contact form and the route over a network

`handleSubmit` and `POST` run on two machines. The request the form sends and the answer the
route sends back travel apart, and either may be lost: `fetch` then rejects and the form shows its
network message. The answer's body may be lost on its own (`bodyLost`): `response.json()` then
rejects and the form reads `{}`. The route handles a request when it arrives, logs what it
accepts, and answers a handler that throws with 500 and no body (`handleRequest`).

`SiteState.submitted`, the forms in the order they were submitted, is a history no code reads.
Over every interleaving the log is a subsequence of what the route accepted
(`siteRun_log_sublist`), and all of it once no request is lost (`siteRun_log_exact`). The route
keeps no record of what it logged, so a retry after a lost answer logs the fields again. Without
lost bodies, the form goes through a run of `homeStep`, where the route answers at once
(`siteRun_home`), and never shows its default error message (`siteRun_error_shown`).
-/

namespace Nepxy.Site
open Nepxy.Js Nepxy.Js.JsString Nepxy.Js.Json

def FormState.submission? (f : FormState) : Option Submission :=
  if (trim f.name).isEmpty || (trim f.email).isEmpty || (trim f.message).isEmpty then none
  else some ⟨trim f.name, trim f.email, trim f.message⟩

def handleRequest (body : JsString) : (Nat × JsString) × List Submission :=
  match post body with
  | .ok (response, logged) => ((response.status, stringify response.body), logged)
  | .error _ => ((500, []), [])

structure SiteState where
  home : HomeState
  request : Option JsString
  response : Option (Nat × JsString)
  log : List Submission
  submitted : List FormState
  deriving DecidableEq, Repr

def siteInit : SiteState := ⟨homeInit, none, none, [], []⟩

namespace SiteState

def change (s : SiteState) (field : FormField) (value : JsString) : SiteState :=
  { s with home := handleChange s.home field value }

def submit (s : SiteState) : SiteState :=
  { s with
    home := handleSubmit s.home
    request := some (stringify s.home.formState.toJson)
    submitted := s.submitted ++ [s.home.formState] }

def handle (s : SiteState) (body : JsString) : SiteState :=
  { s with
    request := none
    response := some (handleRequest body).1
    log := s.log ++ (handleRequest body).2 }

def answer (s : SiteState) (status : Nat) (text : JsString) : SiteState :=
  { s with home := handleSubmitResponse s.home status text, response := none }

def loseRequest (s : SiteState) : SiteState :=
  { s with home := handleSubmitFailure s.home, request := none }

def loseResponse (s : SiteState) : SiteState :=
  { s with home := handleSubmitFailure s.home, response := none }

/-- The submitted forms whose request is no longer on its way: the route has handled it or the
network has lost it. -/
def settled (s : SiteState) : List FormState :=
  if s.request.isSome then s.submitted.dropLast else s.submitted

theorem settled_of_request_none {s : SiteState} (h : s.request = none) :
    s.settled = s.submitted := by
  simp [settled, h]

theorem settled_of_request_some {s : SiteState} {body : JsString} (h : s.request = some body) :
    s.settled = s.submitted.dropLast := by
  simp [settled, h]

end SiteState

inductive SiteEvent
  | change (field : FormField) (value : JsString)
  | submit
  | handle
  | deliver
  | bodyLost
  | requestLost
  | responseLost
  deriving DecidableEq, Repr

def siteStep (s : SiteState) : SiteEvent → Option SiteState
  | .change field value => some (s.change field value)
  | .submit => if s.home.status = .loading then none else some s.submit
  | .handle => s.request.map s.handle
  | .deliver => s.response.map fun answer => s.answer answer.1 answer.2
  | .bodyLost => s.response.map fun answer => s.answer answer.1 []
  | .requestLost => s.request.map fun _ => s.loseRequest
  | .responseLost => s.response.map fun _ => s.loseResponse

def siteRun (events : List SiteEvent) : Option SiteState := events.foldlM siteStep siteInit

def SiteEvent.homeEvent : SiteEvent → Option HomeEvent
  | .change field value => some (.change field value)
  | .submit => some .submit
  | .handle => none
  | .deliver | .bodyLost => some .reply
  | .requestLost | .responseLost => some .networkError

theorem siteStep_cases {s s' : SiteState} {e : SiteEvent} (h : siteStep s e = some s') :
    (∃ field value, e = .change field value ∧ s' = s.change field value) ∨
    (e = .submit ∧ s.home.status ≠ .loading ∧ s' = s.submit) ∨
    (∃ body, e = .handle ∧ s.request = some body ∧ s' = s.handle body) ∨
    (∃ status text text', (e = .deliver ∧ text' = text ∨ e = .bodyLost ∧ text' = []) ∧
      s.response = some (status, text) ∧ s' = s.answer status text') ∨
    (∃ body, e = .requestLost ∧ s.request = some body ∧ s' = s.loseRequest) ∨
    (∃ answer, e = .responseLost ∧ s.response = some answer ∧ s' = s.loseResponse) := by
  cases e with
  | change field value => exact .inl ⟨field, value, rfl, (Option.some.inj h).symm⟩
  | submit =>
    simp only [siteStep] at h
    split_ifs at h with hl
    exact .inr (.inl ⟨rfl, hl, (Option.some.inj h).symm⟩)
  | handle =>
    obtain ⟨body, hr, rfl⟩ := Option.map_eq_some'.1 h
    exact .inr (.inr (.inl ⟨body, rfl, hr, rfl⟩))
  | deliver =>
    obtain ⟨⟨status, text⟩, hr, rfl⟩ := Option.map_eq_some'.1 h
    exact .inr (.inr (.inr (.inl ⟨status, text, text, .inl ⟨rfl, rfl⟩, hr, rfl⟩)))
  | bodyLost =>
    obtain ⟨⟨status, text⟩, hr, rfl⟩ := Option.map_eq_some'.1 h
    exact .inr (.inr (.inr (.inl ⟨status, text, [], .inr ⟨rfl, rfl⟩, hr, rfl⟩)))
  | requestLost =>
    obtain ⟨body, hr, rfl⟩ := Option.map_eq_some'.1 h
    exact .inr (.inr (.inr (.inr (.inl ⟨body, rfl, hr, rfl⟩))))
  | responseLost =>
    obtain ⟨answer, hr, rfl⟩ := Option.map_eq_some'.1 h
    exact .inr (.inr (.inr (.inr (.inr ⟨answer, rfl, hr, rfl⟩))))

theorem handleRequest_fst (body : JsString) : (handleRequest body).1 = serve body := by
  unfold handleRequest serve
  cases post body <;> rfl

theorem handleRequest_formJson (f : FormState) :
    handleRequest (stringify f.toJson) = (serve (stringify f.toJson), f.submission?.toList) := by
  obtain ⟨hn, he, hm⟩ := stringField_formJson f
  rw [serve, handleRequest, post_of_parse_value (jsonParse_formJson f) (by simp [FormState.toJson]),
    hn, he, hm]
  dsimp only
  unfold FormState.submission?
  split_ifs <;> rfl

theorem SiteState.handle_formJson {s : SiteState} {f : FormState}
    (hf : s.submitted.getLast? = some f) (hr : s.request = some (stringify f.toJson)) :
    (s.handle (stringify f.toJson)).settled.filterMap FormState.submission? =
        s.settled.filterMap FormState.submission? ++ f.submission?.toList ∧
      (s.handle (stringify f.toJson)).log = s.log ++ f.submission?.toList := by
  refine ⟨?_, by simp only [SiteState.handle, handleRequest_formJson]⟩
  rw [SiteState.settled_of_request_none rfl, SiteState.settled_of_request_some hr]
  show s.submitted.filterMap _ = _
  conv_lhs => rw [← List.dropLast_append_getLast? f hf, List.filterMap_append]
  cases hsub : f.submission? <;> simp [hsub]

theorem serve_formJson_eq (f : FormState) :
    serve (stringify f.toJson) = match f.submission? with
      | some _ => (200, stringify okResponse.body)
      | none => (400, stringify (errorResponse
          (ofString "Name, email, and message are required.")).body) := by
  rw [serve_formJson]
  unfold FormState.submission?
  split_ifs <;> rfl

def shownErrors : List JsString :=
  [ofString "Name, email, and message are required.",
    ofString "Unable to send your message right now.",
    ofString "Something went wrong. Please try again."]

theorem handleSubmitResponse_pending (s : HomeState) (status : Nat) (text : JsString) :
    (handleSubmitResponse s status text).pending = none := by
  unfold handleSubmitResponse
  split <;> rfl

theorem handleSubmitResponse_rejected (s : HomeState) {text : JsString}
    (htext : text = stringify (errorResponse
      (ofString "Name, email, and message are required.")).body ∨ text = []) :
    ∃ msg ∈ shownErrors, handleSubmitResponse s 400 text =
      { s with status := .error, errorMessage := msg, pending := none } := by
  rcases htext with rfl | rfl
  · refine ⟨_, List.mem_cons_self _ _, ?_⟩
    rw [handleSubmitResponse, if_neg (by decide), jsonParse_eq_of_parseValue
      (@parseValue_stringify_self (errorResponse
        (ofString "Name, email, and message are required.")).body rfl)]
    rfl
  · exact ⟨ofString "Something went wrong. Please try again.", by simp [shownErrors],
      if_neg (by decide)⟩

theorem handleSubmitFailure_shown (s : HomeState) :
    (handleSubmitFailure s).errorMessage ∈ shownErrors := by
  simp [handleSubmitFailure, shownErrors]

/-- No submission is in progress, or the latest one is, with its request or the answer to it on
the way and never both. -/
def InFlight (s : SiteState) : Prop :=
  (s.home.pending = none ∧ s.request = none ∧ s.response = none) ∨
  ∃ f, s.submitted.getLast? = some f ∧ s.home.pending = some (stringify f.toJson) ∧
    (s.request = some (stringify f.toJson) ∧ s.response = none ∨
      s.request = none ∧ s.response = some (serve (stringify f.toJson)))

section
variable {s : SiteState}

theorem InFlight.of_request (h : InFlight s) {body : JsString} (hr : s.request = some body) :
    ∃ f, s.submitted.getLast? = some f ∧ body = stringify f.toJson ∧
      s.home.pending = some body ∧ s.response = none := by
  rcases h with ⟨-, h, -⟩ | ⟨f, hf, hp, ⟨h, hres⟩ | ⟨h, -⟩⟩
  · simp [h] at hr
  · obtain rfl := Option.some.inj (hr.symm.trans h)
    exact ⟨f, hf, rfl, hp, hres⟩
  · simp [h] at hr

theorem InFlight.of_response (h : InFlight s) {answer : Nat × JsString}
    (hr : s.response = some answer) :
    ∃ f, s.submitted.getLast? = some f ∧ answer = serve (stringify f.toJson) ∧
      s.home.pending = some (stringify f.toJson) ∧ s.request = none := by
  rcases h with ⟨-, -, h⟩ | ⟨f, hf, hp, ⟨-, h⟩ | ⟨hreq, h⟩⟩
  · simp [h] at hr
  · simp [h] at hr
  · exact ⟨f, hf, Option.some.inj (hr.symm.trans h), hp, hreq⟩

theorem InFlight.of_pending_none (h : InFlight s) (hp : s.home.pending = none) :
    s.request = none ∧ s.response = none := by
  rcases h with ⟨-, h⟩ | ⟨f, -, h, -⟩
  · exact h
  · simp [h] at hp

end

/-- The latest submission is one the route accepts, and its trimmed fields are the latest entry
of the route's log. -/
def LatestLogged (s : SiteState) : Prop :=
  ∃ f sub, s.submitted.getLast? = some f ∧ f.submission? = some sub ∧ s.log.getLast? = some sub

structure SiteInvariant (s : SiteState) : Prop where
  in_flight : InFlight s
  loading_iff_pending : s.home.status = .loading ↔ s.home.pending.isSome
  log_sublist : s.log.Sublist (s.settled.filterMap FormState.submission?)
  answer_logged : ∀ f sub, s.response.isSome → s.submitted.getLast? = some f →
    f.submission? = some sub → s.log.getLast? = some sub
  success_logged : s.home.status = .success → LatestLogged s
  error_shown : s.home.status = .error → s.home.errorMessage ∈ shownErrors

theorem siteInit_invariant : SiteInvariant siteInit :=
  ⟨.inl ⟨rfl, rfl, rfl⟩, by decide, .slnil, by simp [siteInit], by simp [siteInit, homeInit],
    by decide⟩

namespace SiteInvariant
variable {s : SiteState}

theorem pending_of_not_loading (hs : SiteInvariant s) (hl : s.home.status ≠ .loading) :
    s.home.pending = none := by
  simpa [hs.loading_iff_pending] using hl

theorem loading_of_pending (hs : SiteInvariant s) {body : JsString}
    (hp : s.home.pending = some body) : s.home.status = .loading :=
  hs.loading_iff_pending.2 (by simp [hp])

theorem change (hs : SiteInvariant s) (field : FormField) (value : JsString) :
    SiteInvariant (s.change field value) :=
  ⟨hs.in_flight, hs.loading_iff_pending, hs.log_sublist, hs.answer_logged, hs.success_logged,
    hs.error_shown⟩

theorem settled_submit (hs : SiteInvariant s) (hl : s.home.status ≠ .loading) :
    s.submit.settled = s.settled := by
  have hreq := (hs.in_flight.of_pending_none (hs.pending_of_not_loading hl)).1
  rw [SiteState.settled_of_request_some rfl, SiteState.settled_of_request_none hreq]
  exact List.dropLast_concat

theorem submit (hs : SiteInvariant s) (hl : s.home.status ≠ .loading) : SiteInvariant s.submit := by
  obtain ⟨-, hres⟩ := hs.in_flight.of_pending_none (hs.pending_of_not_loading hl)
  refine ⟨.inr ⟨_, List.getLast?_concat _, rfl, .inl ⟨rfl, hres⟩⟩, by simp [SiteState.submit,
    handleSubmit], ?_, by simp [SiteState.submit, hres], by simp [SiteState.submit, handleSubmit],
    by simp [SiteState.submit, handleSubmit]⟩
  rw [hs.settled_submit hl]
  exact hs.log_sublist

theorem handle (hs : SiteInvariant s) {body : JsString} (hr : s.request = some body) :
    SiteInvariant (s.handle body) := by
  obtain ⟨f, hf, rfl, hp, -⟩ := hs.in_flight.of_request hr
  obtain ⟨hsettled, hlog⟩ := SiteState.handle_formJson hf hr
  refine ⟨.inr ⟨f, hf, hp, .inr ⟨rfl, ?_⟩⟩, hs.loading_iff_pending, ?_, ?_, ?_, hs.error_shown⟩
  · simp only [SiteState.handle, handleRequest_fst]
  · rw [hsettled, hlog]
    exact hs.log_sublist.append_right _
  · intro f' sub _ hf' hsub
    obtain rfl := Option.some.inj (hf'.symm.trans hf)
    rw [hlog, hsub]
    exact List.getLast?_concat _
  · exact fun hsucc => absurd ((hs.loading_of_pending hp).symm.trans hsucc) (by decide)

theorem answer (hs : SiteInvariant s) {status : Nat} {text text' : JsString}
    (hr : s.response = some (status, text)) (htext : text' = text ∨ text' = []) :
    SiteInvariant (s.answer status text') := by
  obtain ⟨f, hf, hanswer, -, hreq⟩ := hs.in_flight.of_response hr
  have hin : InFlight (s.answer status text') :=
    .inl ⟨handleSubmitResponse_pending _ _ _, hreq, rfl⟩
  rw [serve_formJson_eq] at hanswer
  cases hsub : f.submission? with
  | some sub =>
    obtain ⟨rfl, -⟩ := Prod.mk.inj (hsub ▸ hanswer)
    have hok : (s.answer 200 text').home =
        { s.home with status := .success, formState := ⟨[], [], []⟩, pending := none } :=
      show handleSubmitResponse s.home 200 text' = _ from if_pos (by decide)
    exact ⟨hin, by simp [hok], hs.log_sublist, by simp [SiteState.answer],
      fun _ => ⟨f, sub, hf, hsub, hs.answer_logged f sub (by simp [hr]) hf hsub⟩, by simp [hok]⟩
  | none =>
    obtain ⟨rfl, rfl⟩ := Prod.mk.inj (hsub ▸ hanswer)
    obtain ⟨msg, hmsg, hrej⟩ := handleSubmitResponse_rejected s.home htext
    have hrej : (s.answer 400 text').home =
        { s.home with status := .error, errorMessage := msg, pending := none } := hrej
    exact ⟨hin, by simp [hrej], hs.log_sublist, by simp [SiteState.answer], by simp [hrej],
      fun _ => by simpa [hrej] using hmsg⟩

theorem loseRequest (hs : SiteInvariant s) {body : JsString} (hr : s.request = some body) :
    SiteInvariant s.loseRequest := by
  obtain ⟨-, -, -, -, hres⟩ := hs.in_flight.of_request hr
  refine ⟨.inl ⟨rfl, rfl, hres⟩, by simp [SiteState.loseRequest, handleSubmitFailure], ?_,
    by simp [SiteState.loseRequest, hres], by simp [SiteState.loseRequest, handleSubmitFailure],
    fun _ => handleSubmitFailure_shown _⟩
  rw [SiteState.settled_of_request_none rfl]
  exact hs.log_sublist.trans (by
    rw [SiteState.settled_of_request_some hr]
    exact (List.dropLast_sublist _).filterMap _)

theorem loseResponse (hs : SiteInvariant s) {answer : Nat × JsString}
    (hr : s.response = some answer) : SiteInvariant s.loseResponse := by
  obtain ⟨-, -, -, -, hreq⟩ := hs.in_flight.of_response hr
  exact ⟨.inl ⟨rfl, hreq, rfl⟩, by simp [SiteState.loseResponse, handleSubmitFailure],
    hs.log_sublist, by simp [SiteState.loseResponse], by simp [SiteState.loseResponse,
    handleSubmitFailure], fun _ => handleSubmitFailure_shown _⟩

end SiteInvariant

theorem siteStep_invariant {s s' : SiteState} {e : SiteEvent} (hs : SiteInvariant s)
    (h : siteStep s e = some s') : SiteInvariant s' := by
  rcases siteStep_cases h with ⟨_, _, -, rfl⟩ | ⟨-, hl, rfl⟩ | ⟨_, -, hr, rfl⟩ |
    ⟨_, _, _, ⟨-, htext⟩ | ⟨-, htext⟩, hr, rfl⟩ | ⟨_, -, hr, rfl⟩ | ⟨_, -, hr, rfl⟩
  · exact hs.change _ _
  · exact hs.submit hl
  · exact hs.handle hr
  · exact hs.answer hr (.inl htext)
  · exact hs.answer hr (.inr htext)
  · exact hs.loseRequest hr
  · exact hs.loseResponse hr

theorem siteRun_invariant {events : List SiteEvent} {s : SiteState} (h : siteRun events = some s) :
    SiteInvariant s :=
  foldlM_invariant siteStep SiteInvariant siteStep_invariant siteInit_invariant h

theorem siteStep_no_default {s s' : SiteState} {e : SiteEvent} (hs : SiteInvariant s)
    (hd : s.home.status = .error →
      s.home.errorMessage ≠ ofString "Something went wrong. Please try again.")
    (hb : e ≠ .bodyLost) (h : siteStep s e = some s') :
    s'.home.status = .error →
      s'.home.errorMessage ≠ ofString "Something went wrong. Please try again." := by
  have hrequired : ofString "Name, email, and message are required." ≠
      ofString "Something went wrong. Please try again." := by decide
  have hnetwork : ofString "Unable to send your message right now." ≠
      ofString "Something went wrong. Please try again." := by decide
  rcases siteStep_cases h with ⟨_, _, -, rfl⟩ | ⟨-, -, rfl⟩ | ⟨_, -, -, rfl⟩ |
    ⟨_, _, _, ⟨-, rfl⟩ | ⟨rfl, -⟩, hr, rfl⟩ | ⟨_, -, -, rfl⟩ | ⟨_, -, -, rfl⟩
  · exact hd
  · simp [SiteState.submit, handleSubmit]
  · exact hd
  · obtain ⟨f, -, hanswer, -, -⟩ := hs.in_flight.of_response hr
    obtain ⟨rfl, rfl⟩ : _ = (serve (stringify f.toJson)).1 ∧ _ = (serve (stringify f.toJson)).2 :=
      ⟨congrArg Prod.fst hanswer, congrArg Prod.snd hanswer⟩
    simp only [SiteState.answer, handleSubmitResponse_formJson]
    split
    · exact fun _ => hrequired
    · simp
  · exact absurd rfl hb
  · exact fun _ => hnetwork
  · exact fun _ => hnetwork

theorem siteStep_home {s s' : SiteState} {e : SiteEvent} (hs : SiteInvariant s)
    (hb : e ≠ .bodyLost) (h : siteStep s e = some s') :
    e.homeEvent.elim (s'.home = s.home) fun he => homeStep s.home he = some s'.home := by
  rcases siteStep_cases h with ⟨_, _, rfl, rfl⟩ | ⟨rfl, hl, rfl⟩ | ⟨_, rfl, -, rfl⟩ |
    ⟨_, _, _, ⟨rfl, rfl⟩ | ⟨rfl, -⟩, hr, rfl⟩ | ⟨_, rfl, hr, rfl⟩ | ⟨_, rfl, hr, rfl⟩
  · rfl
  · exact if_neg hl
  · rfl
  · obtain ⟨f, -, hanswer, hp, -⟩ := hs.in_flight.of_response hr
    simp only [SiteEvent.homeEvent, homeStep, hp, ← hanswer]
    rfl
  · exact absurd rfl hb
  · obtain ⟨f, -, rfl, hp, -⟩ := hs.in_flight.of_request hr
    simp only [SiteEvent.homeEvent, homeStep, hp]
    rfl
  · obtain ⟨f, -, -, hp, -⟩ := hs.in_flight.of_response hr
    simp only [SiteEvent.homeEvent, homeStep, hp]
    rfl

/-- The route keeps no record of what it has logged: when the answer to an accepted submission is
lost, sending the unchanged form again logs it a second time. -/
theorem retry_after_lost_answer_logs_twice {s : SiteState} (hl : s.home.status ≠ .loading)
    {sub : Submission} (hsub : s.home.formState.submission? = some sub) :
    ([SiteEvent.submit, .handle, .responseLost, .submit, .handle].foldlM siteStep s).map
      SiteState.log = some (s.log ++ [sub, sub]) := by
  simp [siteStep, hl, SiteState.submit, SiteState.handle, SiteState.loseResponse, handleSubmit,
    handleSubmitFailure, handleRequest_formJson, hsub]

theorem retry_after_lost_answer_logs_twice_idle :
    Status.idle ≠ .loading ∧
    FormState.submission? ⟨ofString "A", ofString "a@b.c", ofString "c"⟩ =
      some ⟨ofString "A", ofString "a@b.c", ofString "c"⟩ ∧
    ([SiteEvent.submit, .handle, .responseLost, .submit, .handle].foldlM siteStep
        ⟨⟨⟨ofString "A", ofString "a@b.c", ofString "c"⟩, .idle, [], none⟩, none, none, [], []⟩).map
      SiteState.log = some [⟨ofString "A", ofString "a@b.c", ofString "c"⟩,
        ⟨ofString "A", ofString "a@b.c", ofString "c"⟩] :=
  ⟨by decide, by decide, retry_after_lost_answer_logs_twice (by decide) (by decide)⟩

section Runs
variable {events : List SiteEvent} {s : SiteState}

/-- Without lost bodies, what the form goes through is a run of the form alone, where the route
answers each request at once. -/
theorem siteRun_home (h : siteRun events = some s) (hb : SiteEvent.bodyLost ∉ events) :
    (events.filterMap SiteEvent.homeEvent).foldlM homeStep homeInit = some s.home :=
  foldlM_simulation siteStep SiteInvariant (· ≠ .bodyLost) homeStep SiteState.home
    SiteEvent.homeEvent (fun _ => siteStep_invariant) (fun hb hs h => siteStep_home hs hb h)
    (fun _ he heq => hb (heq ▸ he)) siteInit_invariant h

theorem siteRun_home_retry :
    siteRun [.change .name (ofString "A"), .change .email (ofString "a@b.c"),
        .change .message (ofString "c"), .submit, .handle, .responseLost, .submit, .handle,
        .deliver] =
      some ⟨⟨⟨[], [], []⟩, .success, [], none⟩, none, none,
        [⟨ofString "A", ofString "a@b.c", ofString "c"⟩,
          ⟨ofString "A", ofString "a@b.c", ofString "c"⟩],
        [⟨ofString "A", ofString "a@b.c", ofString "c"⟩,
          ⟨ofString "A", ofString "a@b.c", ofString "c"⟩]⟩ ∧
    SiteEvent.bodyLost ∉ [.change .name (ofString "A"), .change .email (ofString "a@b.c"),
        .change .message (ofString "c"), .submit, .handle, .responseLost, .submit, .handle,
        .deliver] ∧
    [HomeEvent.change .name (ofString "A"), .change .email (ofString "a@b.c"),
        .change .message (ofString "c"), .submit, .networkError, .submit, .reply].foldlM homeStep
        homeInit = some ⟨⟨[], [], []⟩, .success, [], none⟩ := by
  refine ⟨?h, by decide, siteRun_home ?h (by decide)⟩
  decide

/-- The form shows one of three messages with its error status: the route's missing-field message,
its own network message, or its default when the answer's body is lost. The route's invalid-JSON
message never shows. -/
theorem siteRun_error_shown (h : siteRun events = some s) (herr : s.home.status = .error) :
    s.home.errorMessage ∈ shownErrors ∧
      (SiteEvent.bodyLost ∉ events →
        s.home.errorMessage ≠ ofString "Something went wrong. Please try again.") :=
  ⟨(siteRun_invariant h).error_shown herr, fun hb =>
    (foldlM_invariant_of_forall siteStep
      (fun s => SiteInvariant s ∧ (s.home.status = .error →
        s.home.errorMessage ≠ ofString "Something went wrong. Please try again."))
      (· ≠ .bodyLost)
      (fun he hs h => ⟨siteStep_invariant hs.1 h, siteStep_no_default hs.1 hs.2 he h⟩)
      (fun _ he heq => hb (heq ▸ he)) ⟨siteInit_invariant, by simp [siteInit, homeInit]⟩ h).2
      herr⟩

theorem siteRun_error_shown_blank_name :
    siteRun [.change .name (ofString " "), .change .email (ofString "a@b.c"),
        .change .message (ofString "c"), .submit, .handle, .deliver] =
      some ⟨⟨⟨ofString " ", ofString "a@b.c", ofString "c"⟩, .error,
          ofString "Name, email, and message are required.", none⟩, none, none, [],
        [⟨ofString " ", ofString "a@b.c", ofString "c"⟩]⟩ ∧
    ofString "Name, email, and message are required." ∈ shownErrors ∧
    (SiteEvent.bodyLost ∉ [.change .name (ofString " "), .change .email (ofString "a@b.c"),
        .change .message (ofString "c"), .submit, .handle, .deliver] →
      ofString "Name, email, and message are required." ≠
        ofString "Something went wrong. Please try again.") := by
  refine ⟨?h, siteRun_error_shown ?h rfl⟩
  decide

end Runs

end Nepxy.Site
