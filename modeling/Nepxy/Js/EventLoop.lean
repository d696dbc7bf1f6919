import Nepxy.Js.JsString

/-!
# Runs of a page

A page changes state only in its handlers, which the event loop runs one at a time. A component
is a step function from a state and an event to the next state, `none` when the event cannot
happen in that state (its element is not rendered, or nothing is awaited); a run is a sequence of
events. An invariant of one step is an invariant of every run, and a step that is a step of a
simpler component, or leaves what it sees unchanged, makes every run a run of it.
-/

namespace Nepxy.Js

section
variable {σ ε : Type} (step : σ → ε → Option σ) (P : σ → Prop) (Q : ε → Prop)

theorem foldlM_invariant_of_forall (hstep : ∀ {s s' e}, Q e → P s → step s e = some s' → P s')
    {s s' : σ} {events : List ε} (hq : ∀ e ∈ events, Q e) (hs : P s)
    (h : events.foldlM step s = some s') : P s' := by
  induction events generalizing s with
  | nil => cases h; exact hs
  | cons e events ih =>
    simp only [List.foldlM_cons, Option.bind_eq_bind, Option.bind_eq_some] at h
    obtain ⟨t, ht, hrun⟩ := h
    exact ih (fun e he => hq e (.tail _ he)) (hstep (hq e (.head _)) hs ht) hrun

theorem foldlM_invariant (hstep : ∀ {s s' e}, P s → step s e = some s' → P s') {s s' : σ}
    {events : List ε} (hs : P s) (h : events.foldlM step s = some s') : P s' :=
  foldlM_invariant_of_forall step P (fun _ => True) (fun _ => hstep) (fun _ _ => trivial) hs h

/-- Simulation: when each step, from a state where `P` holds, is the step of the abstract
component that `map` names under `abs`, or leaves `abs` unchanged when `map` names none, every
run is a run of the abstract component. -/
theorem foldlM_simulation {τ δ : Type} (astep : τ → δ → Option τ) (abs : σ → τ)
    (map : ε → Option δ) (hstep : ∀ {s s' e}, Q e → P s → step s e = some s' → P s')
    (hsim : ∀ {s s' e}, Q e → P s → step s e = some s' →
      (map e).elim (abs s' = abs s) fun d => astep (abs s) d = some (abs s'))
    {s s' : σ} {events : List ε} (hq : ∀ e ∈ events, Q e) (hs : P s)
    (h : events.foldlM step s = some s') :
    (events.filterMap map).foldlM astep (abs s) = some (abs s') := by
  induction events generalizing s with
  | nil => cases h; rfl
  | cons e events ih =>
    simp only [List.foldlM_cons, Option.bind_eq_bind, Option.bind_eq_some] at h
    obtain ⟨t, ht, hrun⟩ := h
    have hrest := ih (fun e he => hq e (.tail _ he)) (hstep (hq e (.head _)) hs ht) hrun
    have hmap := hsim (hq e (.head _)) hs ht
    cases hm : map e with
    | none =>
      rw [hm, Option.elim_none] at hmap
      rwa [List.filterMap_cons_none hm, ← hmap]
    | some d =>
      rw [hm, Option.elim_some] at hmap
      rwa [List.filterMap_cons_some hm, List.foldlM_cons, hmap]

end

end Nepxy.Js
