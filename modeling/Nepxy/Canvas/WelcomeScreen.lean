import Nepxy.Canvas.CurrencyDropdown
import Nepxy.Js.EventLoop

/-!
# The welcome screen

`Screen01_Welcome` keeps the payout-currency picker (whether the dropdown is open, its query, and
the currency `FXBadge` shows) and the pulse of the sign-up button, which a tap on the
"Fast transfers" row starts and a timeout scheduled by that tap ends.

A handler exists only on a rendered element: the close button, the search field and the currency
buttons while the dropdown is open, and a currency button only for a currency of one of its two
lists for the current query. The updates a handler makes are rendered together, so one event is
one step.

`PickerSpec` is the currency picker as the specification describes it; `welcomeRun_picker` says
that the screen refines it.
-/

namespace Nepxy.Canvas
open Nepxy.Js Nepxy.Js.JsString

structure WelcomeState where
  fxOpen : Bool
  fxQuery : JsString
  toCcy : JsString
  highlightSignup : Bool
  pendingTimeouts : Nat
  deriving DecidableEq, Repr

def welcomeInit : WelcomeState := ⟨false, [], ofString "XOF", false, 0⟩

inductive WelcomeEvent
  | fxBadgeClick
  | dropdownClose
  | queryChange (value : JsString)
  | currencySelect (code : JsString)
  | fastTransfersClick
  | highlightTimeout
  deriving DecidableEq, Repr

/-- The currency picker as the specification describes it. -/
structure PickerSpec where
  selectedCurrency : JsString
  currencyPickerOpen : Bool
  currencySearchQuery : JsString
  deriving DecidableEq, Repr

inductive PickerAction
  | activateBadge
  | select (code : JsString)
  | close
  | editQuery (query : JsString)
  deriving DecidableEq, Repr

def PickerSpec.apply (p : PickerSpec) : PickerAction → PickerSpec
  | .activateBadge => { p with currencyPickerOpen := !p.currencyPickerOpen }
  | .select code => ⟨code, false, []⟩
  | .close => { p with currencyPickerOpen := false }
  | .editQuery query => { p with currencySearchQuery := query }

def WelcomeState.picker (s : WelcomeState) : PickerSpec := ⟨s.toCcy, s.fxOpen, s.fxQuery⟩

def WelcomeEvent.pickerAction : WelcomeEvent → Option PickerAction
  | .fxBadgeClick => some .activateBadge
  | .dropdownClose => some .close
  | .queryChange value => some (.editQuery value)
  | .currencySelect code => some (.select code)
  | .fastTransfersClick | .highlightTimeout => none

section
variable (toLowerCase : JsString → JsString)

def selectableCodes (s : WelcomeState) : List JsString :=
  match currencyDropdown toLowerCase s.fxOpen s.fxQuery with
  | some lists => (lists.popular ++ lists.rest).map (·.code)
  | none => []

def welcomeStep (s : WelcomeState) : WelcomeEvent → Option WelcomeState
  | .fxBadgeClick => some { s with fxOpen := !s.fxOpen }
  | .dropdownClose => if s.fxOpen then some { s with fxOpen := false } else none
  | .queryChange value => if s.fxOpen then some { s with fxQuery := value } else none
  | .currencySelect code =>
    if code ∈ selectableCodes toLowerCase s then
      some { s with toCcy := code, fxOpen := false, fxQuery := [] }
    else none
  | .fastTransfersClick =>
    some { s with highlightSignup := true, pendingTimeouts := s.pendingTimeouts + 1 }
  | .highlightTimeout =>
    if 0 < s.pendingTimeouts then
      some { s with highlightSignup := false, pendingTimeouts := s.pendingTimeouts - 1 }
    else none

def welcomeRun (s : WelcomeState) (events : List WelcomeEvent) : Option WelcomeState :=
  events.foldlM (welcomeStep toLowerCase) s

variable {toLowerCase}

theorem selectableCodes_supported {s : WelcomeState} {code : JsString}
    (h : code ∈ selectableCodes toLowerCase s) : ∃ c ∈ supportedCurrencies, code = c.code := by
  unfold selectableCodes currencyDropdown at h
  split at h
  · next lists hl =>
    split_ifs at hl
    cases hl
    obtain ⟨c, hc, rfl⟩ := List.mem_map.1 h
    rw [List.mem_append, dropdownLists_popular, dropdownLists_rest] at hc
    exact ⟨c, hc.elim List.mem_of_mem_filter List.mem_of_mem_filter, rfl⟩
  · simp at h

theorem welcomeStep_toCcy {s s' : WelcomeState} {e : WelcomeEvent}
    (h : welcomeStep toLowerCase s e = some s') :
    s'.toCcy = s.toCcy ∨ ∃ c ∈ supportedCurrencies, s'.toCcy = c.code := by
  cases e with
  | currencySelect code =>
    simp only [welcomeStep] at h
    split_ifs at h with hc
    cases h
    exact .inr (selectableCodes_supported hc)
  | fxBadgeClick | fastTransfersClick =>
    cases h
    exact .inl rfl
  | dropdownClose | queryChange _ | highlightTimeout =>
    simp only [welcomeStep] at h
    split_ifs at h
    cases h
    exact .inl rfl

def ToCcySupported (s : WelcomeState) : Prop := ∃ c ∈ supportedCurrencies, s.toCcy = c.code

instance : DecidablePred ToCcySupported :=
  fun _ => inferInstanceAs (Decidable (∃ c ∈ supportedCurrencies, _))

theorem welcomeStep_toCcySupported {s s' : WelcomeState} {e : WelcomeEvent}
    (hs : ToCcySupported s) (h : welcomeStep toLowerCase s e = some s') : ToCcySupported s' := by
  rcases welcomeStep_toCcy h with heq | hc
  · rwa [ToCcySupported, heq]
  · exact hc

theorem welcome_toCcy_supported (toLowerCase : JsString → JsString) (events : List WelcomeEvent)
    (s : WelcomeState) (h : welcomeRun toLowerCase welcomeInit events = some s) :
    ∃ c ∈ supportedCurrencies, s.toCcy = c.code :=
  foldlM_invariant _ ToCcySupported welcomeStep_toCcySupported (by decide) h

theorem welcome_toCcy_supported_after_select :
    welcomeRun id welcomeInit [.fxBadgeClick, .currencySelect (ofString "GHS")] =
      some ⟨false, [], ofString "GHS", false, 0⟩ ∧
    ∃ c ∈ supportedCurrencies, (⟨false, [], ofString "GHS", false, 0⟩ : WelcomeState).toCcy = c.code :=
  ⟨by decide, welcome_toCcy_supported id [.fxBadgeClick, .currencySelect (ofString "GHS")] _
    (by decide)⟩

theorem welcomeStep_picker {s s' : WelcomeState} {e : WelcomeEvent}
    (h : welcomeStep toLowerCase s e = some s') :
    s'.picker = e.pickerAction.elim s.picker s.picker.apply := by
  cases e <;> simp only [welcomeStep] at h <;> (try split_ifs at h) <;> cases h <;> rfl

/-- The welcome screen refines the specification's picker: along every run, its payout
currency, open flag and query are those the specification's machine reaches on the run's picker
actions. -/
theorem welcomeRun_picker (events : List WelcomeEvent) {s s' : WelcomeState}
    (h : welcomeRun toLowerCase s events = some s') :
    s'.picker = (events.filterMap WelcomeEvent.pickerAction).foldl PickerSpec.apply s.picker := by
  induction events generalizing s with
  | nil => cases h; rfl
  | cons e events ih =>
    obtain ⟨t, ht, hrun⟩ := Option.bind_eq_some.1 h
    rw [ih hrun, welcomeStep_picker ht, List.filterMap_cons]
    cases e.pickerAction <;> rfl

theorem welcomeRun_picker_select :
    welcomeRun id welcomeInit
        [.fxBadgeClick, .queryChange (ofString "Gh"), .currencySelect (ofString "GHS")] =
      some ⟨false, [], ofString "GHS", false, 0⟩ ∧
    (⟨false, [], ofString "GHS", false, 0⟩ : WelcomeState).picker =
      ([WelcomeEvent.fxBadgeClick, .queryChange (ofString "Gh"), .currencySelect (ofString "GHS")].filterMap
        WelcomeEvent.pickerAction).foldl PickerSpec.apply welcomeInit.picker :=
  ⟨by decide, @welcomeRun_picker id _ _ _ (by decide)⟩

def PulsePending (s : WelcomeState) : Prop := s.highlightSignup = true → 0 < s.pendingTimeouts

theorem welcomeStep_pulsePending {s s' : WelcomeState} {e : WelcomeEvent} (hs : PulsePending s)
    (h : welcomeStep toLowerCase s e = some s') : PulsePending s' := by
  cases e with
  | fastTransfersClick => cases h; exact fun _ => Nat.succ_pos _
  | highlightTimeout =>
    simp only [welcomeStep] at h
    split_ifs at h
    cases h
    exact fun h => absurd h Bool.false_ne_true
  | fxBadgeClick => cases h; exact hs
  | dropdownClose | queryChange _ | currencySelect _ =>
    simp only [welcomeStep] at h
    split_ifs at h
    cases h
    exact hs

theorem welcomeRun_highlightTimeouts (s : WelcomeState) (n : Nat) (hn : n ≤ s.pendingTimeouts) :
    welcomeRun toLowerCase s (List.replicate n .highlightTimeout) =
      some { s with highlightSignup := s.highlightSignup && n == 0,
                    pendingTimeouts := s.pendingTimeouts - n } := by
  simp only [welcomeRun]
  induction n generalizing s with
  | zero => simp
  | succ n ih =>
    have hpos : 0 < s.pendingTimeouts := by omega
    simp only [List.replicate_succ, List.foldlM_cons, welcomeStep, if_pos hpos,
      Option.bind_eq_bind, Option.some_bind]
    rw [ih _ (by simp only; omega)]
    simp only [Option.some.injEq, WelcomeState.mk.injEq, true_and]
    exact ⟨by simp, by omega⟩

theorem welcome_pulse_ends (toLowerCase : JsString → JsString) (events : List WelcomeEvent)
    (s : WelcomeState) (h : welcomeRun toLowerCase welcomeInit events = some s) :
    ∃ s', welcomeRun toLowerCase s (List.replicate s.pendingTimeouts .highlightTimeout) = some s' ∧
      s'.highlightSignup = false ∧ s'.pendingTimeouts = 0 := by
  have hp : PulsePending s := foldlM_invariant _ PulsePending welcomeStep_pulsePending
    (fun h => absurd h Bool.false_ne_true) h
  refine ⟨_, welcomeRun_highlightTimeouts s _ le_rfl, ?_, Nat.sub_self _⟩
  cases hh : s.highlightSignup
  · rfl
  · simp [Nat.pos_iff_ne_zero.1 (hp hh)]

theorem welcome_pulse_ends_after_tap :
    welcomeRun id welcomeInit [.fastTransfersClick] = some ⟨false, [], ofString "XOF", true, 1⟩ ∧
    ∃ s', welcomeRun id ⟨false, [], ofString "XOF", true, 1⟩ [.highlightTimeout] = some s' ∧
      s'.highlightSignup = false ∧ s'.pendingTimeouts = 0 :=
  ⟨by decide, welcome_pulse_ends id [.fastTransfersClick] _ (by decide)⟩

end

end Nepxy.Canvas
