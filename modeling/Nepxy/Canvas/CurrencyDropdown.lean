import Nepxy.Canvas.Catalog

/-!
# Currency search

The lists `CurrencyDropdown` renders. The query is trimmed and lower-cased; a currency matches
an empty query, or one that occurs in its lower-cased code or name. The matches are split, in
catalog order, into those with a popular code and the rest.

`toLowerCase` is the Unicode lower-casing of the built-in, whose result for a letter depends on
its neighbours (final sigma). It is a variable here; nothing below depends on what it computes,
and every result holds for any catalog and any list of popular codes.
-/

namespace Nepxy.Canvas
open Nepxy.Js Nepxy.Js.JsString

structure DropdownLists where
  popular : List Currency
  rest : List Currency
  deriving DecidableEq, Repr

def popularCodes : List JsString :=
  [ofString "XOF", ofString "GHS", ofString "NGN", ofString "EUR", ofString "GBP", ofString "USD"]

section
variable (toLowerCase : JsString → JsString)

def currencyMatches (q : JsString) (c : Currency) : Bool :=
  if q.isEmpty then true
  else includes (toLowerCase c.code) q || includes (toLowerCase c.name) q

def dropdownLists (catalog : List Currency) (codes : List JsString) (query : JsString) :
    DropdownLists :=
  let q := toLowerCase (trim query)
  let filtered := catalog.filter (currencyMatches toLowerCase q)
  ⟨filtered.filter (codes.contains ·.code), filtered.filter (!codes.contains ·.code)⟩

def currencyDropdown (isOpen : Bool) (query : JsString) : Option DropdownLists :=
  if isOpen then some (dropdownLists toLowerCase supportedCurrencies popularCodes query) else none

/-- A currency is listed for the normalised query `n`: `n` is empty or occurs in its lower-cased
code or name. -/
def MatchesQuery (n : JsString) (c : Currency) : Prop :=
  n = [] ∨ n <:+: toLowerCase c.code ∨ n <:+: toLowerCase c.name

theorem currencyMatches_iff {n : JsString} {c : Currency} :
    currencyMatches toLowerCase n c ↔ MatchesQuery toLowerCase n c := by
  unfold currencyMatches MatchesQuery
  cases n <;> simp [includes_iff_occurs]

instance (n : JsString) : DecidablePred (MatchesQuery toLowerCase n) :=
  fun _ => decidable_of_iff _ (currencyMatches_iff toLowerCase)

variable {toLowerCase}

theorem currencyMatches_eq_decide (n : JsString) (c : Currency) :
    currencyMatches toLowerCase n c = decide (MatchesQuery toLowerCase n c) :=
  Bool.eq_iff_iff.2 (by simp [currencyMatches_iff])

theorem dropdownLists_popular (catalog : List Currency) (codes : List JsString) (query : JsString) :
    (dropdownLists toLowerCase catalog codes query).popular = catalog.filter fun c =>
      MatchesQuery toLowerCase (toLowerCase (trim query)) c ∧ c.code ∈ codes := by
  simp only [dropdownLists, List.filter_filter]
  exact List.filter_congr fun c _ => by simp [currencyMatches_eq_decide, and_comm]

theorem dropdownLists_rest (catalog : List Currency) (codes : List JsString) (query : JsString) :
    (dropdownLists toLowerCase catalog codes query).rest = catalog.filter fun c =>
      MatchesQuery toLowerCase (toLowerCase (trim query)) c ∧ c.code ∉ codes := by
  simp only [dropdownLists, List.filter_filter]
  exact List.filter_congr fun c _ => by simp [currencyMatches_eq_decide, and_comm]

theorem dropdownLists_perm (catalog : List Currency) (codes : List JsString) (query : JsString) :
    List.Perm ((dropdownLists toLowerCase catalog codes query).popular ++
      (dropdownLists toLowerCase catalog codes query).rest)
      (catalog.filter (MatchesQuery toLowerCase (toLowerCase (trim query)) ·)) := by
  have hf : catalog.filter (currencyMatches toLowerCase (toLowerCase (trim query))) =
      catalog.filter (MatchesQuery toLowerCase (toLowerCase (trim query)) ·) :=
    List.filter_congr fun c _ => currencyMatches_eq_decide _ c
  simpa only [dropdownLists, hf] using List.filter_append_perm _ _

theorem dropdownLists_partition (catalog : List Currency) (codes : List JsString)
    (query : JsString) :
    let n := toLowerCase (trim query)
    let lists := dropdownLists toLowerCase catalog codes query
    (∀ c ∈ catalog, c ∈ lists.popular ++ lists.rest ↔ MatchesQuery toLowerCase n c) ∧
    lists.popular = catalog.filter (fun c => MatchesQuery toLowerCase n c ∧ c.code ∈ codes) ∧
    lists.rest = catalog.filter (fun c => MatchesQuery toLowerCase n c ∧ c.code ∉ codes) ∧
    (∀ c ∈ lists.popular, c ∉ lists.rest) ∧
    lists.popular.Sublist catalog ∧ lists.rest.Sublist catalog ∧
    (lists.popular ++ lists.rest).Perm (catalog.filter (MatchesQuery toLowerCase n ·)) := by
  intro n lists
  have hp := @dropdownLists_popular toLowerCase catalog codes query
  have hr := @dropdownLists_rest toLowerCase catalog codes query
  refine ⟨fun c hc => ?_, hp, hr, fun c hc hc' => ?_, hp ▸ List.filter_sublist _,
    hr ▸ List.filter_sublist _, dropdownLists_perm catalog codes query⟩
  · simp only [lists, hp, hr, List.mem_append, List.mem_filter, decide_eq_true_eq]
    by_cases hcode : c.code ∈ codes <;> simp [hc, hcode]
  · rw [hp, List.mem_filter] at hc
    rw [hr, List.mem_filter] at hc'
    simp only [decide_eq_true_eq] at hc hc'
    exact hc'.2.2 hc.2.2

end

end Nepxy.Canvas
