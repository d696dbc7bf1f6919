import Mathlib.Algebra.Order.Field.Rat
import Mathlib.Tactic.NormNum
import Nepxy.Js.JsString

/-!
# Demo reference data

The country and currency catalogs of the registration canvas and its demo rate table. Number
literals of the table are their exact decimal values; the code only compares rates with `0` and
`1`, where the binary approximation of a literal gives the same answer.
-/

namespace Nepxy.Canvas
open Nepxy.Js Nepxy.Js.JsString

structure Country where
  iso2 : JsString
  dial : JsString
  deriving DecidableEq, Repr

structure Currency where
  code : JsString
  name : JsString
  deriving DecidableEq, Repr

def countryRegions : List Country := [
  ⟨ofString "US", ofString "+1"⟩,
  ⟨ofString "GH", ofString "+233"⟩,
  ⟨ofString "BJ", ofString "+229"⟩,
  ⟨ofString "TG", ofString "+228"⟩,
  ⟨ofString "GB", ofString "+44"⟩]

def supportedCurrencies : List Currency := [
  ⟨ofString "USD", ofString "US Dollar"⟩,
  ⟨ofString "EUR", ofString "Euro"⟩,
  ⟨ofString "GBP", ofString "British Pound"⟩,
  ⟨ofString "CAD", ofString "Canadian Dollar"⟩,
  ⟨ofString "GHS", ofString "Ghanaian Cedi"⟩,
  ⟨ofString "XOF", ofString "West African CFA franc"⟩,
  ⟨ofString "XAF", ofString "Central African CFA franc"⟩,
  ⟨ofString "NGN", ofString "Nigerian Naira"⟩,
  ⟨ofString "KES", ofString "Kenyan Shilling"⟩]

def demoRate : List (JsString × ℚ) := [
  (ofString "XOF", 610), (ofString "GHS", 13.2), (ofString "NGN", 1450), (ofString "XAF", 610),
  (ofString "KES", 158), (ofString "EUR", 0.92), (ofString "GBP", 0.79)]

/-- `hasOwnProperty` on the table, then the stored rate; `1` for any other code. -/
def getRateSafe (code : JsString) : ℚ :=
  match demoRate.lookup code with
  | some rate => rate
  | none => 1

end Nepxy.Canvas
