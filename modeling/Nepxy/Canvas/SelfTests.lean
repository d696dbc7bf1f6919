import Nepxy.Canvas.FlagEmoji
import Nepxy.Canvas.CurrencyDropdown

/-!
# Self-tests of the canvases

Both design canvases call `runSelfTests` when the module is loaded, so a check that fails throws
before anything is rendered. Outside production, the registration canvas checks `cn`,
`flagEmoji`, `getRateSafe`, the two catalogs and the currency search; the home canvas checks
`cn` and three design tokens.

The `typeof` checks are left out: the model's types fix them. The currency search lower-cases
its query and the catalog with the built-in, a parameter here as in `CurrencyDropdown`.
-/

namespace Nepxy.Canvas
open Nepxy.Js Nepxy.Js.JsString

/-- An argument is a class name, or `none` for `false`, `null` and `undefined`; the empty name is
falsy too. -/
def cn (classes : List (Option JsString)) : JsString :=
  (ofString " ").intercalate (classes.filterMap fun c => c.filter (!·.isEmpty))

def cnSelfTest : Except Throw Unit := do
  let joined := cn [some (ofString "a"), none, some (ofString "b"), none, none, some (ofString "c")]
  if joined ≠ ofString "a b c" then
    throw (.error (ofString "cn() failed: got \"" ++ joined ++ ofString "\""))

section
variable (toLowerCase : JsString → JsString)

def search (q : JsString) : List JsString :=
  (supportedCurrencies.filter (currencyMatches toLowerCase (toLowerCase (trim q)))).map (·.code)

def runSelfTests (isProd : Bool) : Except Throw Unit := do
  if isProd then return
  cnSelfTest
  let us ← flagEmoji (ofString "US")
  if us.length = 0 then throw (.error (ofString "flagEmoji() failed"))
  if us = fallbackFlag then
    throw (.error (ofString "flagEmoji() should not return fallback for valid iso2"))
  let r1 := getRateSafe (ofString "XOF")
  let r2 := getRateSafe (ofString "ZZZ")
  if r2 ≠ 1 then throw (.error (ofString "getRateSafe() default should be 1"))
  if r1 ≤ 0 then throw (.error (ofString "getRateSafe() should return a positive number"))
  let hasUS := countryRegions.any fun c => c.iso2 = ofString "US" && c.dial = ofString "+1"
  if !hasUS then throw (.error (ofString "COUNTRY_REGIONS missing US (+1)"))
  let hasUSD := supportedCurrencies.any (·.code = ofString "USD")
  if !hasUSD then throw (.error (ofString "SUPPORTED_CURRENCIES missing USD"))
  let hasXOF := supportedCurrencies.any (·.code = ofString "XOF")
  if !hasXOF then throw (.error (ofString "SUPPORTED_CURRENCIES missing XOF"))
  let codes := supportedCurrencies.map (·.code)
  if codes.eraseDups.length ≠ codes.length then
    throw (.error (ofString "SUPPORTED_CURRENCIES has duplicate codes"))
  let iso2s := countryRegions.map (·.iso2)
  if iso2s.eraseDups.length ≠ iso2s.length then
    throw (.error (ofString "COUNTRY_REGIONS has duplicate iso2 entries"))
  if !(search toLowerCase (ofString "xof")).contains (ofString "XOF") then
    throw (.error (ofString "Currency search should match by code"))
  if !(search toLowerCase (ofString "ghana")).contains (ofString "GHS") then
    throw (.error (ofString "Currency search should match by name"))

end

namespace HomeDark

structure Tokens where
  brandName : JsString
  accentBg : JsString
  accentBgHover : JsString
  deriving DecidableEq, Repr

def tokens : Tokens := ⟨ofString "Nepxy", ofString "bg-cyan-500", ofString "hover:bg-cyan-400"⟩

def runSelfTests (isProd : Bool) : Except Throw Unit := do
  if isProd then return
  cnSelfTest
  if tokens.accentBg.isEmpty || tokens.accentBgHover.isEmpty then
    throw (.error (ofString "TOKENS.colors accent values missing"))
  if tokens.brandName.isEmpty then throw (.error (ofString "TOKENS.brand.name missing"))

end HomeDark

end Nepxy.Canvas
