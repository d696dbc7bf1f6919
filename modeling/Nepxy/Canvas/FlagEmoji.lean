import Nepxy.Js.UnicodeCase

/-!
# Flag glyphs

`flagEmoji` of the registration canvas. An argument whose length is not two gets the white flag;
any other is upper-cased, split into code units, and each unit `u` becomes the code point
`127397 + u`, a regional indicator symbol when `u` is one of `A`–`Z`.

Every unit is below `2^16`, so every such code point is a supplementary scalar value: it is
always accepted by `String.fromCodePoint` and is read back as one code point. The length is
tested before upper-casing, which can lengthen a string (`ß` becomes `SS`), so the number of
symbols is the length of the upper-cased argument. No proof here looks into the case table.
-/

namespace Nepxy.Canvas
open Nepxy.Js Nepxy.Js.JsString

/-- `"🏳️"`: U+1F3F3 WAVING WHITE FLAG, U+FE0F VARIATION SELECTOR-16. -/
def fallbackFlag : JsString := ofString "🏳️"

def regionalCodePoint (u : UInt16) : Nat := 127397 + u.toNat

def flagEmoji (iso2 : JsString) : Except Throw JsString :=
  if iso2.isEmpty || iso2.length != 2 then .ok fallbackFlag
  else fromCodePoint ((toUpperCase iso2).map regionalCodePoint)

theorem codePoints_fallbackFlag : codePoints fallbackFlag = [0x1F3F3, 0xFE0F] := by decide

theorem regionalCodePoint_isScalar (u : UInt16) : IsScalar (regionalCodePoint u) := by
  have := UInt16.toNat_lt u
  refine ⟨?_, .inr ?_⟩ <;> simp only [regionalCodePoint] <;> omega

theorem regionalCodePoint_injective : Function.Injective regionalCodePoint :=
  fun _ _ h => UInt16.ext (by simp only [regionalCodePoint] at h; omega)

theorem flagEmoji_of_length_ne {s : JsString} (h : s.length ≠ 2) :
    flagEmoji s = .ok fallbackFlag := by
  simp [flagEmoji, h]

theorem flagEmoji_of_length_eq {s : JsString} (h : s.length = 2) :
    flagEmoji s = .ok (ofCodePoints ((toUpperCase s).map regionalCodePoint)) := by
  have hne : s.isEmpty = false := List.isEmpty_eq_false_iff_exists_mem.2
    (List.exists_mem_of_length_pos (by omega))
  have hle : ∀ cp ∈ (toUpperCase s).map regionalCodePoint, cp ≤ 0x10FFFF := by
    simp only [List.mem_map]
    rintro _ ⟨u, -, rfl⟩
    exact Nat.le_of_lt_succ (regionalCodePoint_isScalar u).1
  simp only [flagEmoji, hne, h, bne_self_eq_false, Bool.or_self, Bool.false_eq_true, if_false]
  rw [fromCodePoint_eq, if_pos hle]

theorem codePoints_regional (t : JsString) :
    codePoints (ofCodePoints (t.map regionalCodePoint)) = t.map regionalCodePoint :=
  codePoints_ofCodePoints (by simpa using fun u _ => regionalCodePoint_isScalar u)

theorem regional_ne_fallbackFlag (t : JsString) :
    ofCodePoints (t.map regionalCodePoint) ≠ fallbackFlag := by
  intro h
  have hcp := congrArg codePoints h
  rw [codePoints_regional, codePoints_fallbackFlag] at hcp
  have : 0xFE0F ∈ t.map regionalCodePoint := hcp ▸ by simp
  obtain ⟨u, -, hu⟩ := List.mem_map.1 this
  simp only [regionalCodePoint] at hu
  omega

theorem regional_injective :
    Function.Injective fun t : JsString => ofCodePoints (t.map regionalCodePoint) := by
  intro t t' h
  have hcp := congrArg codePoints h
  simp only [codePoints_regional] at hcp
  exact List.map_injective_iff.2 regionalCodePoint_injective hcp

theorem flagEmoji_ok (s : JsString) : ∃ r, flagEmoji s = .ok r := by
  by_cases h : s.length = 2
  · exact ⟨_, flagEmoji_of_length_eq h⟩
  · exact ⟨_, flagEmoji_of_length_ne h⟩

theorem flagEmoji_decode_injective :
    (∀ s, ∃ r, flagEmoji s = .ok r) ∧
    (∀ s, s.length = 2 → ∃ r, flagEmoji s = .ok r ∧
      (codePoints r).map (fun cp : Nat => (cp : Int) - 127397) =
        (toUpperCase s).map (fun u => (u.toNat : Int)) ∧ r ≠ fallbackFlag) ∧
    (∀ s t, s.length = 2 → t.length = 2 →
      (flagEmoji s = flagEmoji t ↔ toUpperCase s = toUpperCase t)) := by
  refine ⟨flagEmoji_ok, fun s h => ⟨_, flagEmoji_of_length_eq h, ?_, regional_ne_fallbackFlag _⟩,
    fun s t hs ht => ?_⟩
  · rw [codePoints_regional, List.map_map]
    exact List.map_congr_left fun u _ => by simp only [Function.comp, regionalCodePoint]; omega
  · rw [flagEmoji_of_length_eq hs, flagEmoji_of_length_eq ht, Except.ok.injEq]
    exact regional_injective.eq_iff

theorem flagEmoji_code_points (s : JsString) :
    (s.length ≠ 2 → flagEmoji s = .ok fallbackFlag) ∧
    (s.length = 2 → ∃ r, flagEmoji s = .ok r ∧
      codePoints r = (toUpperCase s).map (fun u => 127397 + u.toNat)) :=
  ⟨flagEmoji_of_length_ne, fun h => ⟨_, flagEmoji_of_length_eq h, codePoints_regional _⟩⟩

theorem flagEmoji_sharp_s_three_symbols :
    (ofString "ßa").length = 2 ∧ ∃ r, flagEmoji (ofString "ßa") = .ok r ∧
      codePoints r = [127397 + 0x53, 127397 + 0x53, 127397 + 0x41] :=
  ⟨rfl, _, rfl, by decide⟩

end Nepxy.Canvas
