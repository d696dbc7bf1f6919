import Nepxy.Js.Json

/-!
# JSON serialisation

`JSON.stringify` with no replacer and no indentation. A string is written by `QuoteJSONString`:
the seven characters with a short escape get it, other control characters and unpaired
surrogates get `\u` and four lowercase hexadecimal digits, every other code point is copied.
A number is written as its lexeme, members in the order they are stored; the site serialises
only records of strings and booleans, where both agree with the built-in.

The parser reads back what is written: `parseStringBody_quoted` for a string,
`jsonParse_stringify` for any value without numbers (a number is written as the lexeme it holds,
which nothing checks), and `jsonParse_stringify_record` for the records the site sends.
-/

namespace Nepxy.Js
open JsString

namespace Json

def hexDigitUnit (d : Nat) : UInt16 := UInt16.ofNat (if d < 10 then 0x30 + d else 0x57 + d)

def unicodeEscape (cp : Nat) : JsString :=
  [0x5C, 0x75, hexDigitUnit (cp / 0x1000 % 16), hexDigitUnit (cp / 0x100 % 16),
    hexDigitUnit (cp / 0x10 % 16), hexDigitUnit (cp % 16)]

def quoteCodePoint (cp : Nat) : JsString :=
  if cp = 0x08 then [0x5C, 0x62]
  else if cp = 0x09 then [0x5C, 0x74]
  else if cp = 0x0A then [0x5C, 0x6E]
  else if cp = 0x0C then [0x5C, 0x66]
  else if cp = 0x0D then [0x5C, 0x72]
  else if cp = 0x22 then [0x5C, 0x22]
  else if cp = 0x5C then [0x5C, 0x5C]
  else if cp < 0x20 ∨ 0xD800 ≤ cp ∧ cp ≤ 0xDFFF then unicodeEscape cp
  else encodeCodePoint cp

def quoteJsonString (s : JsString) : JsString :=
  0x22 :: (codePoints s).flatMap quoteCodePoint ++ [0x22]

mutual
def stringify : JsonValue → JsString
  | .null => ofString "null"
  | .bool true => ofString "true"
  | .bool false => ofString "false"
  | .number lexeme => lexeme
  | .string s => quoteJsonString s
  | .array elements => 0x5B :: stringifyElements elements ++ [0x5D]
  | .object members => 0x7B :: stringifyMembers members ++ [0x7D]
def stringifyElements : List JsonValue → JsString
  | [] => []
  | v :: vs => stringify v ++ match vs with
    | [] => []
    | _ :: _ => 0x2C :: stringifyElements vs
def stringifyMembers : List (JsString × JsonValue) → JsString
  | [] => []
  | (key, v) :: ms => quoteJsonString key ++ 0x3A :: stringify v ++ match ms with
    | [] => []
    | _ :: _ => 0x2C :: stringifyMembers ms
end

def isScalar : JsonValue → Bool
  | .null | .bool _ | .string _ => true
  | _ => false

mutual
def numberFree : JsonValue → Bool
  | .number _ => false
  | .array elements => numberFreeElements elements
  | .object members => numberFreeMembers members
  | .null | .bool _ | .string _ => true
def numberFreeElements : List JsonValue → Bool
  | [] => true
  | v :: vs => numberFree v && numberFreeElements vs
def numberFreeMembers : List (JsString × JsonValue) → Bool
  | [] => true
  | (_, v) :: ms => numberFree v && numberFreeMembers ms
end


theorem skipWs_cons {u : UInt16} (h : isWs u = false) (t : JsString) : skipWs (u :: t) = u :: t := by
  simp [skipWs, h]

theorem token_cons_self {c : UInt16} (h : isWs c = false) (t : JsString) :
    token c (c :: t) = some t := by
  simp [token, skipWs_cons h]

theorem token_cons_ne {c u : UInt16} (h : isWs u = false) (hu : u ≠ c) (t : JsString) :
    token c (u :: t) = none := by
  simp [token, skipWs_cons h, hu]

theorem parseWord_append (word t : JsString) : parseWord word (word ++ t) = some t := by
  simp [parseWord, List.prefix_append]

theorem hexDigitValue_hexDigitUnit : ∀ d < 16, hexDigitValue (hexDigitUnit d) = some d := by
  decide

theorem hex4Value_unicodeEscape {cp : Nat} (h : cp < 0x10000) :
    hex4Value (hexDigitUnit (cp / 0x1000 % 16)) (hexDigitUnit (cp / 0x100 % 16))
      (hexDigitUnit (cp / 0x10 % 16)) (hexDigitUnit (cp % 16)) = some (UInt16.ofNat cp) := by
  simp only [hex4Value, hexDigitValue_hexDigitUnit _ (Nat.mod_lt _ (by decide : 0 < 16)),
    Option.bind_eq_bind, Option.some_bind]
  exact congrArg (some ∘ UInt16.ofNat) (by omega)

theorem parseStringBody_plain {u : UInt16} (h : 0x20 ≤ u.toNat) (hq : u ≠ 0x22) (hb : u ≠ 0x5C)
    (t : JsString) :
    parseStringBody (u :: t) = (fun (s, r) => (u :: s, r)) <$> parseStringBody t := by
  rw [parseStringBody.eq_def]
  simp only [if_neg hq, if_neg hb, if_neg (show ¬u.toNat < 32 by omega)]

theorem parseStringBody_escape {e unit : UInt16} (he : e ≠ 0x75) (h : escapedUnit e = some unit)
    (t : JsString) :
    parseStringBody (0x5C :: e :: t) = (fun (s, r) => (unit :: s, r)) <$> parseStringBody t := by
  rw [parseStringBody.eq_def]
  simp only [show (0x5C : UInt16) ≠ 0x22 by decide, if_false, if_true, if_neg he, h,
    Option.bind_eq_bind, Option.some_bind]
  cases parseStringBody t <;> rfl

theorem parseStringBody_unicodeEscape {cp : Nat} (h : cp < 0x10000) (t : JsString) :
    parseStringBody (unicodeEscape cp ++ t) =
      (fun (s, r) => (UInt16.ofNat cp :: s, r)) <$> parseStringBody t := by
  rw [unicodeEscape, parseStringBody.eq_def]
  simp only [List.cons_append, List.nil_append, show (0x5C : UInt16) ≠ 0x22 by decide, if_false,
    if_true, hex4Value_unicodeEscape h, Option.bind_eq_bind, Option.some_bind]
  cases parseStringBody t <;> rfl

theorem parseStringBody_quoteCodePoint {cp : Nat} (h : cp < 0x110000) (t : JsString) :
    parseStringBody (quoteCodePoint cp ++ t) =
      (fun (s, r) => (encodeCodePoint cp ++ s, r)) <$> parseStringBody t := by
  by_cases hs : cp = 0x08 ∨ cp = 0x09 ∨ cp = 0x0A ∨ cp = 0x0C ∨ cp = 0x0D ∨ cp = 0x22 ∨ cp = 0x5C
  · rcases hs with rfl | rfl | rfl | rfl | rfl | rfl | rfl <;>
      exact parseStringBody_escape (by decide) (by decide) t
  obtain ⟨h8, h9, h10, h12, h13, hq, hb⟩ := by simpa only [not_or] using hs
  rw [quoteCodePoint, if_neg h8, if_neg h9, if_neg h10, if_neg h12, if_neg h13, if_neg hq,
    if_neg hb]
  split
  · rw [parseStringBody_unicodeEscape (by omega), encodeCodePoint, if_pos (by omega)]
    rfl
  · unfold encodeCodePoint
    split
    · rw [List.singleton_append, parseStringBody_plain]
      · rfl
      all_goals simp only [ne_eq, UInt16.ext_iff, uint16_toNat_ofNat, UInt16.toNat_ofNat,
        UInt16.size]; omega
    · rw [List.cons_append, List.singleton_append, parseStringBody_plain, parseStringBody_plain]
      · cases parseStringBody t <;> rfl
      all_goals simp only [ne_eq, UInt16.ext_iff, uint16_toNat_ofNat, UInt16.toNat_ofNat,
        UInt16.size]; omega

theorem parseStringBody_quoted {cps : List Nat} (h : ∀ cp ∈ cps, cp < 0x110000)
    (rest : JsString) :
    parseStringBody (cps.flatMap quoteCodePoint ++ 0x22 :: rest) = some (ofCodePoints cps, rest) := by
  induction cps with
  | nil => rw [parseStringBody.eq_def]; rfl
  | cons cp cps ih =>
    rw [List.forall_mem_cons] at h
    rw [List.flatMap_cons, List.append_assoc, parseStringBody_quoteCodePoint h.1, ih h.2]
    rfl

theorem parseStringBody_quoteJsonString (s rest : JsString) :
    parseStringBody ((codePoints s).flatMap quoteCodePoint ++ 0x22 :: rest) = some (s, rest) := by
  rw [parseStringBody_quoted (codePoints_lt s), ofCodePoints_codePoints]

theorem parseValue_stringify_scalar {v : JsonValue} (hv : isScalar v) (fuel : Nat)
    (rest : JsString) : parseValue (fuel + 1) (stringify v ++ rest) = some (v, rest) := by
  cases v with
  | null => exact congrArg (Option.map _) (parseWord_append _ rest)
  | bool b => cases b <;> exact congrArg (Option.map _) (parseWord_append _ rest)
  | string s =>
    simp only [stringify, quoteJsonString, List.cons_append, List.append_assoc, List.singleton_append,
      parseValue, skipWs_cons (show isWs 0x22 = false by decide)]
    rw [parseStringBody_quoteJsonString]
    rfl
  | _ => simp [isScalar] at hv

theorem numberFree_of_isScalar {v : JsonValue} (h : isScalar v) : numberFree v := by
  cases v <;> first | rfl | cases h

theorem numberFreeElements_iff {vs : List JsonValue} :
    numberFreeElements vs ↔ ∀ v ∈ vs, numberFree v := by
  induction vs with
  | nil => simp [numberFreeElements]
  | cons v vs ih => simp [numberFreeElements, ih]

theorem numberFreeMembers_iff {ms : List (JsString × JsonValue)} :
    numberFreeMembers ms ↔ ∀ m ∈ ms, numberFree m.2 := by
  induction ms with
  | nil => simp [numberFreeMembers]
  | cons m ms ih => obtain ⟨k, v⟩ := m; simp [numberFreeMembers, ih]

theorem stringify_head {v : JsonValue} (hv : numberFree v) :
    ∃ u t, stringify v = u :: t ∧ isWs u = false ∧ u ≠ 0x5D ∧ u ≠ 0x7D := by
  cases v with
  | null => exact ⟨_, _, rfl, by decide, by decide, by decide⟩
  | bool b => cases b <;> exact ⟨_, _, rfl, by decide, by decide, by decide⟩
  | string s => exact ⟨0x22, _, rfl, by decide, by decide, by decide⟩
  | array vs => exact ⟨0x5B, _, rfl, by decide, by decide, by decide⟩
  | object ms => exact ⟨0x7B, _, rfl, by decide, by decide, by decide⟩
  | number _ => simp [numberFree] at hv


theorem length_stringify_le_elements {v : JsonValue} {vs : List JsonValue} (h : v ∈ vs) :
    (stringify v).length ≤ (stringifyElements vs).length := by
  induction vs with
  | nil => cases h
  | cons w vs ih =>
    simp only [stringifyElements, List.length_append]
    rcases List.mem_cons.1 h with rfl | h
    · omega
    · cases vs with
      | nil => cases h
      | cons => have := ih h; simp only [List.length_cons]; omega

theorem length_le_stringifyElements {vs : List JsonValue} (h : ∀ v ∈ vs, numberFree v) :
    vs.length ≤ (stringifyElements vs).length := by
  induction vs with
  | nil => simp
  | cons v vs ih =>
    rw [List.forall_mem_cons] at h
    obtain ⟨u, t, hu, -⟩ := stringify_head h.1
    have := ih h.2
    simp only [stringifyElements, hu, List.length_append, List.length_cons]
    cases vs with
    | nil => simp
    | cons => simp only [List.length_cons] at this ⊢; omega

theorem length_stringify_le_members {m : JsString × JsonValue} {ms : List (JsString × JsonValue)}
    (h : m ∈ ms) : (stringify m.2).length ≤ (stringifyMembers ms).length := by
  induction ms with
  | nil => cases h
  | cons w ms ih =>
    obtain ⟨k, v⟩ := w
    simp only [stringifyMembers, List.length_append, List.length_cons]
    rcases List.mem_cons.1 h with rfl | h
    · dsimp only; omega
    · cases ms with
      | nil => cases h
      | cons => have := ih h; simp only [List.length_cons]; omega

theorem length_le_stringifyMembers (ms : List (JsString × JsonValue)) :
    ms.length ≤ (stringifyMembers ms).length := by
  induction ms with
  | nil => simp [stringifyMembers]
  | cons m ms ih =>
    obtain ⟨key, v⟩ := m
    cases ms with
    | nil => simp [stringifyMembers, quoteJsonString]
    | cons m' ms' =>
      rw [stringifyMembers.eq_def]
      simp only [List.length_append, List.length_cons, quoteJsonString] at ih ⊢
      omega

section Readers

variable {value : JsString → Option (JsonValue × JsString)}

theorem parseElements_stringifyElements {vs : List JsonValue} (hne : vs ≠ [])
    (hval : ∀ v ∈ vs, ∀ rest, value (stringify v ++ rest) = some (v, rest))
    {n : Nat} (hn : vs.length ≤ n) (rest : JsString) :
    parseElements value n (stringifyElements vs ++ 0x5D :: rest) = some (vs, rest) := by
  induction vs generalizing n with
  | nil => exact absurd rfl hne
  | cons v vs ih =>
    obtain ⟨n, rfl⟩ : ∃ k, n = k + 1 := ⟨n - 1, by simp only [List.length_cons] at hn; omega⟩
    rw [List.forall_mem_cons] at hval
    simp only [stringifyElements, List.append_assoc, parseElements, Option.bind_eq_bind, hval.1,
      Option.some_bind]
    cases vs with
    | nil =>
      simp only [List.nil_append, token_cons_ne (show isWs 0x5D = false by decide)
        (show (0x5D : UInt16) ≠ 0x2C by decide), token_cons_self (show isWs 0x5D = false by decide)]
      rfl
    | cons v' vs' =>
      simp only [List.cons_append, token_cons_self (show isWs 0x2C = false by decide)]
      rw [ih (List.cons_ne_nil _ _) hval.2 (by simpa using hn)]
      rfl

theorem parseMembers_stringifyMembers {ms : List (JsString × JsonValue)} (hne : ms ≠ [])
    (hval : ∀ m ∈ ms, ∀ rest, value (stringify m.2 ++ rest) = some (m.2, rest))
    {n : Nat} (hn : ms.length ≤ n) (rest : JsString) :
    parseMembers value n (stringifyMembers ms ++ 0x7D :: rest) = some (ms, rest) := by
  induction ms generalizing n with
  | nil => exact absurd rfl hne
  | cons m ms ih =>
    obtain ⟨key, v⟩ := m
    obtain ⟨n, rfl⟩ : ∃ k, n = k + 1 := ⟨n - 1, by simp only [List.length_cons] at hn; omega⟩
    rw [List.forall_mem_cons] at hval
    simp only [stringifyMembers, quoteJsonString, List.cons_append, List.append_assoc,
      List.singleton_append, List.nil_append, parseMembers, Option.bind_eq_bind,
      token_cons_self (show isWs 0x22 = false by decide), Option.some_bind,
      parseStringBody_quoteJsonString, token_cons_self (show isWs 0x3A = false by decide), hval.1]
    cases ms with
    | nil =>
      simp only [token_cons_ne (show isWs 0x7D = false by decide)
        (show (0x7D : UInt16) ≠ 0x2C by decide), token_cons_self (show isWs 0x7D = false by decide)]
      rfl
    | cons m' ms' =>
      simp only [List.cons_append, token_cons_self (show isWs 0x2C = false by decide)]
      rw [ih (List.cons_ne_nil _ _) hval.2 (by simpa using hn)]
      rfl

end Readers

theorem parseValue_stringify : ∀ {fuel : Nat} {v : JsonValue}, numberFree v →
    (stringify v).length < fuel → ∀ rest, parseValue fuel (stringify v ++ rest) = some (v, rest)
  | 0, _, _, h, _ => absurd h (Nat.not_lt_zero _)
  | fuel + 1, v, hv, hlen, rest => by
    have ih : ∀ w, numberFree w → (stringify w).length < fuel →
        ∀ rest, parseValue fuel (stringify w ++ rest) = some (w, rest) :=
      fun _ hw hl => parseValue_stringify hw hl
    cases v with
    | null | bool _ | string _ => exact parseValue_stringify_scalar (by rfl) fuel rest
    | number _ => cases hv
    | array vs =>
      rw [numberFree, numberFreeElements_iff] at hv
      simp only [stringify, List.length_cons, List.length_append, List.length_singleton,
        List.length_nil] at hlen
      simp only [stringify, List.cons_append, List.append_assoc, List.nil_append]
      rw [parseValue, skipWs_cons (by decide)]
      dsimp only
      rw [if_neg (by decide), if_pos rfl]
      cases vs with
      | nil => rfl
      | cons v vs =>
        obtain ⟨u, t, hu, hws, hb, -⟩ := stringify_head (hv v (List.mem_cons_self _ _))
        obtain ⟨t', ht'⟩ : ∃ t', stringifyElements (v :: vs) ++ 0x5D :: rest = u :: t' := by
          cases vs <;> simp [stringifyElements, hu]
        have := length_le_stringifyElements hv
        rw [ht', token_cons_ne hws hb, ← ht', parseElements_stringifyElements (List.cons_ne_nil _ _)
          (fun w hw => ih w (hv w hw) (by have := length_stringify_le_elements hw; omega)) (by omega)]
        rfl
    | object ms =>
      rw [numberFree, numberFreeMembers_iff] at hv
      simp only [stringify, List.length_cons, List.length_append, List.length_singleton,
        List.length_nil] at hlen
      simp only [stringify, List.cons_append, List.append_assoc, List.nil_append]
      rw [parseValue, skipWs_cons (by decide)]
      dsimp only
      rw [if_pos rfl]
      cases ms with
      | nil => rfl
      | cons m ms =>
        obtain ⟨t', ht'⟩ : ∃ t', stringifyMembers (m :: ms) ++ 0x7D :: rest = 0x22 :: t' := by
          cases ms <;> simp [stringifyMembers, quoteJsonString]
        have := length_le_stringifyMembers (m :: ms)
        rw [ht', token_cons_ne (by decide) (by decide), ← ht', parseMembers_stringifyMembers
          (List.cons_ne_nil _ _)
          (fun m hm => ih m.2 (hv m hm) (by have := length_stringify_le_members hm; omega)) (by omega)]
        rfl

theorem jsonParse_eq_of_parseValue {text : JsString} {v : JsonValue}
    (h : parseValue (text.length + 1) text = some (v, [])) : jsonParse text = .ok v := by
  simp only [jsonParse, h]
  rfl

theorem parseValue_stringify_self {v : JsonValue} (hv : numberFree v) :
    parseValue ((stringify v).length + 1) (stringify v) = some (v, []) := by
  simpa using parseValue_stringify hv (Nat.lt_succ_self _) []

/-- `JSON.parse(JSON.stringify(v))` gives `v` back for every value without numbers, at any
depth of nesting. -/
theorem jsonParse_stringify {v : JsonValue} (hv : numberFree v) :
    jsonParse (stringify v) = .ok v :=
  jsonParse_eq_of_parseValue (parseValue_stringify_self hv)

theorem jsonParse_stringify_nested :
    numberFree (.array [.null, .object [(ofString "k", .array [.bool false])]]) ∧
    jsonParse (stringify (.array [.null, .object [(ofString "k", .array [.bool false])]])) =
      .ok (.array [.null, .object [(ofString "k", .array [.bool false])]]) :=
  ⟨by decide, jsonParse_stringify (by decide)⟩

/-- A record of strings, booleans and nulls is read back from its serialisation. -/
theorem jsonParse_stringify_record {ms : List (JsString × JsonValue)}
    (hs : ∀ m ∈ ms, isScalar m.2) : jsonParse (stringify (.object ms)) = .ok (.object ms) := by
  have hv : numberFree (.object ms) := by
    rw [numberFree, numberFreeMembers_iff]
    exact fun m hm => numberFree_of_isScalar (hs m hm)
  exact jsonParse_eq_of_parseValue (parseValue_stringify_self hv)

theorem jsonParse_stringify_record_ok :
    (∀ m ∈ [(ofString "ok", JsonValue.bool true)], isScalar m.2) ∧
    jsonParse (stringify (.object [(ofString "ok", .bool true)])) =
      .ok (.object [(ofString "ok", .bool true)]) :=
  ⟨by decide, jsonParse_stringify_record (by decide)⟩

end Json

end Nepxy.Js
