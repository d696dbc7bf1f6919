import Nepxy.Js.Json

/-!
# Fuel of the JSON parser

`jsonParse` runs the parser with one unit of fuel per code unit of the text, plus one. No
reader leaves more than it was given, and each unit of fuel the parser spends is matched by a
unit read (an opening bracket for a level of nesting, a comma for one more element), so past
the length of the text more fuel never changes the parse: `jsonParse_fuel_stable`. The fuel is
never what makes `jsonParse` reject a text.
-/

namespace Nepxy.Js

namespace Json

theorem skipWs_length_le (s : JsString) : (skipWs s).length ≤ s.length :=
  (List.dropWhile_suffix _).length_le

theorem token_length {c : UInt16} {s r : JsString} (h : token c s = some r) :
    r.length < s.length := by
  have hs := skipWs_length_le s
  unfold token at h
  split at h
  · next u rest hw =>
    rw [hw, List.length_cons] at hs
    split at h
    · cases h; omega
    · cases h
  · cases h

theorem parseWord_length {w s r : JsString} (h : parseWord w s = some r) : r.length ≤ s.length := by
  unfold parseWord at h
  split at h
  · cases h; simp
  · cases h

theorem parseStringBody_length {s body r : JsString} (h : parseStringBody s = some (body, r)) :
    r.length ≤ s.length := by
  induction s using parseStringBody.induct generalizing body r with
  | case1 => cases h
  | case2 rest =>
    rw [parseStringBody.eq_def] at h
    simp only [if_pos, Option.some.injEq, Prod.mk.injEq] at h
    simp [h.2]
  | case3 | case5 => rw [parseStringBody.eq_def] at h; simp at h
  | case4 a b c d rest _ ih =>
    rw [parseStringBody.eq_def] at h
    simp [Option.bind_eq_some] at h
    obtain ⟨_, _, _, hb, -⟩ := h
    have := ih hb; simp; omega
  | case6 e rest he _ ih =>
    rw [parseStringBody.eq_def] at h
    simp [he, Option.bind_eq_some] at h
    obtain ⟨_, _, _, hb, -⟩ := h
    have := ih hb; simp; omega
  | case7 u rest hq hb hc => rw [parseStringBody.eq_def] at h; simp [hq, hb, hc] at h
  | case8 u rest hq hb hc ih =>
    rw [parseStringBody.eq_def] at h
    simp [hq, hb, hc] at h
    obtain ⟨_, hb, -⟩ := h
    have := ih hb; simp; omega

theorem digits1_length {s ds r : JsString} (h : digits1 s = some (ds, r)) : r.length ≤ s.length := by
  unfold digits1 at h
  split at h
  · cases h
  · cases h; exact (List.dropWhile_suffix _).length_le

theorem parseInt_length {s i r : JsString} (h : parseInt s = some (i, r)) : r.length ≤ s.length := by
  cases s with
  | nil => cases h
  | cons u rest =>
    have := (List.dropWhile_suffix (l := rest) isDigit).length_le
    simp only [parseInt] at h
    split_ifs at h <;> simp only [Option.some.injEq, Prod.mk.injEq, reduceCtorEq] at h <;>
      simp only [← h.2, List.length_cons] <;> omega

theorem parseFrac_length {s f r : JsString} (h : parseFrac s = some (f, r)) : r.length ≤ s.length := by
  cases s with
  | nil => cases h; rfl
  | cons u rest =>
    simp only [parseFrac] at h
    split_ifs at h
    · simp only [Option.map_eq_map, Option.map_eq_some', Prod.exists, Prod.mk.injEq] at h
      obtain ⟨_, _, hd, -, rfl⟩ := h
      have := digits1_length hd; simp; omega
    · cases h; rfl

theorem parseExp_length {s e r : JsString} (h : parseExp s = some (e, r)) : r.length ≤ s.length := by
  cases s with
  | nil => cases h; rfl
  | cons u rest =>
    simp only [parseExp] at h
    split_ifs at h
    · split at h
      · split_ifs at h <;>
        simp only [Option.map_eq_map, Option.map_eq_some', Prod.exists, Prod.mk.injEq] at h <;>
        obtain ⟨_, _, hd, -, rfl⟩ := h <;>
        have := digits1_length hd <;> simp_all <;> omega
      · cases h
    · cases h; rfl

theorem parseNumber_length {s n r : JsString} (h : parseNumber s = some (n, r)) :
    r.length ≤ s.length := by
  simp only [parseNumber, Option.bind_eq_bind, Option.bind_eq_some] at h
  obtain ⟨⟨_, s₁⟩, hi, ⟨_, s₂⟩, hf, ⟨_, s₃⟩, he, h⟩ := h
  cases h
  have := parseFrac_length hf
  have := parseExp_length he
  cases s with
  | nil => cases hi
  | cons u rest =>
    have := parseInt_length hi
    dsimp only at *
    split_ifs at this <;> simp only [List.length_cons] at * <;> omega

section Loops

variable {value : JsString → Option (JsonValue × JsString)}

theorem parseElements_length (hc : ∀ {s v r}, value s = some (v, r) → r.length ≤ s.length) :
    ∀ {n : Nat} {s vs r}, parseElements value n s = some (vs, r) → r.length ≤ s.length
  | 0, _, _, _, h => by cases h
  | n + 1, s, vs, r, h => by
    simp only [parseElements, Option.bind_eq_bind, Option.bind_eq_some] at h
    obtain ⟨⟨v, s₁⟩, h₁, h⟩ := h
    dsimp only at h
    have := hc h₁
    split at h
    · next s₂ h₂ =>
      simp only [Option.map_eq_map, Option.map_eq_some', Prod.exists, Prod.mk.injEq] at h
      obtain ⟨_, _, hrec, -, rfl⟩ := h
      have := parseElements_length hc hrec
      have := token_length h₂
      omega
    · simp only [Option.map_eq_map, Option.map_eq_some', Prod.mk.injEq] at h
      obtain ⟨_, h₂, -, rfl⟩ := h
      have := token_length h₂
      omega

theorem parseMembers_length (hc : ∀ {s v r}, value s = some (v, r) → r.length ≤ s.length) :
    ∀ {n : Nat} {s ms r}, parseMembers value n s = some (ms, r) → r.length ≤ s.length
  | 0, _, _, _, h => by cases h
  | n + 1, s, ms, r, h => by
    simp only [parseMembers, Option.bind_eq_bind, Option.bind_eq_some] at h
    obtain ⟨s₁, h₁, ⟨key, s₂⟩, h₂, s₃, h₃, ⟨v, s₄⟩, h₄, h⟩ := h
    dsimp only at h₃ h
    have := token_length h₁
    have := parseStringBody_length h₂
    have := token_length h₃
    have := hc h₄
    split at h
    · next s₅ h₅ =>
      simp only [Option.map_eq_map, Option.map_eq_some', Prod.exists, Prod.mk.injEq] at h
      obtain ⟨_, _, hrec, -, rfl⟩ := h
      have := parseMembers_length hc hrec
      have := token_length h₅
      omega
    · simp only [Option.map_eq_map, Option.map_eq_some', Prod.mk.injEq] at h
      obtain ⟨_, h₅, -, rfl⟩ := h
      have := token_length h₅
      omega

end Loops

theorem parseValue_length : ∀ {n : Nat} {s v r}, parseValue n s = some (v, r) → r.length ≤ s.length
  | 0, _, _, _, h => by cases h
  | n + 1, s, v, r, h => by
    have hs := skipWs_length_le s
    simp only [parseValue] at h
    split at h
    · cases h
    · next u rest hw =>
      rw [hw, List.length_cons] at hs
      by_cases hobj : u = 0x7B
      · rw [if_pos hobj] at h
        split at h
        · next h₁ => cases h; have := token_length h₁; omega
        · simp only [Option.map_eq_map, Option.map_eq_some', Prod.exists, Prod.mk.injEq] at h
          obtain ⟨_, _, hm, -, rfl⟩ := h
          have := parseMembers_length parseValue_length hm; omega
      rw [if_neg hobj] at h
      by_cases harr : u = 0x5B
      · rw [if_pos harr] at h
        split at h
        · next h₁ => cases h; have := token_length h₁; omega
        · simp only [Option.map_eq_map, Option.map_eq_some', Prod.exists, Prod.mk.injEq] at h
          obtain ⟨_, _, he, -, rfl⟩ := h
          have := parseElements_length parseValue_length he; omega
      rw [if_neg harr] at h
      split_ifs at h <;>
        simp only [Option.map_eq_map, Option.map_eq_some', Prod.exists, Prod.mk.injEq] at h
      · obtain ⟨_, _, hb, -, rfl⟩ := h
        have := parseStringBody_length hb; omega
      all_goals first
        | obtain ⟨_, hw, -, rfl⟩ := h; have := parseWord_length hw; omega
        | obtain ⟨_, _, hn, -, rfl⟩ := h; have := parseNumber_length hn; simp at this; omega

section Congr

variable {value value' : JsString → Option (JsonValue × JsString)} {L : Nat}
  (hv : ∀ s : JsString, s.length < L → value s = value' s)
  (hc : ∀ {s v r}, value s = some (v, r) → r.length ≤ s.length)

include hv hc in
theorem parseElements_congr :
    ∀ (n m : Nat) (s : JsString), s.length < L → s.length < n → s.length < m →
      parseElements value n s = parseElements value' m s
  | 0, _, _, _, hn, _ | _, 0, _, _, _, hn => absurd hn (Nat.not_lt_zero _)
  | n + 1, m + 1, s, hL, hn, hm => by
    simp only [parseElements, Option.bind_eq_bind, ← hv s hL]
    refine Option.bind_congr fun ⟨v, s₁⟩ h₁ => ?_
    have := hc h₁
    dsimp only
    split
    · next s₂ h₂ =>
      have := token_length h₂
      rw [parseElements_congr n m s₂ (by omega) (by omega) (by omega)]
    · rfl

include hv hc in
theorem parseMembers_congr :
    ∀ (n m : Nat) (s : JsString), s.length < L → s.length < n → s.length < m →
      parseMembers value n s = parseMembers value' m s
  | 0, _, _, _, hn, _ | _, 0, _, _, _, hn => absurd hn (Nat.not_lt_zero _)
  | n + 1, m + 1, s, hL, hn, hm => by
    simp only [parseMembers, Option.bind_eq_bind]
    refine Option.bind_congr fun s₁ h₁ => Option.bind_congr fun ⟨key, s₂⟩ h₂ =>
      Option.bind_congr fun s₃ h₃ => ?_
    have := token_length h₁
    have := parseStringBody_length h₂
    dsimp only at h₃
    have := token_length h₃
    rw [← hv s₃ (by omega)]
    refine Option.bind_congr fun ⟨v, s₄⟩ h₄ => ?_
    have := hc h₄
    dsimp only
    split
    · next s₅ h₅ =>
      have := token_length h₅
      rw [parseMembers_congr n m s₅ (by omega) (by omega) (by omega)]
    · rfl

end Congr

theorem parseValue_succ_fuel : ∀ {n : Nat} {s : JsString}, s.length < n →
    parseValue (n + 1) s = parseValue n s
  | 0, _, h => absurd h (Nat.not_lt_zero _)
  | n + 1, s, h => by
    have hs := skipWs_length_le s
    have hv : ∀ t : JsString, t.length < n → parseValue (n + 1) t = parseValue n t :=
      fun _ ht => parseValue_succ_fuel ht
    rw [parseValue, parseValue]
    split
    · rfl
    · next u rest hw =>
      rw [hw, List.length_cons] at hs
      rw [parseMembers_congr hv parseValue_length (n + 1) n rest (by omega) (by omega) (by omega),
        parseElements_congr hv parseValue_length (n + 1) n rest (by omega) (by omega) (by omega)]

theorem parseValue_fuel_stable {s : JsString} {n : Nat} (h : s.length < n) :
    parseValue n s = parseValue (s.length + 1) s := by
  induction n, h using Nat.le_induction with
  | base => rfl
  | succ n hn ih => rw [parseValue_succ_fuel hn, ih]

end Json

/-- The fuel `jsonParse` gives is never what makes it reject a text: it parses as it would with
any larger bound. -/
theorem jsonParse_fuel_stable {text : JsString} {n : Nat} (h : text.length < n) :
    jsonParse text = match Json.parseValue n text with
      | some (v, rest) => if Json.skipWs rest = [] then .ok v else .error .syntaxError
      | none => .error .syntaxError := by
  rw [Json.parseValue_fuel_stable h]
  rfl

end Nepxy.Js
