import Mathlib.Data.String.Basic
import Mathlib.Data.List.DropRight

/-!
# String values as UTF-16 code units

A string value is its list of 16-bit code units, and `length` counts units. Code points are
read as `StringToCodePoints` reads them: a leading surrogate followed by a trailing one is one
supplementary code point, any other unit stands for itself. The built-ins called by the site
and the canvas are modelled over this representation.
-/

namespace Nepxy.Js

abbrev JsString := List UInt16

inductive Throw
  | rangeError
  | syntaxError
  | typeError
  | error (message : JsString)
  deriving DecidableEq, Repr

instance exceptDecidableEq {ε α : Type} [DecidableEq ε] [DecidableEq α] :
    DecidableEq (Except ε α) := fun a b =>
  match a, b with
  | .ok a, .ok b => decidable_of_iff (a = b) (by simp)
  | .error a, .error b => decidable_of_iff (a = b) (by simp)
  | .ok _, .error _ | .error _, .ok _ => isFalse Except.noConfusion

theorem uint16_toNat_ofNat (n : Nat) : (UInt16.ofNat n).toNat = n % 65536 := rfl

namespace JsString

def isLeadingSurrogate (u : UInt16) : Bool := 0xD800 ≤ u.toNat && u.toNat ≤ 0xDBFF

def isTrailingSurrogate (u : UInt16) : Bool := 0xDC00 ≤ u.toNat && u.toNat ≤ 0xDFFF

def surrogatePairToCodePoint (lead trail : UInt16) : Nat :=
  (lead.toNat - 0xD800) * 0x400 + (trail.toNat - 0xDC00) + 0x10000

def codePoints : JsString → List Nat
  | [] => []
  | [u] => [u.toNat]
  | u :: v :: rest =>
    if isLeadingSurrogate u && isTrailingSurrogate v then
      surrogatePairToCodePoint u v :: codePoints rest
    else u.toNat :: codePoints (v :: rest)

def encodeCodePoint (cp : Nat) : JsString :=
  if cp < 0x10000 then [UInt16.ofNat cp]
  else [UInt16.ofNat ((cp - 0x10000) / 0x400 + 0xD800),
    UInt16.ofNat ((cp - 0x10000) % 0x400 + 0xDC00)]

def ofCodePoints (cps : List Nat) : JsString := cps.flatMap encodeCodePoint

def ofString (s : String) : JsString := ofCodePoints (s.toList.map Char.toNat)

def IsScalar (cp : Nat) : Prop := cp < 0x110000 ∧ (cp < 0xD800 ∨ 0xDFFF < cp)

@[simp] theorem ofCodePoints_nil : ofCodePoints [] = [] := rfl

@[simp] theorem ofCodePoints_cons (cp : Nat) (cps : List Nat) :
    ofCodePoints (cp :: cps) = encodeCodePoint cp ++ ofCodePoints cps := rfl

theorem codePoints_cons_of_not_leading {u : UInt16} (h : isLeadingSurrogate u = false)
    (t : JsString) : codePoints (u :: t) = u.toNat :: codePoints t := by
  cases t <;> simp [codePoints, h]

theorem codePoints_pair {u v : UInt16} (hu : isLeadingSurrogate u) (hv : isTrailingSurrogate v)
    (t : JsString) : codePoints (u :: v :: t) = surrogatePairToCodePoint u v :: codePoints t := by
  simp [codePoints, hu, hv]

theorem codePoints_encodeCodePoint_append {cp : Nat} (h : IsScalar cp) (t : JsString) :
    codePoints (encodeCodePoint cp ++ t) = cp :: codePoints t := by
  obtain ⟨hmax, hsur⟩ := h
  unfold encodeCodePoint
  split_ifs with hbmp
  · rw [List.singleton_append, codePoints_cons_of_not_leading, uint16_toNat_ofNat,
      Nat.mod_eq_of_lt hbmp]
    simp [isLeadingSurrogate, uint16_toNat_ofNat]
    omega
  · rw [List.cons_append, List.singleton_append, codePoints_pair]
    · simp only [surrogatePairToCodePoint, uint16_toNat_ofNat]
      congr 1
      omega
    · simp [isLeadingSurrogate, uint16_toNat_ofNat]; omega
    · simp [isTrailingSurrogate, uint16_toNat_ofNat]; omega

theorem codePoints_ofCodePoints {cps : List Nat} (h : ∀ cp ∈ cps, IsScalar cp) :
    codePoints (ofCodePoints cps) = cps := by
  induction cps with
  | nil => rfl
  | cons cp cps ih =>
    rw [List.forall_mem_cons] at h
    rw [ofCodePoints_cons, codePoints_encodeCodePoint_append h.1, ih h.2]

theorem encodeCodePoint_toNat (u : UInt16) : encodeCodePoint u.toNat = [u] := by
  have hu := UInt16.toNat_lt u
  rw [encodeCodePoint, if_pos (by omega)]
  exact congrArg ([·]) (UInt16.ext (by rw [uint16_toNat_ofNat]; omega))

theorem encodeCodePoint_pair {u v : UInt16} (hu : isLeadingSurrogate u)
    (hv : isTrailingSurrogate v) : encodeCodePoint (surrogatePairToCodePoint u v) = [u, v] := by
  simp only [isLeadingSurrogate, isTrailingSurrogate, Bool.and_eq_true, decide_eq_true_eq] at hu hv
  rw [encodeCodePoint, if_neg (by simp only [surrogatePairToCodePoint]; omega)]
  simp only [surrogatePairToCodePoint, List.cons.injEq, and_true]
  exact ⟨UInt16.ext (by rw [uint16_toNat_ofNat]; omega), UInt16.ext (by rw [uint16_toNat_ofNat]; omega)⟩

theorem ofCodePoints_codePoints (s : JsString) : ofCodePoints (codePoints s) = s := by
  induction s using codePoints.induct with
  | case1 => rfl
  | case2 u => simp [codePoints, encodeCodePoint_toNat]
  | case3 u v rest h ih =>
    simp only [Bool.and_eq_true] at h
    rw [codePoints_pair h.1 h.2, ofCodePoints_cons, encodeCodePoint_pair h.1 h.2, ih]
    rfl
  | case4 u v rest h ih =>
    rw [codePoints, if_neg h, ofCodePoints_cons, encodeCodePoint_toNat, ih]
    rfl

theorem codePoints_lt (s : JsString) : ∀ cp ∈ codePoints s, cp < 0x110000 := by
  induction s using codePoints.induct with
  | case1 => simp [codePoints]
  | case2 u => simpa [codePoints] using (UInt16.toNat_lt u).trans (by decide)
  | case3 u v rest h ih =>
    simp only [Bool.and_eq_true] at h
    rw [codePoints_pair h.1 h.2, List.forall_mem_cons]
    refine ⟨?_, ih⟩
    simp only [isLeadingSurrogate, isTrailingSurrogate, decide_eq_true_eq, Bool.and_eq_true] at h
    simp only [surrogatePairToCodePoint]
    omega
  | case4 u v rest h ih =>
    rw [codePoints, if_neg h, List.forall_mem_cons]
    exact ⟨(UInt16.toNat_lt u).trans (by decide), ih⟩

/-- `String.fromCodePoint` on the non-negative integers the canvas passes: a `RangeError` at the
first argument above `0x10FFFF`. -/
def fromCodePoint : List Nat → Except Throw JsString
  | [] => .ok []
  | cp :: cps =>
    if cp ≤ 0x10FFFF then (encodeCodePoint cp ++ ·) <$> fromCodePoint cps
    else .error .rangeError

theorem fromCodePoint_eq (cps : List Nat) :
    fromCodePoint cps =
      if ∀ cp ∈ cps, cp ≤ 0x10FFFF then .ok (ofCodePoints cps) else .error .rangeError := by
  induction cps with
  | nil => rfl
  | cons cp cps ih =>
    rw [fromCodePoint, ih]
    by_cases hcps : ∀ cp ∈ cps, cp ≤ 0x10FFFF
    · rw [if_pos hcps]
      by_cases hcp : cp ≤ 0x10FFFF <;> simp [hcp, if_pos hcps, Functor.map, Except.map]
    · rw [if_neg hcps, if_neg (fun h => hcps (List.forall_mem_cons.1 h).2)]
      split_ifs <;> rfl

def isWhiteSpaceOrLineTerminator (u : UInt16) : Bool :=
  u.toNat ∈ [0x09, 0x0A, 0x0B, 0x0C, 0x0D, 0x20, 0xA0, 0x1680, 0x2028, 0x2029, 0x202F, 0x205F,
    0x3000, 0xFEFF] || (0x2000 ≤ u.toNat && u.toNat ≤ 0x200A)

def trim (s : JsString) : JsString :=
  (s.dropWhile isWhiteSpaceOrLineTerminator).rdropWhile isWhiteSpaceOrLineTerminator

theorem trim_eq_nil_iff {s : JsString} :
    trim s = [] ↔ ∀ u ∈ s, isWhiteSpaceOrLineTerminator u := by
  rw [trim, List.rdropWhile_eq_nil_iff, ← List.dropWhile_eq_nil_iff,
    ← List.dropWhile_eq_nil_iff, List.dropWhile_idempotent]

def includes : JsString → JsString → Bool
  | [], t => t.isPrefixOf []
  | u :: s, t => t.isPrefixOf (u :: s) || includes s t

theorem includes_iff_occurs {s t : JsString} : includes s t ↔ t <:+: s := by
  induction s with
  | nil => simp [includes]
  | cons u s ih => simp [includes, List.infix_cons_iff, ih]

end JsString

end Nepxy.Js
