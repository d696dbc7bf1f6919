import Nepxy.Js.JsString

/-!
# JSON text

`JSON.parse` reads its argument as an ECMA-404 JSON text and throws a `SyntaxError` when it is
not one. The grammar is read over code units: every structural character is ASCII, and a
string may hold any unit from `0x20` up, unpaired surrogates included. Members of an object are
kept in source order, so that a later member of the same name is the one a property read finds.

Nesting and repetition are bounded by a fuel argument; `jsonParse` gives one unit of fuel per
code unit of the text plus one, and every step of the parser consumes at least one code unit.
-/

namespace Nepxy.Js

inductive JsonValue
  | null
  | bool (b : Bool)
  | number (lexeme : JsString)
  | string (s : JsString)
  | array (elements : List JsonValue)
  | object (members : List (JsString × JsonValue))
  deriving Repr

mutual
def JsonValue.decEq : (a b : JsonValue) → Decidable (a = b)
  | .null, .null => isTrue rfl
  | .bool a, .bool b => decidable_of_iff (a = b) (by simp)
  | .number a, .number b => decidable_of_iff (a = b) (by simp)
  | .string a, .string b => decidable_of_iff (a = b) (by simp)
  | .array as, .array bs =>
    match JsonValue.decEqList as bs with
    | isTrue h => isTrue (h ▸ rfl)
    | isFalse h => isFalse fun h' => h (JsonValue.array.inj h')
  | .object as, .object bs =>
    match JsonValue.decEqMembers as bs with
    | isTrue h => isTrue (h ▸ rfl)
    | isFalse h => isFalse fun h' => h (JsonValue.object.inj h')
  | .null, .bool _ | .null, .number _ | .null, .string _ | .null, .array _ | .null, .object _
  | .bool _, .null | .bool _, .number _ | .bool _, .string _ | .bool _, .array _
  | .bool _, .object _ | .number _, .null | .number _, .bool _ | .number _, .string _
  | .number _, .array _ | .number _, .object _ | .string _, .null | .string _, .bool _
  | .string _, .number _ | .string _, .array _ | .string _, .object _ | .array _, .null
  | .array _, .bool _ | .array _, .number _ | .array _, .string _ | .array _, .object _
  | .object _, .null | .object _, .bool _ | .object _, .number _ | .object _, .string _
  | .object _, .array _ => isFalse JsonValue.noConfusion
def JsonValue.decEqList : (as bs : List JsonValue) → Decidable (as = bs)
  | [], [] => isTrue rfl
  | a :: as, b :: bs =>
    match JsonValue.decEq a b, JsonValue.decEqList as bs with
    | isTrue h, isTrue h' => isTrue (h ▸ h' ▸ rfl)
    | isFalse h, _ => isFalse fun h'' => h (List.cons.inj h'').1
    | _, isFalse h' => isFalse fun h'' => h' (List.cons.inj h'').2
  | [], _ :: _ | _ :: _, [] => isFalse List.noConfusion
def JsonValue.decEqMembers : (as bs : List (JsString × JsonValue)) → Decidable (as = bs)
  | [], [] => isTrue rfl
  | (k, a) :: as, (l, b) :: bs =>
    if hk : k = l then
      match JsonValue.decEq a b, JsonValue.decEqMembers as bs with
      | isTrue h, isTrue h' => isTrue (hk ▸ h ▸ h' ▸ rfl)
      | isFalse h, _ => isFalse fun h'' => h (Prod.mk.inj (List.cons.inj h'').1).2
      | _, isFalse h' => isFalse fun h'' => h' (List.cons.inj h'').2
    else isFalse fun h'' => hk (Prod.mk.inj (List.cons.inj h'').1).1
  | [], _ :: _ | _ :: _, [] => isFalse List.noConfusion
end

instance : DecidableEq JsonValue := JsonValue.decEq

namespace Json

def isWs (u : UInt16) : Bool := u == 0x20 || u == 0x09 || u == 0x0A || u == 0x0D

def skipWs (s : JsString) : JsString := s.dropWhile isWs

def token (c : UInt16) (s : JsString) : Option JsString :=
  match skipWs s with
  | u :: rest => if u = c then some rest else none
  | [] => none

def parseWord (word s : JsString) : Option JsString :=
  if word.isPrefixOf s then some (s.drop word.length) else none

def hexDigitValue (u : UInt16) : Option Nat :=
  if 0x30 ≤ u.toNat && u.toNat ≤ 0x39 then some (u.toNat - 0x30)
  else if 0x41 ≤ u.toNat && u.toNat ≤ 0x46 then some (u.toNat - 0x37)
  else if 0x61 ≤ u.toNat && u.toNat ≤ 0x66 then some (u.toNat - 0x57)
  else none

def hex4Value (a b c d : UInt16) : Option UInt16 := do
  let a ← hexDigitValue a
  let b ← hexDigitValue b
  let c ← hexDigitValue c
  let d ← hexDigitValue d
  pure (UInt16.ofNat (((a * 16 + b) * 16 + c) * 16 + d))

def escapedUnit (e : UInt16) : Option UInt16 :=
  if e = 0x22 then some 0x22 else if e = 0x5C then some 0x5C else if e = 0x2F then some 0x2F
  else if e = 0x62 then some 0x08 else if e = 0x66 then some 0x0C
  else if e = 0x6E then some 0x0A else if e = 0x72 then some 0x0D
  else if e = 0x74 then some 0x09 else none

def parseStringBody : JsString → Option (JsString × JsString)
  | [] => none
  | u :: rest =>
    if u = 0x22 then some ([], rest)
    else if u = 0x5C then
      match rest with
      | [] => none
      | e :: rest' =>
        if e = 0x75 then
          match rest' with
          | a :: b :: c :: d :: rest'' => do
            let unit ← hex4Value a b c d
            let (s, r) ← parseStringBody rest''
            pure (unit :: s, r)
          | _ => none
        else do
          let unit ← escapedUnit e
          let (s, r) ← parseStringBody rest'
          pure (unit :: s, r)
    else if u.toNat < 0x20 then none
    else (fun (s, r) => (u :: s, r)) <$> parseStringBody rest

def isDigit (u : UInt16) : Bool := 0x30 ≤ u.toNat && u.toNat ≤ 0x39

def digits1 (s : JsString) : Option (JsString × JsString) :=
  match s.takeWhile isDigit with
  | [] => none
  | ds => some (ds, s.dropWhile isDigit)

def parseInt : JsString → Option (JsString × JsString)
  | [] => none
  | u :: rest =>
    if u = 0x30 then some ([u], rest)
    else if isDigit u then some (u :: rest.takeWhile isDigit, rest.dropWhile isDigit)
    else none

def parseFrac : JsString → Option (JsString × JsString)
  | [] => some ([], [])
  | u :: rest =>
    if u = 0x2E then (fun (ds, r) => (u :: ds, r)) <$> digits1 rest else some ([], u :: rest)

def parseExp : JsString → Option (JsString × JsString)
  | [] => some ([], [])
  | u :: rest =>
    if u = 0x65 || u = 0x45 then
      match rest with
      | v :: rest' =>
        if v = 0x2B || v = 0x2D then (fun (ds, r) => (u :: v :: ds, r)) <$> digits1 rest'
        else (fun (ds, r) => (u :: ds, r)) <$> digits1 (v :: rest')
      | [] => none
    else some ([], u :: rest)

/-- `number = [ minus ] int [ frac ] [ exp ]`, kept as its lexeme. -/
def parseNumber (s : JsString) : Option (JsString × JsString) := do
  let (sign, s) := match s with
    | u :: rest => if u = 0x2D then ([u], rest) else ([], u :: rest)
    | [] => ([], [])
  let (i, s) ← parseInt s
  let (f, s) ← parseFrac s
  let (e, s) ← parseExp s
  pure (sign ++ i ++ f ++ e, s)

def parseElements (value : JsString → Option (JsonValue × JsString)) :
    Nat → JsString → Option (List JsonValue × JsString)
  | 0, _ => none
  | fuel + 1, s => do
    let (v, s) ← value s
    match token 0x2C s with
    | some s => (fun (vs, r) => (v :: vs, r)) <$> parseElements value fuel s
    | none => (fun r => ([v], r)) <$> token 0x5D s

def parseMembers (value : JsString → Option (JsonValue × JsString)) :
    Nat → JsString → Option (List (JsString × JsonValue) × JsString)
  | 0, _ => none
  | fuel + 1, s => do
    let s ← token 0x22 s
    let (key, s) ← parseStringBody s
    let s ← token 0x3A s
    let (v, s) ← value s
    match token 0x2C s with
    | some s => (fun (ms, r) => ((key, v) :: ms, r)) <$> parseMembers value fuel s
    | none => (fun r => ([(key, v)], r)) <$> token 0x7D s

def parseValue : Nat → JsString → Option (JsonValue × JsString)
  | 0, _ => none
  | fuel + 1, s =>
    match skipWs s with
    | [] => none
    | u :: rest =>
      if u = 0x7B then
        match token 0x7D rest with
        | some r => some (.object [], r)
        | none => (fun (ms, r) => (.object ms, r)) <$> parseMembers (parseValue fuel) fuel rest
      else if u = 0x5B then
        match token 0x5D rest with
        | some r => some (.array [], r)
        | none => (fun (vs, r) => (.array vs, r)) <$> parseElements (parseValue fuel) fuel rest
      else if u = 0x22 then (fun (str, r) => (.string str, r)) <$> parseStringBody rest
      else if u = 0x74 then (.bool true, ·) <$> parseWord (JsString.ofString "rue") rest
      else if u = 0x66 then (.bool false, ·) <$> parseWord (JsString.ofString "alse") rest
      else if u = 0x6E then (.null, ·) <$> parseWord (JsString.ofString "ull") rest
      else (fun (lex, r) => (.number lex, r)) <$> parseNumber (u :: rest)

end Json

def jsonParse (text : JsString) : Except Throw JsonValue :=
  match Json.parseValue (text.length + 1) text with
  | some (v, rest) => if Json.skipWs rest = [] then .ok v else .error .syntaxError
  | none => .error .syntaxError

/-- A read of `name`, `email` or `message` on a parsed value: a `TypeError` on `null`, the last
member of that name of an object, and `undefined` otherwise, since no prototype of a parsed value
has a property of these names. -/
def getProperty (v : JsonValue) (key : JsString) : Except Throw (Option JsonValue) :=
  match v with
  | .null => .error .typeError
  | .object members => .ok (members.reverse.lookup key)
  | _ => .ok none

end Nepxy.Js
