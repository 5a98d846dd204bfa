import SistemAir.Library.Json

/-! A reader of JSON texts, and that it reads a text of the encoder as the value it was
made of. -/
namespace JsonText

/-- What a text says: a number as it is, a string in UTF-16 code units. -/
inductive Value
  | null
  | bool (value : Bool)
  | number (value : ℚ)
  | string (units : List Nat)
  | array (items : List Value)
  | object (members : List (List Nat × Value))

/-! ## The reader -/

def blank (c : Char) : Bool := c = ' ' || c = '\t' || c = '\n' || c = '\r'

def skipWs (s : List Char) : List Char := s.dropWhile blank

def after (c : Char) (s : List Char) : Option (List Char) :=
  match skipWs s with
  | [] => none
  | d :: s => if d = c then some s else none

def keyword (word : List Char) (value : Value) (s : List Char) : Option (Value × List Char) :=
  if word.isPrefixOf s then some (value, s.drop word.length) else none

def hexDigit? (c : Char) : Option Nat :=
  if '0' ≤ c ∧ c ≤ '9' then some (c.toNat - 48)
  else if 'a' ≤ c ∧ c ≤ 'f' then some (c.toNat - 87)
  else if 'A' ≤ c ∧ c ≤ 'F' then some (c.toNat - 55)
  else none

def hexUnit? (a b c d : Char) : Option Nat := do
  return (((← hexDigit? a) * 16 + (← hexDigit? b)) * 16 + (← hexDigit? c)) * 16 + (← hexDigit? d)

def escaped? (c : Char) : Option Nat :=
  if c = '"' ∨ c = '\\' ∨ c = '/' then some c.toNat
  else if c = 'n' then some 10
  else if c = 'r' then some 13
  else if c = 't' then some 9
  else if c = 'b' then some 8
  else if c = 'f' then some 12
  else none

def utf16 (c : Char) : List Nat :=
  if c.toNat < 65536 then [c.toNat]
  else [55296 + (c.toNat - 65536) / 1024, 56320 + (c.toNat - 65536) % 1024]

def prepend (front : List Nat) (scanned : Option (List Nat × List Char)) :
    Option (List Nat × List Char) :=
  scanned.map fun (units, s) => (front ++ units, s)

def scanString : List Char → Option (List Nat × List Char)
  | [] => none
  | c :: s =>
    if c = '"' then some ([], s)
    else if c = '\\' then
      match s with
      | [] => none
      | e :: s =>
        if e = 'u' then
          match s with
          | h₁ :: h₂ :: h₃ :: h₄ :: s =>
            (hexUnit? h₁ h₂ h₃ h₄).bind fun unit => prepend [unit] (scanString s)
          | _ => none
        else (escaped? e).bind fun unit => prepend [unit] (scanString s)
    else if c.toNat < 32 then none
    else prepend (utf16 c) (scanString s)

def scanDigits (s : List Char) : List Char × List Char :=
  (s.takeWhile Char.isDigit, s.dropWhile Char.isDigit)

def scanMinus : List Char → Bool × List Char
  | '-' :: s => (true, s)
  | s => (false, s)

def scanFraction : List Char → Option (List Char × List Char)
  | '.' :: s => if (scanDigits s).1 = [] then none else some (scanDigits s)
  | s => some ([], s)

def scanExponent : List Char → Option (Int × List Char)
  | [] => some (0, [])
  | c :: s =>
    if c = 'e' ∨ c = 'E' then
      let (negative, s) :=
        match s with
        | '+' :: s => (false, s)
        | s => scanMinus s
      let (digits, s) := scanDigits s
      let size : Int := Nat.ofDigitChars 10 digits 0
      if digits = [] then none else some (if negative then -size else size, s)
    else some (0, c :: s)

def decimal (negative : Bool) (digits : List Char) (exponent : Int) : ℚ :=
  (if negative then -1 else 1) * (Nat.ofDigitChars 10 digits 0 : ℚ) * 10 ^ exponent

/-- Digits with no needless zero before them, then a fraction and an exponent. -/
def scanDecimal (negative : Bool) (s : List Char) : Option (Value × List Char) := do
  let whole := scanDigits s
  guard (whole.1 ≠ [] ∧ (whole.1.head? = some '0' → whole.1 = ['0']))
  let fraction ← scanFraction whole.2
  let exponent ← scanExponent fraction.2
  return (.number (decimal negative (whole.1 ++ fraction.1) (exponent.1 - fraction.1.length)),
    exponent.2)

def scanNumber (s : List Char) : Option (Value × List Char) :=
  scanDecimal (scanMinus s).1 (scanMinus s).2

mutual

/-- Fuel is spent on every value and on every separator. -/
def parseValue : Nat → List Char → Option (Value × List Char)
  | 0, _ => none
  | fuel + 1, s =>
    match skipWs s with
    | [] => none
    | c :: s =>
      if c = 'n' then keyword ['u', 'l', 'l'] .null s
      else if c = 't' then keyword ['r', 'u', 'e'] (.bool true) s
      else if c = 'f' then keyword ['a', 'l', 's', 'e'] (.bool false) s
      else if c = '"' then (scanString s).map fun (units, s) => (.string units, s)
      else if c = '[' then
        match after ']' s with
        | some s => some (.array [], s)
        | none => (parseItems fuel s).map fun (items, s) => (.array items, s)
      else if c = '\x7b' then
        match after '\x7d' s with
        | some s => some (.object [], s)
        | none => (parseMembers fuel s).map fun (members, s) => (.object members, s)
      else scanNumber (c :: s)

def parseItems : Nat → List Char → Option (List Value × List Char)
  | 0, _ => none
  | fuel + 1, s => do
    let item ← parseValue fuel s
    match after ',' item.2 with
    | some s => (parseItems fuel s).map fun (items, s) => (item.1 :: items, s)
    | none => (after ']' item.2).map fun s => ([item.1], s)

def parseMembers : Nat → List Char → Option (List (List Nat × Value) × List Char)
  | 0, _ => none
  | fuel + 1, s => do
    let name ← scanString (← after '"' s)
    let value ← parseValue fuel (← after ':' name.2)
    match after ',' value.2 with
    | some s => (parseMembers fuel s).map fun (members, s) => ((name.1, value.1) :: members, s)
    | none => (after '\x7d' value.2).map fun s => ([(name.1, value.1)], s)

end

def parse (text : List Char) : Option Value := do
  let (value, rest) ← parseValue (text.length + 1) text
  guard (skipWs rest = [])
  return value

/-! ## What the encoder's values say -/

def units (s : String) : List Nat := s.toList.flatMap utf16

mutual

def Json.value : Json → Value
  | .null => .null
  | .bool value => .bool value
  | .number value => .number value
  | .string text => .string (units text)
  | .array items => .array (valueItems items)
  | .object fields => .object (valueFields fields)

def valueItems : List Json → List Value
  | [] => []
  | item :: items => item.value :: valueItems items

def valueFields : List (String × Json) → List (List Nat × Value)
  | [] => []
  | (name, value) :: fields => (units name, value.value) :: valueFields fields

end

/-! ## Strings -/

theorem prepend_prepend (front front' : List Nat) (scanned : Option (List Nat × List Char)) :
    prepend front (prepend front' scanned) = prepend (front ++ front') scanned := by
  cases scanned with
  | none => rfl
  | some p => simp [prepend]

theorem scanString_quote (s : List Char) : scanString ('"' :: s) = some ([], s) := by
  rw [scanString.eq_def]
  exact if_pos rfl

theorem scanString_escaped {e : Char} {unit : Nat} (hu : e ≠ 'u') (h : escaped? e = some unit)
    (s : List Char) : scanString ('\\' :: e :: s) = prepend [unit] (scanString s) := by
  rw [scanString.eq_def]
  dsimp only
  rw [if_neg (by decide), if_pos rfl, if_neg hu, h]
  rfl

theorem scanString_plain {c : Char} (hquote : c ≠ '"') (hslash : c ≠ '\\') (hc : 32 ≤ c.toNat)
    (s : List Char) : scanString (c :: s) = prepend (utf16 c) (scanString s) := by
  rw [scanString.eq_def]
  dsimp only
  rw [if_neg hquote, if_neg hslash, if_neg (Nat.not_lt.mpr hc)]

theorem hexDigit?_digitChar {d : Nat} (hd : d < 16) : hexDigit? (Nat.digitChar d) = some d := by
  have hall : ∀ d : Fin 16, hexDigit? (Nat.digitChar d) = some d.val := by decide
  exact hall ⟨d, hd⟩

theorem scanString_unicodeEscape {n : Nat} (hn : n < 65536) (s : List Char) :
    scanString (unicodeEscape n ++ s) = prepend [n] (scanString s) := by
  have hdigit (d : Nat) : hexDigit? (Nat.digitChar (d % 16)) = some (d % 16) :=
    hexDigit?_digitChar (Nat.mod_lt _ (by decide))
  have hunit : ((n / 4096 % 16 * 16 + n / 256 % 16) * 16 + n / 16 % 16) * 16 + n % 16 = n := by
    omega
  simp only [unicodeEscape, hex4, List.map_cons, List.map_nil, List.cons_append, List.nil_append]
  rw [scanString.eq_def]
  dsimp only
  rw [if_neg (by decide), if_pos rfl, if_pos rfl, hexUnit?]
  simp only [hdigit, Option.bind_eq_bind, Option.bind_some, Option.pure_def, hunit]

theorem escapeChar_utf16 (c : Char) (s : List Char) :
    scanString (escapeChar c ++ s) = prepend (utf16 c) (scanString s) := by
  have hshort {c e : Char} (hu : e ≠ 'u') (h : (escaped? e).map ([·]) = some (utf16 c)) :
      scanString (['\\', e] ++ s) = prepend (utf16 c) (scanString s) := by
    obtain ⟨unit, hunit, hc⟩ := Option.map_eq_some_iff.mp h
    rw [← hc]
    exact scanString_escaped hu hunit s
  unfold escapeChar
  -- the eight characters with a letter of their own
  iterate 8
    split
    · rename_i h
      subst h
      exact hshort (by decide) (by decide)
  split
  next hquote hslash _ _ _ _ _ _ hplain => exact scanString_plain hquote hslash hplain.1 s
  split
  next hsmall =>
    rw [utf16, if_pos hsmall]
    exact scanString_unicodeEscape hsmall s
  next hlarge =>
    -- above the first plane both halves are code units
    have hmax : c.toNat < 1114112 := by
      have := c.valid
      simp only [UInt32.isValidChar, Nat.isValidChar] at this
      change c.val.toNat < 1114112
      omega
    rw [utf16, if_neg hlarge, List.append_assoc, scanString_unicodeEscape (by omega),
      scanString_unicodeEscape (by omega), prepend_prepend]
    rfl

theorem scanString_flatMap (cs : List Char) (s : List Char) :
    scanString (cs.flatMap escapeChar ++ '"' :: s) = some (cs.flatMap utf16, s) := by
  induction cs with
  | nil => exact scanString_quote s
  | cons c cs ih =>
    rw [List.flatMap_cons, List.append_assoc, escapeChar_utf16, ih]
    rfl

theorem quote_append (text : String) (s : List Char) :
    quote text ++ s = '"' :: (text.toList.flatMap escapeChar ++ '"' :: s) := by
  simp [quote]

/-! ## Numbers -/

def Ends (s : List Char) : Prop := ∀ c ∈ s.head?, c = ',' ∨ c = ']' ∨ c = '\x7d'

theorem ends_nil : Ends [] := nofun

theorem Ends.not_digit {s : List Char} (h : Ends s) : s.takeWhile Char.isDigit = [] := by
  cases s with
  | nil => rfl
  | cons c s => rcases h c rfl with rfl | rfl | rfl <;> rfl

theorem Ends.scanFraction {s : List Char} (h : Ends s) : scanFraction s = some ([], s) := by
  cases s with
  | nil => rfl
  | cons c s => rcases h c rfl with rfl | rfl | rfl <;> rfl

theorem Ends.scanExponent {s : List Char} (h : Ends s) : scanExponent s = some (0, s) := by
  cases s with
  | nil => rfl
  | cons c s => rcases h c rfl with rfl | rfl | rfl <;> rfl

theorem scanDigits_append {digits s : List Char} (hdigits : ∀ c ∈ digits, c.isDigit = true)
    (hs : s.takeWhile Char.isDigit = []) : scanDigits (digits ++ s) = (digits, s) := by
  have hrest := List.takeWhile_append_dropWhile (p := Char.isDigit) (l := s)
  rw [hs, List.nil_append] at hrest
  rw [scanDigits, List.takeWhile_append_of_pos hdigits,
    List.dropWhile_append_of_pos hdigits, hs, List.append_nil, hrest]

theorem head_toDigits {n : Nat} (hn : 0 < n) : (Nat.toDigits 10 n).head? ≠ some '0' := by
  induction n using Nat.strongRecOn with
  | ind n ih =>
    by_cases hsmall : n < 10
    · rw [Nat.toDigits_of_lt_base hsmall, List.head?_cons]
      intro hzero
      have hdigit := Nat.digitChar_eq_zero.mp (Option.some.inj hzero)
      omega
    · have hfront : 0 < n / 10 := by omega
      rw [Nat.toDigits_of_base_le (by decide) (Nat.le_of_not_lt hsmall),
        List.head?_append_of_ne_nil _ Nat.toDigits_ne_nil]
      exact ih (n / 10) (by omega) hfront

theorem scanFraction_digits {fraction s : List Char} (hfraction : ∀ c ∈ fraction, c.isDigit = true)
    (hs : Ends s) :
    scanFraction ((if fraction = [] then [] else '.' :: fraction) ++ s) = some (fraction, s) := by
  by_cases hnone : fraction = []
  · rw [if_pos hnone, hnone, List.nil_append, hs.scanFraction]
  · rw [if_neg hnone, List.cons_append, scanFraction, scanDigits_append hfraction hs.not_digit,
      if_neg hnone]

theorem scanDecimal_digits (negative : Bool) (n : Nat) {fraction s : List Char}
    (hfraction : ∀ c ∈ fraction, c.isDigit = true) (hs : Ends s) :
    scanDecimal negative
        (Nat.toDigits 10 n ++ ((if fraction = [] then [] else '.' :: fraction) ++ s)) =
      some (.number (Decimal.ofDigits negative (Nat.toDigits 10 n) fraction), s) := by
  have hdigits : ∀ c ∈ Nat.toDigits 10 n, c.isDigit = true :=
    fun c hc => Nat.isDigit_of_mem_toDigits (by decide) (by decide) hc
  have hzero : (Nat.toDigits 10 n).head? = some '0' → Nat.toDigits 10 n = ['0'] := by
    intro hhead
    cases n with
    | zero => rfl
    | succ n => exact absurd hhead (head_toDigits (Nat.succ_pos n))
  have hguard : Nat.toDigits 10 n ≠ [] ∧
      ((Nat.toDigits 10 n).head? = some '0' → Nat.toDigits 10 n = ['0']) :=
    ⟨Nat.toDigits_ne_nil, hzero⟩
  have hwhole : ((if fraction = [] then [] else '.' :: fraction) ++ s).takeWhile Char.isDigit =
      [] := by
    split
    · exact hs.not_digit
    · rfl
  have hvalue : decimal negative (Nat.toDigits 10 n ++ fraction) (0 - fraction.length) =
      Decimal.ofDigits negative (Nat.toDigits 10 n) fraction := by
    rw [decimal, zero_sub, zpow_neg, zpow_natCast, mul_assoc, ← div_eq_mul_inv, Decimal.ofDigits]
  simp only [scanDecimal, scanDigits_append hdigits hwhole, guard, if_pos hguard,
    scanFraction_digits hfraction hs, hs.scanExponent, Option.bind_eq_bind, Option.bind_some,
    Option.pure_def, hvalue]

theorem toDigits_eq_cons (n : Nat) :
    ∃ d ds, Nat.toDigits 10 n = d :: ds ∧ d.isDigit = true := by
  cases hdigits : Nat.toDigits 10 n with
  | nil => exact absurd hdigits Nat.toDigits_ne_nil
  | cons d ds =>
    have hmem : d ∈ Nat.toDigits 10 n := by simp [hdigits]
    exact ⟨d, ds, rfl, Nat.isDigit_of_mem_toDigits (by decide) (by decide) hmem⟩

theorem scanMinus_of_digit {d : Char} (hd : d.isDigit = true) (s : List Char) :
    scanMinus (d :: s) = (false, d :: s) := by
  unfold scanMinus
  split
  next heq =>
    cases heq
    exact absurd hd (by decide)
  · rfl

theorem scanNumber_text (x : Decimal) {s : List Char} (hs : Ends s) :
    scanNumber (x.text.toList ++ s) = some (.number x, s) := by
  have hscan (negative : Bool) := scanDecimal_digits negative (x.val.num.natAbs / x.val.den)
    (fun c hc => x.isDigit_of_mem_fraction hc) hs
  have hround := x.ofDigits_digits
  rw [Decimal.text, String.toList_ofList, scanNumber]
  by_cases hneg : x < 0
  · rw [decide_eq_true hneg] at hround
    rw [if_pos hneg, List.cons_append, Decimal.digits, List.append_assoc, scanMinus, hscan, hround]
  · obtain ⟨d, ds, hdigits, hd⟩ := toDigits_eq_cons (x.val.num.natAbs / x.val.den)
    have hminus : scanMinus (x.digits ++ s) = (false, x.digits ++ s) := by
      rw [Decimal.digits, hdigits]
      exact scanMinus_of_digit hd _
    rw [decide_eq_false hneg] at hround
    rw [if_neg hneg, hminus, Decimal.digits, List.append_assoc, hscan, hround]

/-! ## Values -/

theorem skipWs_cons {c : Char} (hc : blank c = false) (s : List Char) : skipWs (c :: s) = c :: s := by
  rw [skipWs, List.dropWhile_cons_of_neg (by simp [hc])]

theorem ends_comma (s : List Char) : Ends (',' :: s) := by
  intro c hc
  cases hc
  exact .inl rfl

theorem ends_bracket (s : List Char) : Ends (']' :: s) := by
  intro c hc
  cases hc
  exact .inr (.inl rfl)

theorem ends_brace (s : List Char) : Ends ('\x7d' :: s) := by
  intro c hc
  cases hc
  exact .inr (.inr rfl)

theorem text_eq_cons (x : Decimal) :
    ∃ c cs, x.text.toList = c :: cs ∧ (c = '-' ∨ c.isDigit = true) := by
  rw [Decimal.text, String.toList_ofList]
  split
  · exact ⟨_, _, rfl, .inl rfl⟩
  · obtain ⟨d, ds, hdigits, hd⟩ := toDigits_eq_cons (x.val.num.natAbs / x.val.den)
    rw [Decimal.digits, hdigits]
    exact ⟨d, _, rfl, .inr hd⟩

theorem number_start {c : Char} (hc : c = '-' ∨ c.isDigit = true) :
    blank c = false ∧ c ≠ 'n' ∧ c ≠ 't' ∧ c ≠ 'f' ∧ c ≠ '"' ∧ c ≠ '[' ∧ c ≠ ']' ∧ c ≠ '\x7b' := by
  rcases hc with rfl | hc
  · decide
  · have hne {d : Char} (hd : d.isDigit = false) : c ≠ d := by
      rintro rfl
      rw [hc] at hd
      cases hd
    refine ⟨?_, hne rfl, hne rfl, hne rfl, hne rfl, hne rfl, hne rfl, hne rfl⟩
    simp [blank, hne]

theorem encode_eq_cons (json : Json) :
    ∃ c cs, json.encode = c :: cs ∧ blank c = false ∧ c ≠ ']' := by
  cases json with
  | null => exact ⟨_, _, rfl, by decide⟩
  | bool value => cases value <;> exact ⟨_, _, rfl, by decide⟩
  | number value =>
    obtain ⟨c, cs, htext, hc⟩ := text_eq_cons value
    have hstart := number_start hc
    exact ⟨c, cs, by rw [Json.encode, htext], hstart.1, hstart.2.2.2.2.2.2.1⟩
  | string text => exact ⟨_, _, rfl, by decide⟩
  | array items => exact ⟨_, _, rfl, by decide⟩
  | object fields => exact ⟨_, _, rfl, by decide⟩

theorem parseValue_number (x : Decimal) (fuel : Nat) {s : List Char} (hs : Ends s) :
    parseValue (fuel + 1) (x.text.toList ++ s) = some (.number x, s) := by
  obtain ⟨c, cs, htext, hc⟩ := text_eq_cons x
  obtain ⟨hblank, h₁, h₂, h₃, h₄, h₅, -, h₆⟩ := number_start hc
  have hnumber := scanNumber_text x hs
  rw [htext, List.cons_append] at hnumber ⊢
  rw [parseValue.eq_def]
  dsimp only
  rw [skipWs_cons hblank]
  dsimp only
  rw [if_neg h₁, if_neg h₂, if_neg h₃, if_neg h₄, if_neg h₅, if_neg h₆, hnumber]

theorem parseValue_string (text : String) (fuel : Nat) (s : List Char) :
    parseValue (fuel + 1) (quote text ++ s) = some (.string (units text), s) := by
  rw [quote_append, parseValue.eq_def]
  dsimp only
  rw [skipWs_cons (by decide)]
  dsimp only
  rw [if_neg (by decide), if_neg (by decide), if_neg (by decide), if_pos rfl, scanString_flatMap]
  rfl

theorem after_self {c : Char} (hc : blank c = false) (s : List Char) : after c (c :: s) = some s := by
  rw [after, skipWs_cons hc]
  exact if_pos rfl

theorem after_of_ne {c d : Char} (hd : blank d = false) (h : d ≠ c) (s : List Char) :
    after c (d :: s) = none := by
  rw [after, skipWs_cons hd]
  exact if_neg h

theorem parseItems_more {item : Value} {fuel : Nat} {s rest : List Char}
    (hitem : parseValue fuel s = some (item, ',' :: rest)) :
    parseItems (fuel + 1) s =
      (parseItems fuel rest).map fun (items, s) => (item :: items, s) := by
  rw [parseItems.eq_def]
  dsimp only
  rw [hitem, Option.bind_eq_bind, Option.bind_some]
  dsimp only
  rw [after_self (by decide)]

theorem parseItems_last {item : Value} {fuel : Nat} {s rest : List Char}
    (hitem : parseValue fuel s = some (item, ']' :: rest)) :
    parseItems (fuel + 1) s = some ([item], rest) := by
  rw [parseItems.eq_def]
  dsimp only
  rw [hitem, Option.bind_eq_bind, Option.bind_some]
  dsimp only
  rw [after_of_ne (by decide) (by decide), after_self (by decide)]
  rfl

theorem parseMembers_more (name : String) {value : Value} {fuel : Nat} {s rest : List Char}
    (hvalue : parseValue fuel s = some (value, ',' :: rest)) :
    parseMembers (fuel + 1) (quote name ++ ':' :: s) =
      (parseMembers fuel rest).map fun (members, s) => ((units name, value) :: members, s) := by
  rw [quote_append, parseMembers.eq_def]
  dsimp only
  simp only [after_self (by decide : blank '"' = false), after_self (by decide : blank ':' = false),
    scanString_flatMap, hvalue, after_self (by decide : blank ',' = false), Option.bind_eq_bind,
    Option.bind_some, units]

theorem parseMembers_last (name : String) {value : Value} {fuel : Nat} {s rest : List Char}
    (hvalue : parseValue fuel s = some (value, '\x7d' :: rest)) :
    parseMembers (fuel + 1) (quote name ++ ':' :: s) = some ([(units name, value)], rest) := by
  have hmore : after ',' ('\x7d' :: rest) = none := after_of_ne (by decide) (by decide) rest
  rw [quote_append, parseMembers.eq_def]
  dsimp only
  simp only [after_self (by decide : blank '"' = false), after_self (by decide : blank ':' = false),
    scanString_flatMap, hvalue, hmore, after_self (by decide : blank '\x7d' = false),
    Option.bind_eq_bind, Option.bind_some, Option.map_some, units]

theorem parseValue_array {items : List Value} {fuel : Nat} {s rest : List Char}
    (hempty : after ']' s = none) (hitems : parseItems fuel s = some (items, rest)) :
    parseValue (fuel + 1) ('[' :: s) = some (.array items, rest) := by
  rw [parseValue.eq_def]
  dsimp only
  rw [skipWs_cons (by decide)]
  dsimp only
  rw [if_neg (by decide), if_neg (by decide), if_neg (by decide), if_neg (by decide), if_pos rfl,
    hempty]
  dsimp only
  rw [hitems]
  rfl

theorem parseValue_object {members : List (List Nat × Value)} {fuel : Nat} {s rest : List Char}
    (hempty : after '\x7d' s = none) (hmembers : parseMembers fuel s = some (members, rest)) :
    parseValue (fuel + 1) ('\x7b' :: s) = some (.object members, rest) := by
  rw [parseValue.eq_def]
  dsimp only
  rw [skipWs_cons (by decide)]
  dsimp only
  rw [if_neg (by decide), if_neg (by decide), if_neg (by decide), if_neg (by decide),
    if_neg (by decide), if_pos rfl, hempty]
  dsimp only
  rw [hmembers]
  rfl

theorem after_encodeItems (item : Json) (items : List Json) (s : List Char) :
    after ']' (encodeItems (item :: items) ++ s) = none := by
  obtain ⟨c, cs, hcons, hblank, hc⟩ := encode_eq_cons item
  cases items <;> rw [encodeItems, hcons] <;> exact after_of_ne hblank hc _

theorem after_encodeFields (field : String × Json) (fields : List (String × Json)) (s : List Char) :
    after '\x7d' (encodeFields (field :: fields) ++ s) = none := by
  cases fields <;> rw [encodeFields, quote] <;> exact after_of_ne (by decide) (by decide) _

mutual

theorem parseValue_encode : ∀ (json : Json) (fuel : Nat) (s : List Char),
    json.encode.length < fuel → Ends s → parseValue fuel (json.encode ++ s) = some (json.value, s)
  | _, 0, _, hfuel, _ => absurd hfuel (Nat.not_lt_zero _)
  | .null, _ + 1, _, _, _ => rfl
  | .bool true, _ + 1, _, _, _ => rfl
  | .bool false, _ + 1, _, _, _ => rfl
  | .number n, fuel + 1, _, _, hs => parseValue_number n fuel hs
  | .string text, fuel + 1, s, _, _ => parseValue_string text fuel s
  | .array [], _ + 1, _, _, _ => rfl
  | .array (item :: items), fuel + 1, s, hfuel, _ => by
    rw [Json.encode, List.length_append, List.length_cons, List.length_singleton] at hfuel
    rw [Json.encode, List.append_assoc, List.cons_append, List.singleton_append]
    exact parseValue_array (after_encodeItems item items _)
      (parseItems_encode item items fuel s (by omega))
  | .object [], _ + 1, _, _, _ => rfl
  | .object (field :: fields), fuel + 1, s, hfuel, _ => by
    rw [Json.encode, List.length_append, List.length_cons, List.length_singleton] at hfuel
    rw [Json.encode, List.append_assoc, List.cons_append, List.singleton_append]
    exact parseValue_object (after_encodeFields field fields _)
      (parseMembers_encode field fields fuel s (by omega))

theorem parseItems_encode : ∀ (item : Json) (items : List Json) (fuel : Nat) (s : List Char),
    (encodeItems (item :: items)).length + 1 < fuel →
    parseItems fuel (encodeItems (item :: items) ++ ']' :: s) =
      some (valueItems (item :: items), s)
  | _, _, 0, _, hfuel => absurd hfuel (Nat.not_lt_zero _)
  | item, [], fuel + 1, s, hfuel => by
    rw [encodeItems] at hfuel ⊢
    exact parseItems_last (parseValue_encode item fuel _ (by omega) (ends_bracket s))
  | item, next :: items, fuel + 1, s, hfuel => by
    rw [encodeItems, List.length_append, List.length_cons] at hfuel
    have hitem := parseValue_encode item fuel (',' :: (encodeItems (next :: items) ++ ']' :: s))
      (by omega) (ends_comma _)
    rw [encodeItems, List.append_assoc, List.cons_append, parseItems_more hitem,
      parseItems_encode next items fuel s (by omega)]
    rfl

theorem parseMembers_encode : ∀ (field : String × Json) (fields : List (String × Json))
    (fuel : Nat) (s : List Char), (encodeFields (field :: fields)).length + 1 < fuel →
    parseMembers fuel (encodeFields (field :: fields) ++ '\x7d' :: s) =
      some (valueFields (field :: fields), s)
  | _, _, 0, _, hfuel => absurd hfuel (Nat.not_lt_zero _)
  | (name, value), [], fuel + 1, s, hfuel => by
    rw [encodeFields, List.length_append, List.length_cons] at hfuel
    rw [encodeFields, List.append_assoc, List.cons_append]
    exact parseMembers_last name (parseValue_encode value fuel _ (by omega) (ends_brace s))
  | (name, value), next :: fields, fuel + 1, s, hfuel => by
    rw [encodeFields] at hfuel
    simp only [List.length_append, List.length_cons] at hfuel
    have hvalue := parseValue_encode value fuel
      (',' :: (encodeFields (next :: fields) ++ '\x7d' :: s)) (by omega) (ends_comma _)
    rw [encodeFields, List.append_assoc, List.cons_append, List.append_assoc, List.cons_append,
      parseMembers_more name hvalue, parseMembers_encode next fields fuel s (by omega)]
    rfl

end

/-- The reader takes a text of the encoder for the value it was made of. -/
theorem parse_encode (json : Json) : parse json.encode = some json.value := by
  have hvalue := parseValue_encode json (json.encode.length + 1) [] (Nat.lt_succ_self _) ends_nil
  rw [List.append_nil] at hvalue
  rw [parse, hvalue]
  rfl

/-! ## What a program makes of the value -/

/-- What an object holds under a name, the last of several. -/
def member? (name : List Nat) : List (List Nat × Value) → Option Value
  | [] => none
  | (name', value) :: members =>
    (member? name members).or (if name' = name then some value else none)

def Value.get? (name : String) : Value → Option Value
  | .object members => member? (units name) members
  | _ => none

/-- What a number counts as, and a string that is the text of one. -/
def Value.toNumber : Value → Option ℚ
  | .number value => some value
  | .string units =>
    match scanNumber (units.map Char.ofNat) with
    | some (.number value, []) => some value
    | _ => none
  | _ => none

theorem valueItems_eq_map (items : List Json) : valueItems items = items.map Json.value := by
  induction items with
  | nil => rfl
  | cons item items ih => rw [valueItems, ih, List.map_cons]

theorem member?_of_not_mem {name : List Nat} {fields : List (String × Json)}
    (h : name ∉ fields.map fun f => units f.1) : member? name (valueFields fields) = none := by
  induction fields with
  | nil => rfl
  | cons f fields ih =>
    rw [List.map_cons, List.mem_cons, not_or] at h
    rw [valueFields, member?, ih h.2, if_neg (Ne.symm h.1), Option.or_none]

theorem get?_value {fields : List (String × Json)} (hnodup : (fields.map fun f => units f.1).Nodup)
    {name : String} {value : Json} (h : fields.lookup name = some value) :
    (Json.object fields).value.get? name = some value.value := by
  rw [Json.value, Value.get?]
  induction fields with
  | nil => cases h
  | cons f fields ih =>
    obtain ⟨hfresh, hrest⟩ := List.nodup_cons.mp hnodup
    rw [valueFields, member?]
    by_cases hname : name = f.1
    · rw [hname, List.lookup_cons_self] at h
      rw [hname, member?_of_not_mem hfresh, if_pos rfl, Option.some.inj h, Option.none_or]
    · rw [List.lookup_cons, beq_eq_false_iff_ne.mpr hname] at h
      rw [ih hrest h, Option.some_or]

theorem map_units {s : List Char} (hs : ∀ c ∈ s, c.toNat < 65536) :
    (s.flatMap utf16).map Char.ofNat = s := by
  induction s with
  | nil => rfl
  | cons c s ih =>
    rw [List.flatMap_cons, utf16, if_pos (hs c List.mem_cons_self), List.map_append,
      ih fun d hd => hs d (List.mem_cons_of_mem c hd)]
    simp

theorem toNat_lt_of_mem_text (x : Decimal) {c : Char} (hc : c ∈ x.text.toList) :
    c.toNat < 65536 := by
  have hdigit (hc : c.isDigit = true) : c.toNat < 65536 := by
    simp only [Char.isDigit, Bool.and_eq_true, decide_eq_true_eq] at hc
    exact Nat.lt_of_le_of_lt hc.2 (by decide)
  have hdigits (hc : c ∈ x.digits) : c.toNat < 65536 := by
    rw [Decimal.digits, List.mem_append] at hc
    rcases hc with hc | hc
    · exact hdigit (Decimal.isDigit_of_mem_whole hc)
    · split at hc
      · cases hc
      · rcases List.mem_cons.mp hc with rfl | hc
        · decide
        · exact hdigit (x.isDigit_of_mem_fraction hc)
  rw [Decimal.text, String.toList_ofList] at hc
  split at hc
  · rcases List.mem_cons.mp hc with rfl | hc
    · decide
    · exact hdigits hc
  · exact hdigits hc

theorem toNumber_text (x : Decimal) : (Json.string x.text).value.toNumber = some x.val := by
  have hscan := scanNumber_text x ends_nil
  rw [List.append_nil] at hscan
  rw [Json.value, Value.toNumber, units, map_units fun c hc => toNat_lt_of_mem_text x hc, hscan]

end JsonText
