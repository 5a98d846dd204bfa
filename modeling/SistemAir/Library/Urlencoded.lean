import Mathlib.Data.List.Basic

/-! `application/x-www-form-urlencoded`: the bytes of a text, what the URL parser makes of
the characters of a query, and the fields a server or a script reads from it. -/
namespace Urlencoded

abbrev Bytes := List UInt8

def utf8 (chars : List Char) : Bytes := chars.flatMap String.utf8EncodeChar

/-- The text that bytes spell, if they spell one. -/
def text (bytes : Bytes) : Option String :=
  bytes.toByteArray.utf8Decode?.map fun chars => String.ofList chars.toList

section Text

@[simp] theorem utf8_nil : utf8 [] = [] := rfl

@[simp] theorem utf8_cons (c : Char) (cs : List Char) :
    utf8 (c :: cs) = String.utf8EncodeChar c ++ utf8 cs := rfl

@[simp] theorem text_utf8 (cs : List Char) : text (utf8 cs) = some (String.ofList cs) := by
  have hdecode := List.utf8Decode?_utf8Encode (l := cs)
  rw [List.utf8Encode] at hdecode
  rw [text, utf8, hdecode]
  rfl

theorem utf8_injective : Function.Injective utf8 := by
  intro cs ds h
  have htext := congrArg text h
  rw [text_utf8, text_utf8] at htext
  exact String.ofList_injective (Option.some.inj htext)

theorem eq_utf8_of_text {bytes : Bytes} {s : String} (h : text bytes = some s) :
    bytes = utf8 s.toList := by
  obtain ⟨chars, hchars, rfl⟩ := Option.map_eq_some_iff.mp h
  have hsome : bytes.toByteArray.utf8Decode?.isSome = true := by rw [hchars]; rfl
  have hencode := ByteArray.utf8Encode_get_utf8Decode? (h := hsome)
  simp only [hchars, Option.get_some, List.utf8Encode] at hencode
  have hbytes := congrArg (fun b => b.data.toList) hencode
  simpa [utf8] using hbytes.symm

/-- How many characters begin in these bytes, if they spell a text. -/
def leads (bytes : Bytes) : Nat := bytes.countP fun b => b.IsUTF8FirstByte

theorem leads_append (bytes rest : Bytes) : leads (bytes ++ rest) = leads bytes + leads rest :=
  List.countP_append

theorem exists_cons_utf8EncodeChar (c : Char) :
    ∃ b bytes, String.utf8EncodeChar c = b :: bytes := by
  refine List.exists_cons_of_length_pos ?_
  rw [String.length_utf8EncodeChar]
  exact c.utf8Size_pos

theorem leads_utf8EncodeChar (c : Char) : leads (String.utf8EncodeChar c) = 1 := by
  have hfirst (i : Nat) (hi : i < (String.utf8EncodeChar c).length) :
      (String.utf8EncodeChar c)[i].IsUTF8FirstByte ↔ i = 0 :=
    UInt8.isUTF8FirstByte_getElem_utf8EncodeChar
  obtain ⟨b, rest, hbytes⟩ := exists_cons_utf8EncodeChar c
  rw [hbytes] at hfirst ⊢
  have hrest : leads rest = 0 := by
    rw [leads, List.countP_eq_zero]
    intro x hx
    obtain ⟨i, hi, rfl⟩ := List.getElem_of_mem hx
    have hnot := hfirst (i + 1) (Nat.succ_lt_succ hi)
    simpa using hnot
  have hb : b.IsUTF8FirstByte := (hfirst 0 (Nat.succ_pos _)).mpr rfl
  rw [leads, List.countP_cons_of_pos (by simpa using hb)]
  exact congrArg (· + 1) hrest

theorem leads_utf8 (cs : List Char) : leads (utf8 cs) = cs.length := by
  induction cs with
  | nil => rfl
  | cons c cs ih =>
    rw [utf8_cons, leads_append, leads_utf8EncodeChar, ih, List.length_cons, Nat.add_comm]

end Text
/-! ## Percent-encoding -/

def blank (c : Char) : Bool := c.toNat ≤ 0x20

def encoded (c : Char) : Bool := blank c || 0x7f ≤ c.toNat || c ∈ ['"', '#', '<', '>', '\'']

def hexDigit (n : Nat) : UInt8 := UInt8.ofNat (if n < 10 then 48 + n else 55 + n)

def hexVal (b : UInt8) : Option Nat :=
  let n := b.toNat
  if 48 ≤ n ∧ n ≤ 57 then some (n - 48)
  else if 65 ≤ n ∧ n ≤ 70 then some (n - 55)
  else if 97 ≤ n ∧ n ≤ 102 then some (n - 87)
  else none

def percent (b : UInt8) : Bytes := [37, hexDigit (b.toNat / 16), hexDigit (b.toNat % 16)]

def encodeChar (c : Char) : Bytes :=
  if encoded c then (String.utf8EncodeChar c).flatMap percent else String.utf8EncodeChar c

def encode (chars : List Char) : Bytes := chars.flatMap encodeChar

section Encode

theorem hexVal_hexDigit {n : Nat} (h : n < 16) : hexVal (hexDigit n) = some n := by
  revert n
  decide

theorem hexVal_of_mem_percent {b x : UInt8} (h : x ∈ percent b) :
    x = 37 ∨ ∃ n, hexVal x = some n := by
  have hlt : b.toNat / 16 < 16 := by
    have := b.toNat_lt
    omega
  simp only [percent, List.mem_cons, List.not_mem_nil, or_false] at h
  rcases h with rfl | rfl | rfl
  · exact .inl rfl
  · exact .inr ⟨_, hexVal_hexDigit hlt⟩
  · exact .inr ⟨_, hexVal_hexDigit (Nat.mod_lt _ (by decide))⟩

theorem encodeChar_of_not_encoded {c : Char} (h : encoded c = false) :
    encodeChar c = [UInt8.ofNat c.toNat] ∧ c.toNat < 127 := by
  simp only [encoded, Bool.or_eq_false_iff, decide_eq_false_iff_not, Nat.not_le] at h
  obtain ⟨⟨hblank, hlt⟩, hlist⟩ := h
  have hone : c.utf8Size = 1 := by
    rw [Char.utf8Size_eq_one_iff, UInt32.le_iff_toNat_le]
    exact Nat.le_of_lt hlt
  refine ⟨?_, hlt⟩
  rw [encodeChar, if_neg (by simp [encoded, hblank, Nat.not_le.mpr hlt, hlist]),
    String.utf8EncodeChar_eq_singleton hone]
  rfl

theorem encodeChar_of_encoded {c : Char} (h : encoded c = true) :
    encodeChar c = (String.utf8EncodeChar c).flatMap percent := if_pos h

theorem encodeChar_ne_nil (c : Char) : encodeChar c ≠ [] := by
  cases hc : encoded c with
  | true =>
    obtain ⟨b, bytes, hbytes⟩ := exists_cons_utf8EncodeChar c
    rw [encodeChar_of_encoded hc, hbytes]
    exact List.cons_ne_nil _ _
  | false =>
    rw [(encodeChar_of_not_encoded hc).1]
    exact List.cons_ne_nil _ _

theorem toNat_of_mem_encodeChar {c : Char} {b : UInt8} (h : b ∈ encodeChar c) (hpercent : b ≠ 37)
    (hhex : hexVal b = none) : encoded c = false ∧ c.toNat = b.toNat := by
  cases hc : encoded c with
  | true =>
    rw [encodeChar_of_encoded hc] at h
    obtain ⟨x, -, hx⟩ := List.mem_flatMap.mp h
    rcases hexVal_of_mem_percent hx with rfl | ⟨n, hn⟩
    · exact absurd rfl hpercent
    · rw [hhex] at hn
      cases hn
  | false =>
    obtain ⟨hone, hlt⟩ := encodeChar_of_not_encoded hc
    rw [hone, List.mem_singleton] at h
    refine ⟨rfl, ?_⟩
    rw [h, UInt8.toNat_ofNat']
    omega

@[simp] theorem encode_nil : encode [] = [] := rfl

@[simp] theorem encode_cons (c : Char) (chars : List Char) :
    encode (c :: chars) = encodeChar c ++ encode chars := rfl

@[simp] theorem encode_eq_nil_iff {chars : List Char} : encode chars = [] ↔ chars = [] := by
  cases chars with
  | nil => simp
  | cons c chars => simp [encodeChar_ne_nil]

/-- A character that stays one byte which no other character yields. -/
structure Separator (s : Char) (b : UInt8) : Prop where
  here : encodeChar s = [b]
  only : ∀ c, b ∈ encodeChar c → c = s

theorem separator_of_toNat {s : Char} {b : UInt8} (hs : encodeChar s = [b]) (hpercent : b ≠ 37)
    (hhex : hexVal b = none) : Separator s b := by
  refine ⟨hs, fun c hc => ?_⟩
  have hsb : b ∈ encodeChar s := by simp [hs]
  have hc' := (toNat_of_mem_encodeChar hc hpercent hhex).2
  have hs' := (toNat_of_mem_encodeChar hsb hpercent hhex).2
  exact Char.toNat_inj.mp (hc'.trans hs'.symm)

theorem separator_ampersand : Separator '&' 38 :=
  separator_of_toNat (by decide) (by decide) (by decide)

theorem separator_equals : Separator '=' 61 :=
  separator_of_toNat (by decide) (by decide) (by decide)

end Encode

section Separator
variable {s : Char} {b : UInt8}

theorem splitOn_append_of_notMem {α : Type} [BEq α] [LawfulBEq α] {x : α} {l rest head : List α}
    {tail : List (List α)} (h : x ∉ l) (hrest : rest.splitOn x = head :: tail) :
    (l ++ rest).splitOn x = (l ++ head) :: tail := by
  induction l with
  | nil => exact hrest
  | cons a l ih =>
    obtain ⟨hne, hl⟩ := not_or.mp (mt List.mem_cons.mpr h)
    have hbeq : (a == x) = false := by simpa using Ne.symm hne
    rw [List.cons_append, List.splitOn_cons_eq_if_modifyHead, hbeq, if_neg Bool.false_ne_true,
      ih hl]
    rfl

theorem mem_splitOn {α : Type} [BEq α] [LawfulBEq α] {x : α} {l part : List α}
    (h : part ∈ l.splitOn x) : part.Sublist l ∧ x ∉ part := by
  induction l generalizing part with
  | nil =>
    rw [List.splitOn_nil, List.mem_singleton] at h
    simp [h]
  | cons a l ih =>
    rw [List.splitOn_cons_eq_if_modifyHead] at h
    split at h
    · rcases List.mem_cons.mp h with rfl | h
      · simp
      · exact ⟨(ih h).1.cons a, (ih h).2⟩
    · rename_i hne
      obtain ⟨head, tail, hsplit⟩ := List.exists_cons_of_ne_nil (List.splitOn_ne_nil x l)
      rw [hsplit] at ih h
      rcases List.mem_cons.mp h with rfl | h
      · obtain ⟨hsub, hnot⟩ := ih List.mem_cons_self
        refine ⟨hsub.cons_cons a, fun hmem => ?_⟩
        rcases List.mem_cons.mp hmem with rfl | hmem
        · exact hne (beq_self_eq_true _)
        · exact hnot hmem
      · obtain ⟨hsub, hnot⟩ := ih (List.mem_cons_of_mem _ h)
        exact ⟨hsub.cons a, hnot⟩

theorem Separator.splitOn_encode (h : Separator s b) (chars : List Char) :
    (encode chars).splitOn b = (chars.splitOn s).map encode := by
  induction chars with
  | nil => rfl
  | cons c chars ih =>
    rw [encode_cons, List.splitOn_cons_eq_if_modifyHead]
    split
    · rename_i hc
      rw [eq_of_beq hc, h.here, List.singleton_append, List.splitOn_cons_eq_if_modifyHead,
        if_pos (beq_self_eq_true b), ih]
      rfl
    · rename_i hc
      have hnot : b ∉ encodeChar c := fun hmem => hc (beq_of_eq (h.only c hmem))
      obtain ⟨head, tail, hsplit⟩ := List.exists_cons_of_ne_nil (List.splitOn_ne_nil s chars)
      rw [hsplit] at ih ⊢
      rw [splitOn_append_of_notMem hnot ih]
      rfl

theorem Separator.takeWhile_encode (h : Separator s b) (chars : List Char) :
    (encode chars).takeWhile (· ≠ b) = encode (chars.takeWhile (· ≠ s)) := by
  induction chars with
  | nil => rfl
  | cons c chars ih =>
    rw [encode_cons]
    by_cases hc : c = s
    · subst hc
      rw [h.here]
      simp
    · have hpos : ∀ x ∈ encodeChar c, decide (x ≠ b) = true := by
        intro x hx
        exact decide_eq_true fun hxb => hc (h.only c (hxb ▸ hx))
      rw [List.takeWhile_append_of_pos hpos, ih, List.takeWhile_cons_of_pos (by simpa using hc),
        encode_cons]

theorem Separator.dropWhile_encode (h : Separator s b) (chars : List Char) :
    ((encode chars).dropWhile (· ≠ b)).drop 1 = encode ((chars.dropWhile (· ≠ s)).drop 1) := by
  induction chars with
  | nil => rfl
  | cons c chars ih =>
    rw [encode_cons]
    by_cases hc : c = s
    · subst hc
      rw [h.here]
      simp
    · have hpos : ∀ x ∈ encodeChar c, decide (x ≠ b) = true := by
        intro x hx
        exact decide_eq_true fun hxb => hc (h.only c (hxb ▸ hx))
      rw [List.dropWhile_append_of_pos hpos, ih, List.dropWhile_cons_of_pos (by simpa using hc)]

end Separator

/-! ## The fields -/

def hexPair : Bytes → Option UInt8
  | h :: l :: _ =>
    match hexVal h, hexVal l with
    | some hi, some lo => some (UInt8.ofNat (16 * hi + lo))
    | _, _ => none
  | _ => none

/-- Bytes past the first `n`, escapes and pluses replaced. -/
def decodeFrom : Nat → Bytes → Bytes
  | _, [] => []
  | n + 1, _ :: rest => decodeFrom n rest
  | 0, b :: rest =>
    if b = 37 then
      match hexPair rest with
      | some x => x :: decodeFrom 2 rest
      | none => 37 :: decodeFrom 0 rest
    else (if b = 43 then 32 else b) :: decodeFrom 0 rest

def decode (bytes : Bytes) : Bytes := decodeFrom 0 bytes

def hexChar (c : Char) : Bool := c.toNat < 128 && (hexVal (UInt8.ofNat c.toNat)).isSome

def hexStart : List Char → Bool
  | h :: l :: _ => hexChar h && hexChar l
  | _ => false

/-- Somewhere a `%` and two hex digits, which decoding takes for one byte. -/
def hasEscape : List Char → Bool
  | [] => false
  | c :: rest => c = '%' && hexStart rest || hasEscape rest

def unplus (c : Char) : Char := if c = '+' then ' ' else c

section Decode

theorem decodeFrom_percent (b : UInt8) (rest : Bytes) :
    decodeFrom 0 (percent b ++ rest) = b :: decodeFrom 0 rest := by
  have hlt : b.toNat / 16 < 16 := by
    have := b.toNat_lt
    omega
  have hpair : hexPair (hexDigit (b.toNat / 16) :: hexDigit (b.toNat % 16) :: rest) = some b := by
    simp only [hexPair, hexVal_hexDigit hlt, hexVal_hexDigit (Nat.mod_lt b.toNat (by decide))]
    rw [Nat.div_add_mod, UInt8.ofNat_toNat]
  simp only [percent, List.cons_append, List.nil_append]
  rw [decodeFrom, if_pos rfl, hpair]
  rfl

theorem decodeFrom_flatMap_percent (bytes rest : Bytes) :
    decodeFrom 0 (bytes.flatMap percent ++ rest) = bytes ++ decodeFrom 0 rest := by
  induction bytes with
  | nil => rfl
  | cons b bytes ih =>
    rw [List.flatMap_cons, List.append_assoc, decodeFrom_percent, ih]
    rfl

theorem decode_encode_cons {c : Char} (chars : List Char) (h : c ≠ '%') :
    decode (encode (c :: chars)) = String.utf8EncodeChar (unplus c) ++ decode (encode chars) := by
  rw [encode_cons, decode]
  cases hc : encoded c with
  | true =>
    have hplus : unplus c = c := by
      refine if_neg ?_
      rintro rfl
      exact absurd hc (by decide)
    rw [encodeChar_of_encoded hc, decodeFrom_flatMap_percent, hplus]
    rfl
  | false =>
    obtain ⟨hone, hlt⟩ := encodeChar_of_not_encoded hc
    have hutf8 : String.utf8EncodeChar c = [UInt8.ofNat c.toNat] := by
      rw [← hone, encodeChar, if_neg (by simp [hc])]
    have hbyte {b : UInt8} {d : Char} (hd : d.toNat = b.toNat) (heq : UInt8.ofNat c.toNat = b) :
        c = d := by
      have hval : c.toNat % 2 ^ 8 = b.toNat := by rw [← heq, UInt8.toNat_ofNat']
      exact Char.toNat_inj.mp (by omega)
    have hpercent : UInt8.ofNat c.toNat ≠ 37 := fun heq => h (hbyte rfl heq)
    rw [hone, List.singleton_append, decodeFrom, if_neg hpercent]
    by_cases hplus : c = '+'
    · subst hplus
      rfl
    · have hne : UInt8.ofNat c.toNat ≠ 43 := fun heq => hplus (hbyte rfl heq)
      rw [if_neg hne, unplus, if_neg hplus, hutf8]
      rfl

theorem not_encoded_of_hexChar {c : Char} (h : hexChar c = true) : encoded c = false := by
  have hall : ∀ n < 128, (hexVal (UInt8.ofNat n)).isSome = true →
      encoded (Char.ofNat n) = false := by decide
  simp only [hexChar, Bool.and_eq_true, decide_eq_true_eq] at h
  simpa using hall c.toNat h.1 h.2

theorem encodeChar_head (c : Char) :
    ∃ b bytes, encodeChar c = b :: bytes ∧ (hexVal b).isSome = hexChar c ∧
      (hexChar c = true → bytes = []) := by
  cases hc : encoded c with
  | true =>
    obtain ⟨b, bytes, hbytes⟩ := exists_cons_utf8EncodeChar c
    have hhex : hexChar c = false := by
      refine Bool.eq_false_iff.mpr fun h => ?_
      rw [not_encoded_of_hexChar h] at hc
      cases hc
    refine ⟨37, _, by rw [encodeChar_of_encoded hc, hbytes]; rfl, ?_, fun h => ?_⟩
    · rw [hhex]
      rfl
    · rw [hhex] at h
      cases h
  | false =>
    obtain ⟨hone, hlt⟩ := encodeChar_of_not_encoded hc
    refine ⟨_, [], hone, ?_, fun _ => rfl⟩
    simp [hexChar, Nat.lt_succ_of_lt hlt]

theorem hexPair_encode (chars : List Char) : (hexPair (encode chars)).isSome = hexStart chars := by
  have hnone {b : UInt8} (bytes : Bytes) (hb : (hexVal b).isSome = false) :
      hexPair (b :: bytes) = none := by
    have hval : hexVal b = none := by simpa using hb
    cases bytes with
    | nil => rfl
    | cons l bytes => simp [hexPair, hval]
  cases chars with
  | nil => rfl
  | cons h chars =>
    obtain ⟨b, bytes, hb, hhex, hnil⟩ := encodeChar_head h
    rw [encode_cons, hb]
    cases hh : hexChar h with
    | false =>
      rw [List.cons_append, hnone _ (hhex.trans hh)]
      cases chars with
      | nil => rfl
      | cons l chars => simp [hexStart, hh]
    | true =>
      rw [hnil hh, List.singleton_append]
      cases chars with
      | nil => rfl
      | cons l chars =>
        obtain ⟨x, rest, hx, hhex', -⟩ := encodeChar_head l
        obtain ⟨hi, hhi⟩ := Option.isSome_iff_exists.mp (hhex.trans hh)
        rw [encode_cons, hx, List.cons_append, hexStart, hh, ← hhex']
        cases hlo : hexVal x <;> simp [hexPair, hhi, hlo]

theorem decode_encode_percent {chars : List Char} (h : hexStart chars = false) :
    decode (encode ('%' :: chars)) = 37 :: decode (encode chars) := by
  have hpair : hexPair (encode chars) = none := by
    rw [← Option.not_isSome_iff_eq_none, hexPair_encode, h]
    decide
  rw [encode_cons, decode, show encodeChar '%' = [37] by decide, List.singleton_append, decodeFrom,
    if_pos rfl, hpair]
  rfl

theorem decode_encode_escape {h l : Char} (chars : List Char) (hh : hexChar h = true)
    (hl : hexChar l = true) :
    ∃ b, decode (encode ('%' :: h :: l :: chars)) = b :: decode (encode chars) := by
  have hpair := hexPair_encode (h :: l :: chars)
  rw [hexStart, hh, hl] at hpair
  obtain ⟨b, hb⟩ := Option.isSome_iff_exists.mp hpair
  obtain ⟨x, rest, hx, -, hnil⟩ := encodeChar_head h
  obtain ⟨y, rest', hy, -, hnil'⟩ := encodeChar_head l
  refine ⟨b, ?_⟩
  rw [encode_cons, decode, show encodeChar '%' = [37] by decide, List.singleton_append, decodeFrom,
    if_pos rfl, hb]
  rw [encode_cons, encode_cons, hx, hy, hnil hh, hnil' hl]
  rfl

theorem decode_encode {chars : List Char} (h : hasEscape chars = false) :
    decode (encode chars) = utf8 (chars.map unplus) := by
  induction chars with
  | nil => rfl
  | cons c chars ih =>
    simp only [hasEscape, Bool.or_eq_false_iff, Bool.and_eq_false_iff] at h
    obtain ⟨hhead, htail⟩ := h
    by_cases hc : c = '%'
    · have hstart : hexStart chars = false := by simpa [hc] using hhead
      rw [hc, decode_encode_percent hstart, ih htail]
      rfl
    · rw [decode_encode_cons chars hc, ih htail]
      rfl

theorem leads_decode_lt {chars : List Char} (h : hasEscape chars = true) :
    leads (decode (encode chars)) < chars.length := by
  induction hn : chars.length using Nat.strongRecOn generalizing chars with
  | _ n ih =>
    subst hn
    have hle (rest : List Char) (hrest : rest.length < chars.length) :
        leads (decode (encode rest)) ≤ rest.length := by
      cases hescape : hasEscape rest with
      | true => exact Nat.le_of_lt (ih rest.length hrest hescape rfl)
      | false =>
        have hleads : leads (decode (encode rest)) = rest.length := by
          rw [decode_encode hescape, leads_utf8, List.length_map]
        exact Nat.le_of_eq hleads
    cases chars with
    | nil => cases h
    | cons c chars =>
      have hshort : chars.length < (c :: chars).length := Nat.lt_succ_self _
      have hone (b : UInt8) : leads [b] ≤ 1 := List.countP_le_length
      simp only [hasEscape, Bool.or_eq_true, Bool.and_eq_true, decide_eq_true_eq] at h
      rw [List.length_cons]
      by_cases hescape : c = '%' ∧ hexStart chars = true
      · obtain ⟨rfl, hstart⟩ := hescape
        match chars, hstart with
        | h :: l :: chars, hstart =>
          rw [hexStart, Bool.and_eq_true] at hstart
          obtain ⟨b, hb⟩ := decode_encode_escape chars hstart.1 hstart.2
          have hrest := hle chars (by simp only [List.length_cons]; omega)
          have hb' := hone b
          rw [hb, ← List.singleton_append, leads_append]
          simp only [List.length_cons]
          omega
      · have hlt := ih _ hshort (h.resolve_left hescape) rfl
        by_cases hc : c = '%'
        · have hstart : hexStart chars = false := by simpa [hc] using hescape
          have hb' := hone 37
          rw [hc, decode_encode_percent hstart, ← List.singleton_append, leads_append]
          omega
        · rw [decode_encode_cons chars hc, leads_append, leads_utf8EncodeChar]
          omega

end Decode

def fields (query : Bytes) : List (Bytes × Bytes) :=
  ((query.splitOn 38).filter (· ≠ [])).map fun field =>
    (decode (field.takeWhile (· ≠ 61)), decode ((field.dropWhile (· ≠ 61)).drop 1))

def fieldOf (part : List Char) : Bytes × Bytes :=
  (decode (encode (part.takeWhile (· ≠ '='))), decode (encode ((part.dropWhile (· ≠ '=')).drop 1)))

theorem fields_encode (chars : List Char) :
    fields (encode chars) = ((chars.splitOn '&').filter (· ≠ [])).map fieldOf := by
  rw [fields, separator_ampersand.splitOn_encode, List.filter_map, List.map_map]
  have hempty : (fun field => decide (field ≠ [])) ∘ encode = fun field => decide (field ≠ []) := by
    funext field
    simp
  rw [hempty]
  refine List.map_congr_left fun field _ => ?_
  simp only [Function.comp_apply, fieldOf]
  rw [separator_equals.takeWhile_encode, separator_equals.dropWhile_encode]

end Urlencoded
