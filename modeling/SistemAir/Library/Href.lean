import Mathlib.Data.List.DropRight
import SistemAir.Library.Urlencoded

/-! A link from the text of its attribute to the fields that are read at the other end:
character references, the URL parser and the fields of the query. -/
namespace Href

open Urlencoded

/-! ## The attribute -/

/-- What an HTML reader makes of line ends and of U+0000 before anything else. -/
def normalize : List Char → List Char
  | [] => []
  | c :: rest =>
    if c = '\r' then
      if rest.head? = some '\n' then normalize rest else '\n' :: normalize rest
    else (if c = '\x00' then '\uFFFD' else c) :: normalize rest

/-- The character references that escaping writes; pages that escape every value print no
others. -/
def references : List (String × Char) :=
  [("amp;", '&'), ("lt;", '<'), ("gt;", '>'), ("quot;", '"'), ("#039;", '\'')]

def reference? (chars : List Char) : Option (Char × Nat) :=
  references.findSome? fun r => if r.1.toList <+: chars then some (r.2, r.1.length) else none

/-- Characters past the first `n`, their references replaced. -/
def unescapeFrom : Nat → List Char → List Char
  | _, [] => []
  | n + 1, _ :: rest => unescapeFrom n rest
  | 0, c :: rest =>
    if c = '&' then
      match reference? rest with
      | some (c, n) => c :: unescapeFrom n rest
      | none => '&' :: unescapeFrom 0 rest
    else c :: unescapeFrom 0 rest

def attrValue (chars : List Char) : List Char := unescapeFrom 0 (normalize chars)

def escapeChar (c : Char) : List Char :=
  match references.find? fun r => r.2 = c with
  | some (name, _) => '&' :: name.toList
  | none => [c]

/-- Text in which nothing is to be replaced: an ampersand begins no reference. -/
def plain : List Char → Bool
  | [] => true
  | c :: rest =>
    c ≠ '\r' && c ≠ '\x00' &&
      (c ≠ '&' || rest ≠ [] && references.all fun r => r.1.toList.head? ≠ rest.head?) &&
      plain rest

section Attribute

theorem escapeChar_cases (c : Char) :
    (escapeChar c = [c] ∧ c ≠ '&') ∨
      ∃ name, (name, c) ∈ references ∧ escapeChar c = '&' :: name.toList := by
  unfold escapeChar
  split
  · rename_i name d hfind
    obtain rfl : d = c := by simpa using List.find?_some hfind
    exact .inr ⟨name, List.mem_of_find?_eq_some hfind, rfl⟩
  · rename_i hfind
    refine .inl ⟨rfl, ?_⟩
    rintro rfl
    exact absurd hfind (by decide)

theorem normalize_append_of_forall_ne {chars : List Char} (rest : List Char)
    (h : ∀ c ∈ chars, c ≠ '\r' ∧ c ≠ '\x00') :
    normalize (chars ++ rest) = chars ++ normalize rest := by
  induction chars with
  | nil => rfl
  | cons c chars ih =>
    obtain ⟨hcr, hnul⟩ := h c List.mem_cons_self
    rw [List.cons_append, normalize, if_neg hcr, if_neg hnul,
      ih fun d hd => h d (List.mem_cons_of_mem c hd)]
    rfl

theorem normalize_eq_self {chars : List Char} (h : ∀ c ∈ chars, c ≠ '\r' ∧ c ≠ '\x00') :
    normalize chars = chars := by
  simpa [normalize] using normalize_append_of_forall_ne [] h

theorem length_normalize_le (chars : List Char) : (normalize chars).length ≤ chars.length := by
  induction chars with
  | nil => exact Nat.le_refl 0
  | cons c chars ih =>
    rw [normalize]
    split
    · split
      · exact Nat.le_succ_of_le ih
      · exact Nat.succ_le_succ ih
    · exact Nat.succ_le_succ ih

theorem ne_of_mem_normalize {chars : List Char} :
    ∀ c ∈ normalize chars, c ≠ '\r' ∧ c ≠ '\x00' := by
  induction chars with
  | nil => simp [normalize]
  | cons d chars ih =>
    rw [normalize]
    split
    · split
      · exact ih
      · exact List.forall_mem_cons.mpr ⟨by decide, ih⟩
    · refine List.forall_mem_cons.mpr ⟨?_, ih⟩
      split
      · decide
      · exact ⟨‹_›, ‹_›⟩

theorem normalize_escape (chars : List Char) :
    normalize (chars.flatMap escapeChar) = (normalize chars).flatMap escapeChar := by
  have hname : ∀ r ∈ references, ∀ c ∈ '&' :: r.1.toList, c ≠ '\r' ∧ c ≠ '\x00' := by decide
  have hline : ∀ r ∈ references, r.2 ≠ '\r' ∧ r.2 ≠ '\x00' ∧ r.2 ≠ '\n' := by decide
  have hhead (rest : List Char) :
      (rest.flatMap escapeChar).head? = some '\n' ↔ rest.head? = some '\n' := by
    cases rest with
    | nil => rfl
    | cons c rest =>
      rcases escapeChar_cases c with ⟨hc, -⟩ | ⟨name, hmem, hc⟩
      · rw [List.flatMap_cons, hc]
        rfl
      · simp [hc, (hline _ hmem).2.2]
  induction chars with
  | nil => rfl
  | cons c chars ih =>
    rw [List.flatMap_cons]
    rcases escapeChar_cases c with ⟨hc, -⟩ | ⟨name, hmem, hc⟩
    · rw [hc, List.singleton_append, normalize, normalize, ih]
      simp only [hhead]
      split
      · split
        · rfl
        · rfl
      · split
        · rfl
        · rw [List.flatMap_cons, hc]
          rfl
    · obtain ⟨hcr, hnul, -⟩ := hline _ hmem
      rw [normalize_append_of_forall_ne _ (by rw [hc]; exact hname _ hmem), ih, normalize,
        if_neg hcr, if_neg hnul, List.flatMap_cons]

theorem unescapeFrom_length (chars rest : List Char) :
    unescapeFrom chars.length (chars ++ rest) = unescapeFrom 0 rest := by
  induction chars with
  | nil => rfl
  | cons c chars ih => exact ih

theorem head?_of_isPrefix {r : String × Char} (hr : r ∈ references) {chars : List Char}
    (h : r.1.toList <+: chars) : r.1.toList.head? = chars.head? := by
  have hne : ∀ r ∈ references, r.1.toList ≠ [] := by decide
  obtain ⟨c, name, hname⟩ := List.exists_cons_of_ne_nil (hne r hr)
  obtain ⟨rest, rfl⟩ := h
  rw [hname]
  rfl

theorem reference?_of_mem {r : String × Char} (hr : r ∈ references) (rest : List Char) :
    reference? (r.1.toList ++ rest) = some (r.2, r.1.length) := by
  have hunique : ∀ r ∈ references, ∀ r' ∈ references,
      r.1.toList.head? = r'.1.toList.head? → r = r' := by decide
  have hhead := head?_of_isPrefix hr (List.prefix_append r.1.toList rest)
  cases hfind : reference? (r.1.toList ++ rest) with
  | none =>
    have hr' := List.findSome?_eq_none_iff.mp hfind r hr
    rw [if_pos (List.prefix_append _ _)] at hr'
    cases hr'
  | some x =>
    obtain ⟨r', hr', hx⟩ := List.exists_of_findSome?_eq_some hfind
    split at hx
    · rename_i hstart
      obtain rfl := hunique r hr r' hr' (hhead.trans (head?_of_isPrefix hr' hstart).symm)
      exact hx.symm
    · cases hx

theorem unescape_escape (chars : List Char) :
    unescapeFrom 0 (chars.flatMap escapeChar) = chars := by
  induction chars with
  | nil => rfl
  | cons c chars ih =>
    rw [List.flatMap_cons]
    rcases escapeChar_cases c with ⟨hc, hne⟩ | ⟨name, hmem, hc⟩
    · rw [hc, List.singleton_append, unescapeFrom, if_neg hne, ih]
    · have hlength : name.length = name.toList.length := String.length_toList.symm
      rw [hc, List.cons_append, unescapeFrom, if_pos rfl, reference?_of_mem hmem]
      dsimp only
      rw [hlength, unescapeFrom_length, ih]

theorem reference?_eq_none {chars : List Char}
    (h : ∀ r ∈ references, r.1.toList.head? ≠ chars.head?) : reference? chars = none :=
  List.findSome?_eq_none_iff.mpr fun r hr =>
    if_neg fun hstart => h r hr (head?_of_isPrefix hr hstart)

theorem unescapeFrom_append {chars : List Char} (rest : List Char) (h : plain chars = true) :
    unescapeFrom 0 (chars ++ rest) = chars ++ unescapeFrom 0 rest := by
  induction chars with
  | nil => rfl
  | cons c chars ih =>
    simp only [plain, Bool.and_eq_true] at h
    obtain ⟨⟨-, hamp⟩, htail⟩ := h
    rw [List.cons_append, unescapeFrom]
    split
    · rename_i hc
      subst hc
      cases chars with
      | nil => simp at hamp
      | cons d chars =>
        simp only [ne_eq, not_true_eq_false, decide_false, Bool.false_or, Bool.and_eq_true] at hamp
        have hd : ∀ r ∈ references, r.1.toList.head? ≠ (d :: (chars ++ rest)).head? :=
          fun r hr => of_decide_eq_true (List.all_eq_true.mp hamp.2 r hr)
        rw [List.cons_append, reference?_eq_none hd]
        exact congrArg ('&' :: ·) (ih htail)
    · rw [ih htail]
      rfl

theorem attrValue_append {chars : List Char} (value : List Char) (h : plain chars = true) :
    attrValue (chars ++ value.flatMap escapeChar) = chars ++ normalize value := by
  have hline : ∀ c ∈ chars, c ≠ '\r' ∧ c ≠ '\x00' := by
    induction chars with
    | nil => simp
    | cons c chars ih =>
      simp only [plain, Bool.and_eq_true, decide_eq_true_eq] at h
      exact List.forall_mem_cons.mpr ⟨h.1.1, ih h.2⟩
  rw [attrValue, normalize_append_of_forall_ne _ hline, normalize_escape, unescapeFrom_append _ h,
    unescape_escape]

end Attribute
/-! ## The URL -/

def lineBreak (c : Char) : Bool := c ∈ ['\t', '\n', '\r']

/-- The query of a relative URL whose path has no `:`. -/
def queryChars (url : List Char) : List Char :=
  let url := ((url.dropWhile blank).rdropWhile blank).filter fun c => !lineBreak c
  ((url.takeWhile (· ≠ '#')).dropWhile (· ≠ '?')).drop 1

def query (url : List Char) : Bytes := encode (queryChars url)

/-! ## Links -/

def safe (c : Char) : Bool := !blank c && c ∉ ['&', '?', '#', ':', '/', '\\']

/-- A link in the same directory that passes one value: `path?first&name=value`. -/
structure Link where
  path : List Char
  first : List Char
  name : List Char
  path_ne : path ≠ [] := by decide
  first_ne : first ≠ [] := by decide
  name_ne : name ≠ [] := by decide
  path_safe : ∀ c ∈ path, safe c = true := by decide
  first_safe : ∀ c ∈ first, safe c = true := by decide
  name_safe : ∀ c ∈ name, safe c = true := by decide
  name_equals : '=' ∉ name := by decide
  name_head : ∀ r ∈ references, r.1.toList.head? ≠ name.head? := by decide

namespace Link
variable (l : Link)

def front : List Char := l.first ++ '&' :: (l.name ++ ['='])

def text (value : List Char) : List Char := l.path ++ '?' :: l.front ++ value.flatMap escapeChar

def sent (value : List Char) : Bytes := query (attrValue (l.text value))

end Link

def trimmed (value : List Char) : List Char :=
  (((value.rdropWhile blank).filter fun c => !lineBreak c).takeWhile (· ≠ '#'))

section Sent

theorem ne_of_safe {c d : Char} (h : safe c = true) (hd : safe d = false) : c ≠ d := by
  rintro rfl
  rw [h] at hd
  cases hd

theorem plain_append {chars : List Char} (rest : List Char) (h : ∀ c ∈ chars, safe c = true) :
    plain (chars ++ rest) = plain rest := by
  induction chars with
  | nil => rfl
  | cons c chars ih =>
    have hc := h c List.mem_cons_self
    rw [List.cons_append, plain, ih fun d hd => h d (List.mem_cons_of_mem c hd)]
    simp [ne_of_safe hc (d := '\r') (by decide), ne_of_safe hc (d := '\x00') (by decide),
      ne_of_safe hc (d := '&') (by decide)]

theorem rdropWhile_append {α : Type} {p : α → Bool} {x : α} (hx : p x = false) (l rest : List α) :
    (l ++ [x] ++ rest).rdropWhile p = l ++ [x] ++ rest.rdropWhile p := by
  induction rest using List.reverseRecOn with
  | nil => simp [hx]
  | append_singleton rest y ih =>
    rw [← List.append_assoc]
    by_cases hy : p y = true
    · rw [List.rdropWhile_concat_pos _ _ _ hy, List.rdropWhile_concat_pos _ _ _ hy, ih]
    · rw [List.rdropWhile_concat_neg _ _ _ hy, List.rdropWhile_concat_neg _ _ _ hy]
      simp only [List.append_assoc]

namespace Link
variable (l : Link)

theorem safe_of_mem_front {c : Char} (h : c ∈ l.front) : safe c = true ∨ c = '&' := by
  simp only [front, List.mem_append, List.mem_cons, List.not_mem_nil, or_false] at h
  rcases h with h | h | h | h
  · exact .inl (l.first_safe c h)
  · exact .inr h
  · exact .inl (l.name_safe c h)
  · exact .inl (h ▸ by decide)

theorem plain_text : plain (l.path ++ '?' :: l.front) = true := by
  obtain ⟨d, rest, hname⟩ := List.exists_cons_of_ne_nil l.name_ne
  have hhead : references.all (fun r => r.1.toList.head? ≠ some d) = true := by
    refine List.all_eq_true.mpr fun r hr => decide_eq_true ?_
    have hd := l.name_head r hr
    rwa [hname] at hd
  have hplain : plain (l.name ++ ['=']) = true := by
    rw [plain_append _ l.name_safe]
    decide
  rw [plain_append _ l.path_safe, plain, front, plain_append _ l.first_safe, plain, hplain, hname,
    List.cons_append, List.head?_cons, hhead]
  simp

theorem sent_eq (value : List Char) :
    l.sent value = encode (l.front ++ trimmed (normalize value)) := by
  obtain ⟨c, path, hpath⟩ := List.exists_cons_of_ne_nil l.path_ne
  have hc : blank c = false := by
    have hsafe := l.path_safe c (by rw [hpath]; exact List.mem_cons_self)
    simp only [safe, Bool.and_eq_true, Bool.not_eq_true'] at hsafe
    exact hsafe.1
  have hmem : ∀ d ∈ l.path ++ '?' :: l.front, safe d = true ∨ d = '&' ∨ d = '?' := by
    intro d hd
    rcases List.mem_append.mp hd with hd | hd
    · exact .inl (l.path_safe d hd)
    · rcases List.mem_cons.mp hd with hd | hd
      · exact .inr (.inr hd)
      · exact (l.safe_of_mem_front hd).imp_right .inl
  have hline : ∀ d ∈ l.path ++ '?' :: l.front, (!lineBreak d) = true := by
    intro d hd
    rcases hmem d hd with hd | rfl | rfl
    · simp [lineBreak, ne_of_safe hd (d := '\t') (by decide), ne_of_safe hd (d := '\n') (by decide),
        ne_of_safe hd (d := '\r') (by decide)]
    · decide
    · decide
  have hhash : ∀ d ∈ l.path ++ '?' :: l.front, decide (d ≠ '#') = true := by
    intro d hd
    rcases hmem d hd with hd | rfl | rfl
    · exact decide_eq_true (ne_of_safe hd (by decide))
    · decide
    · decide
  have hquestion : ∀ d ∈ l.path, decide (d ≠ '?') = true := fun d hd =>
    decide_eq_true (ne_of_safe (l.path_safe d hd) (by decide))
  have hfront : l.path ++ '?' :: l.front =
      (l.path ++ '?' :: (l.first ++ '&' :: l.name)) ++ ['='] := by simp [front]
  rw [sent, text, attrValue_append _ l.plain_text, query, queryChars]
  have hdrop : (l.path ++ '?' :: l.front ++ normalize value).dropWhile blank =
      l.path ++ '?' :: l.front ++ normalize value := by
    rw [hpath]
    exact List.dropWhile_cons_of_neg (by simp [hc])
  simp only [hdrop]
  rw [hfront, rdropWhile_append (by decide), ← hfront, List.filter_append,
    List.filter_eq_self.mpr hline, List.takeWhile_append_of_pos hhash, List.append_assoc,
    List.dropWhile_append_of_pos hquestion]
  rfl

end Link

end Sent

/-! ## What a link carries -/

theorem trimmed_sublist (value : List Char) : (trimmed value).Sublist value :=
  ((List.takeWhile_sublist _).trans List.filter_sublist).trans (List.rdropWhile_prefix _ _).sublist

/-- Every character of the value reaches the address, and none of them ends it or a field. -/
structure Whole (value : List Char) : Prop where
  clean : ∀ c ∈ value, c ∉ ['&', '#', '\t', '\n', '\r', '\x00']
  ends : ∀ c ∈ value.getLast?, blank c = false

theorem Whole.trimmed_normalize {value : List Char} (h : Whole value) :
    trimmed (normalize value) = value := by
  have hline : ∀ c ∈ value, c ≠ '\r' ∧ c ≠ '\x00' := by
    intro c hc
    constructor
    · rintro rfl
      exact h.clean _ hc (by decide)
    · rintro rfl
      exact h.clean _ hc (by decide)
  have hends : value.rdropWhile blank = value := by
    refine List.rdropWhile_eq_self_iff.mpr fun hne => ?_
    simpa using h.ends _ (List.getLast?_eq_some_getLast hne)
  have hbreak : ∀ c ∈ value, (!lineBreak c) = true := by
    intro c hc
    have hclean := h.clean c hc
    simp only [List.mem_cons, List.not_mem_nil, or_false, not_or] at hclean
    simp [lineBreak, hclean]
  have hhash : ∀ c ∈ value, decide (c ≠ '#') = true := by
    intro c hc
    refine decide_eq_true ?_
    rintro rfl
    exact h.clean _ hc (by decide)
  rw [normalize_eq_self hline, trimmed, hends, List.filter_eq_self.mpr hbreak,
    List.takeWhile_eq_self_iff.mpr hhash]

structure Survives (value : List Char) : Prop extends Whole value where
  plus : '+' ∉ value
  escape : hasEscape value = false

instance (value : List Char) : Decidable (Whole value) :=
  decidable_of_iff ((value.all fun c => c ∉ ['&', '#', '\t', '\n', '\r', '\x00']) = true ∧
      (value.getLast?.toList.all fun c => !blank c) = true)
    ⟨fun ⟨h₁, h₂⟩ => ⟨by simpa using h₁, by simpa using h₂⟩,
      fun h => ⟨by simpa using h.clean, by simpa using h.ends⟩⟩

instance (value : List Char) : Decidable (Survives value) :=
  decidable_of_iff (Whole value ∧ '+' ∉ value ∧ hasEscape value = false)
    ⟨fun ⟨h₁, h₂, h₃⟩ => ⟨h₁, h₂, h₃⟩, fun h => ⟨h.toWhole, h.plus, h.escape⟩⟩

theorem Survives.decode_encode {value : List Char} (h : Survives value) :
    decode (encode value) = utf8 value := by
  have hplus : value.map unplus = value := by
    conv_rhs => rw [← List.map_id value]
    refine List.map_congr_left fun c hc => if_neg ?_
    rintro rfl
    exact h.plus hc
  rw [Urlencoded.decode_encode h.escape, hplus]

namespace Link
variable (l : Link) {value : List Char}

theorem fields_sent {head : List Char} {tail : List (List Char)}
    (h : (trimmed (normalize value)).splitOn '&' = head :: tail) :
    fields (l.sent value) = fieldOf l.first :: (decode (encode l.name), decode (encode head)) ::
      (tail.filter (· ≠ [])).map fieldOf := by
  have hfirst : '&' ∉ l.first := fun hmem => absurd (l.first_safe _ hmem) (by decide)
  have hname : '&' ∉ l.name ++ ['='] := by
    intro hmem
    rcases List.mem_append.mp hmem with hmem | hmem
    · exact absurd (l.name_safe _ hmem) (by decide)
    · exact absurd (List.mem_singleton.mp hmem) (by decide)
  have hequals : ∀ c ∈ l.name, decide (c ≠ '=') = true := fun c hc =>
    decide_eq_true fun h : c = '=' => l.name_equals (h ▸ hc)
  have hsplit : (l.front ++ trimmed (normalize value)).splitOn '&' =
      l.first :: (l.name ++ ['='] ++ head) :: tail := by
    rw [front, List.append_assoc, List.cons_append,
      List.splitOn_append_cons_self_of_not_mem hfirst, splitOn_append_of_notMem hname h]
  have hfield : fieldOf (l.name ++ ['='] ++ head) =
      (decode (encode l.name), decode (encode head)) := by
    rw [fieldOf, List.append_assoc, List.takeWhile_append_of_pos hequals,
      List.dropWhile_append_of_pos hequals]
    simp
  rw [l.sent_eq, fields_encode, hsplit, List.filter_cons_of_pos (by simpa using l.first_ne),
    List.filter_cons_of_pos (by simp), List.map_cons, List.map_cons, hfield]

theorem fields_sent_of_whole (h : Whole value) : fields (l.sent value) =
    [fieldOf l.first, (decode (encode l.name), decode (encode value))] := by
  have hnot : '&' ∉ value := fun hmem => h.clean _ hmem (by decide)
  have hsplit : (trimmed (normalize value)).splitOn '&' = [value] := by
    rw [h.trimmed_normalize, List.splitOn_eq_singleton hnot]
  rw [l.fields_sent hsplit]
  rfl

theorem exists_sublist_of_mem {field : Bytes × Bytes} (h : field ∈ (fields (l.sent value)).tail) :
    ∃ part : List Char, part.Sublist (trimmed (normalize value)) ∧ '&' ∉ part ∧
      field.2 = decode (encode part) := by
  obtain ⟨head, tail, hsplit⟩ :=
    List.exists_cons_of_ne_nil (List.splitOn_ne_nil '&' (trimmed (normalize value)))
  rw [l.fields_sent hsplit, List.tail_cons] at h
  rcases List.mem_cons.mp h with rfl | h
  · obtain ⟨hsub, hnot⟩ := mem_splitOn (hsplit ▸ List.mem_cons_self)
    exact ⟨head, hsub, hnot, rfl⟩
  · obtain ⟨part, hpart, rfl⟩ := List.mem_map.mp h
    have hmem := List.mem_cons_of_mem head (List.mem_of_mem_filter hpart)
    obtain ⟨hsub, hnot⟩ := mem_splitOn (hsplit ▸ hmem)
    have hvalue := (List.drop_sublist 1 _).trans (List.dropWhile_sublist (l := part) (· ≠ '='))
    exact ⟨_, hvalue.trans hsub, fun hmem => hnot (hvalue.subset hmem), rfl⟩

/-- A field after the first one that spells the value of the link. Nothing can have been
added on the way, so nothing was lost or changed either. -/
theorem survives_of_mem {field : Bytes × Bytes} (h : field ∈ (fields (l.sent value)).tail)
    (hvalue : field.2 = utf8 value) : Survives value := by
  obtain ⟨part, hsub, hnot, hfield⟩ := l.exists_sublist_of_mem h
  have hle : part.length ≤ value.length :=
    (hsub.trans (trimmed_sublist _)).length_le.trans (length_normalize_le value)
  have hdecode : decode (encode part) = utf8 value := hfield.symm.trans hvalue
  have hescape : hasEscape part = false := by
    refine Bool.eq_false_iff.mpr fun hescape => ?_
    have hlt := leads_decode_lt hescape
    rw [hdecode, leads_utf8] at hlt
    omega
  have hunplus : part.map unplus = value := by
    rw [decode_encode hescape] at hdecode
    exact utf8_injective hdecode
  have hlength : part.length = value.length := by rw [← hunplus, List.length_map]
  have hpart : part = normalize value := by
    refine (hsub.trans (trimmed_sublist _)).eq_of_length_le ?_
    rw [hlength]
    exact length_normalize_le value
  have hplus : '+' ∉ value := by
    rw [← hunplus]
    intro hmem
    obtain ⟨c, -, hc⟩ := List.mem_map.mp hmem
    unfold unplus at hc
    split at hc
    · cases hc
    · exact ‹¬c = '+'› hc
  have hline : ∀ c ∈ value, c ≠ '\r' ∧ c ≠ '\x00' := by
    rw [← hunplus]
    intro c hc
    obtain ⟨d, hd, rfl⟩ := List.mem_map.mp hc
    unfold unplus
    split
    · decide
    · exact ne_of_mem_normalize d (hpart ▸ hd)
  rw [normalize_eq_self hline] at hpart hsub
  subst hpart
  have htrimmed : part.Sublist (((part.rdropWhile blank).filter fun c => !lineBreak c).takeWhile
      (· ≠ '#')) := hsub
  have hkept := htrimmed.trans (List.takeWhile_sublist _)
  have hends : part.rdropWhile blank = part :=
    (List.rdropWhile_prefix _ _).sublist.eq_of_length_le (hkept.trans List.filter_sublist).length_le
  refine ⟨⟨fun c hc => ?_, fun c hc => ?_⟩, hplus, hescape⟩
  · have hhash := List.mem_takeWhile_imp (htrimmed.subset hc)
    have hbreak := (List.mem_filter.mp (hkept.subset hc)).2
    have hamp : c ≠ '&' := fun h => hnot (h ▸ hc)
    simp only [lineBreak, List.mem_cons, List.not_mem_nil, or_false, Bool.not_eq_true',
      decide_eq_false_iff_not, not_or] at hbreak
    simp only [List.mem_cons, List.not_mem_nil, or_false, not_or]
    exact ⟨hamp, of_decide_eq_true hhash, hbreak.1, hbreak.2.1, hbreak.2.2, (hline c hc).2⟩
  · obtain ⟨hne, rfl⟩ := List.mem_getLast?_eq_getLast hc
    simpa using List.rdropWhile_eq_self_iff.mp hends hne

end Link

end Href
