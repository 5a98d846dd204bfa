import Mathlib.Data.List.Basic

/-! HTML as trees of pieces that a template prints, and as the characters a browser's
tokenizer reads. The tokenizer keeps the tags and their attribute names; what it makes of
character references and of the values does not matter here. -/
namespace Markup

/-- An attribute's value, by the way it is written. -/
inductive Value
  | bare
  | single (s : String)
  | double (s : String)
  | unquoted (s : String)
  deriving DecidableEq, Repr

structure Attr where
  name : String
  value : Value
  deriving DecidableEq, Repr

/-- A piece of a page. The elements whose content is no markup are one piece. -/
inductive Node
  | text (s : String)
  | tag (name : String) (attrs : List Attr)
  | close (name : String)
  | raw (name : String) (attrs : List Attr) (parts : List String)
  deriving DecidableEq, Repr

def Value.render : Value → List Char
  | .bare => []
  | .single s => '=' :: '\'' :: s.toList ++ ['\'']
  | .double s => '=' :: '"' :: s.toList ++ ['"']
  | .unquoted s => '=' :: s.toList

def Attr.render (a : Attr) : List Char := ' ' :: a.name.toList ++ a.value.render

def renderTag (name : String) (attrs : List Attr) : List Char :=
  '<' :: name.toList ++ attrs.flatMap Attr.render ++ ['>']

def renderClose (name : String) : List Char := '<' :: '/' :: name.toList ++ ['>']

def Node.render : Node → List Char
  | .text s => s.toList
  | .tag name attrs => renderTag name attrs
  | .close name => renderClose name
  | .raw name attrs parts => renderTag name attrs ++ parts.flatMap String.toList ++ renderClose name

def render (nodes : List Node) : List Char := nodes.flatMap Node.render

@[simp] theorem render_nil : render [] = [] := rfl

@[simp] theorem render_cons (n : Node) (nodes : List Node) :
    render (n :: nodes) = n.render ++ render nodes := rfl

@[simp] theorem render_append (nodes rest : List Node) :
    render (nodes ++ rest) = render nodes ++ render rest := by
  simp [render]

/-! ## The tokenizer -/

inductive Token
  | start (name : List Char) (attrs : List (List Char))
  | stop (name : List Char)
  deriving DecidableEq, Repr

/-- What is being read outside of tags: markup, text up to the end tag of an element, or
one of the three levels of a script; two dashes and a `>` end the inner levels. -/
inductive Content
  | data
  | plain
  | raw (name : List Char)
  | script
  | escaped (dashes : Nat)
  | double (dashes : Nat)
  deriving DecidableEq, Repr

structure Draft where
  closing : Bool
  name : List Char
  attrs : List (List Char)
  deriving DecidableEq, Repr

def Draft.add (t : Draft) (name : List Char) : Draft := { t with attrs := t.attrs ++ [name] }

inductive State
  | text (c : Content)
  | less (c : Content)
  | endOpen (c : Content)
  | closeName (c : Content) (name : List Char)
  | escapeStart
  | escapeStartDash
  | doubleStart (name : List Char)
  | doubleEnd (name : List Char)
  | tagName (closing : Bool) (name : List Char)
  | beforeName (t : Draft)
  | attrName (t : Draft) (name : List Char)
  | afterName (t : Draft)
  | beforeValue (t : Draft)
  | quoted (t : Draft) (quote : Char)
  | unquoted (t : Draft)
  | afterQuoted (t : Draft)
  | selfClosing (t : Draft)
  | declaration (read : List Char)
  /-- Three dashes stand for `--!`. -/
  | comment (dashes : Nat)
  | bogus
  deriving DecidableEq, Repr

def isSpace (ch : Char) : Bool := ch ∈ [' ', '\t', '\n', '\r', '\x0c']

def textStep (c : Content) (ch : Char) : State :=
  match c with
  | .data => if ch = '<' then .less .data else .text .data
  | .plain => .text .plain
  | .raw name => if ch = '<' then .less (.raw name) else .text (.raw name)
  | .script => if ch = '<' then .less .script else .text .script
  | .escaped dashes =>
    if ch = '-' then .text (.escaped (min (dashes + 1) 2))
    else if ch = '<' then .less (.escaped 0)
    else if ch = '>' ∧ dashes = 2 then .text .script
    else .text (.escaped 0)
  | .double dashes =>
    if ch = '-' then .text (.double (min (dashes + 1) 2))
    else if ch = '<' then .less (.double 0)
    else if ch = '>' ∧ dashes = 2 then .text .script
    else .text (.double 0)

def Content.element : Content → Option (List Char)
  | .raw name => some name
  | .script | .escaped _ => some "script".toList
  | _ => none

def contentOf (name : List Char) : Content :=
  if name = "script".toList then .script
  else if name ∈ ["textarea", "title", "style", "xmp", "iframe", "noembed", "noframes",
      "noscript"].map String.toList then .raw name
  else if name = "plaintext".toList then .plain
  else .data

def finish (t : Draft) : State × List Token :=
  if t.closing then (.text .data, [.stop t.name])
  else (.text (contentOf t.name), [.start t.name t.attrs])

def tagStep (t : Draft) (ch : Char) : State × List Token :=
  if isSpace ch then (.beforeName t, [])
  else if ch = '/' then (.selfClosing t, [])
  else if ch = '>' then finish t
  else (.attrName t [ch.toLower], [])

def step (s : State) (ch : Char) : State × List Token :=
  match s with
  | .text c => (textStep c ch, [])
  | .less c =>
    match c with
    | .data =>
      if ch = '/' then (.endOpen .data, [])
      else if ch = '!' then (.declaration [], [])
      else if ch = '?' then (.bogus, [])
      else if ch.isAlpha then (.tagName false [ch.toLower], [])
      else (textStep .data ch, [])
    | .script =>
      if ch = '/' then (.endOpen .script, [])
      else if ch = '!' then (.escapeStart, [])
      else (textStep .script ch, [])
    | .escaped dashes =>
      if ch = '/' then (.endOpen (.escaped dashes), [])
      else if ch.isAlpha then (.doubleStart [ch.toLower], [])
      else (textStep (.escaped dashes) ch, [])
    | .double dashes =>
      if ch = '/' then (.doubleEnd [], []) else (textStep (.double dashes) ch, [])
    | c => if ch = '/' then (.endOpen c, []) else (textStep c ch, [])
  | .endOpen c =>
    if c = .data then
      if ch.isAlpha then (.tagName true [ch.toLower], [])
      else if ch = '>' then (.text .data, [])
      else (.bogus, [])
    else if ch.isAlpha then (.closeName c [ch.toLower], [])
    else (textStep c ch, [])
  | .closeName c name =>
    if ch.isAlpha then (.closeName c (name ++ [ch.toLower]), [])
    else if c.element = some name ∧ (isSpace ch ∨ ch = '/' ∨ ch = '>') then
      tagStep ⟨true, name, []⟩ ch
    else (textStep c ch, [])
  | .escapeStart => if ch = '-' then (.escapeStartDash, []) else (textStep .script ch, [])
  | .escapeStartDash => if ch = '-' then (.text (.escaped 2), []) else (textStep .script ch, [])
  | .doubleStart name =>
    if isSpace ch ∨ ch = '/' ∨ ch = '>' then
      (.text (if name = "script".toList then .double 0 else .escaped 0), [])
    else if ch.isAlpha then (.doubleStart (name ++ [ch.toLower]), [])
    else (textStep (.escaped 0) ch, [])
  | .doubleEnd name =>
    if isSpace ch ∨ ch = '/' ∨ ch = '>' then
      (.text (if name = "script".toList then .escaped 0 else .double 0), [])
    else if ch.isAlpha then (.doubleEnd (name ++ [ch.toLower]), [])
    else (textStep (.double 0) ch, [])
  | .tagName closing name =>
    if isSpace ch ∨ ch = '/' ∨ ch = '>' then tagStep ⟨closing, name, []⟩ ch
    else (.tagName closing (name ++ [ch.toLower]), [])
  | .beforeName t => tagStep t ch
  | .attrName t name =>
    if isSpace ch then (.afterName (t.add name), [])
    else if ch = '=' then (.beforeValue (t.add name), [])
    else if ch = '/' ∨ ch = '>' then tagStep (t.add name) ch
    else (.attrName t (name ++ [ch.toLower]), [])
  | .afterName t =>
    if isSpace ch then (.afterName t, [])
    else if ch = '=' then (.beforeValue t, [])
    else tagStep t ch
  | .beforeValue t =>
    if isSpace ch then (.beforeValue t, [])
    else if ch = '"' ∨ ch = '\'' then (.quoted t ch, [])
    else if ch = '>' then finish t
    else (.unquoted t, [])
  | .quoted t quote => if ch = quote then (.afterQuoted t, []) else (.quoted t quote, [])
  | .unquoted t =>
    if isSpace ch then (.beforeName t, [])
    else if ch = '>' then finish t
    else (.unquoted t, [])
  | .afterQuoted t => tagStep t ch
  | .selfClosing t => if ch = '>' then finish t else tagStep t ch
  | .declaration read =>
    if read = ['-'] ∧ ch = '-' then (.comment 2, [])
    else if read = [] ∧ ch = '-' then (.declaration ['-'], [])
    else if ch = '>' then (.text .data, [])
    else (.bogus, [])
  | .comment dashes =>
    if ch = '-' then (.comment (if dashes = 3 then 1 else min (dashes + 1) 2), [])
    else if ch = '!' ∧ dashes = 2 then (.comment 3, [])
    else if ch = '>' ∧ 2 ≤ dashes then (.text .data, [])
    else (.comment 0, [])
  | .bogus => if ch = '>' then (.text .data, []) else (.bogus, [])

def run (s : State) : List Char → State × List Token
  | [] => (s, [])
  | ch :: rest =>
    let first := step s ch
    let last := run first.1 rest
    (last.1, first.2 ++ last.2)

def tags (chars : List Char) : List Token := (run (.text .data) chars).2

section Run
variable {s : State}

@[simp] theorem run_nil : run s [] = (s, []) := rfl

theorem run_cons (ch : Char) (rest : List Char) :
    run s (ch :: rest) =
      ((run (step s ch).1 rest).1, (step s ch).2 ++ (run (step s ch).1 rest).2) := rfl

theorem run_append (chars rest : List Char) :
    run s (chars ++ rest) =
      ((run (run s chars).1 rest).1, (run s chars).2 ++ (run (run s chars).1 rest).2) := by
  induction chars generalizing s with
  | nil => rfl
  | cons ch chars ih =>
    rw [List.cons_append, run_cons, ih, run_cons]
    simp only [List.append_assoc]

theorem run_trans {s' s'' : State} {chars rest : List Char} {out out' : List Token}
    (h : run s chars = (s', out)) (h' : run s' rest = (s'', out')) :
    run s (chars ++ rest) = (s'', out ++ out') := by
  rw [run_append, h, h']

theorem run_cons_eq {r s' : State} {ch : Char} {rest : List Char} {out : List Token}
    (h : step s ch = (r, [])) (h' : run r rest = (s', out)) :
    run s (ch :: rest) = (s', out) := by
  rw [run_cons, h, h']
  rfl

theorem run_stay {chars : List Char} (h : ∀ ch ∈ chars, step s ch = (s, [])) :
    run s chars = (s, []) := by
  induction chars with
  | nil => rfl
  | cons ch chars ih =>
    rw [run_cons, h ch List.mem_cons_self, ih fun c hc => h c (List.mem_cons_of_mem ch hc)]
    rfl

end Run

/-! ## Pieces that are read as they were meant -/

/-- The text changes nothing in the content it stands in and brings no tag. -/
def Inert (c : Content) (chars : List Char) : Prop := run (.text c) chars = (.text c, [])

instance (c : Content) (chars : List Char) : Decidable (Inert c chars) :=
  inferInstanceAs (Decidable (_ = _))

theorem Inert.nil {c : Content} : Inert c [] := rfl

theorem Inert.append {c : Content} {chars rest : List Char} (h : Inert c chars)
    (h' : Inert c rest) : Inert c (chars ++ rest) := run_trans h h'

theorem inert_of_notMem {c : Content} (hc : c = .data ∨ c = .script ∨ ∃ name, c = .raw name)
    {chars : List Char} (h : '<' ∉ chars) : Inert c chars := by
  refine run_stay fun ch hch => ?_
  have hne : ch ≠ '<' := fun heq => h (heq ▸ hch)
  rcases hc with rfl | rfl | ⟨name, rfl⟩
  all_goals simp [step, textStep, hne]

def nameChar (ch : Char) : Bool := ch.isAlphanum || ch = '-'

/-- Over the characters of the text, not over all characters there are. -/
instance (priority := 1100) decidableBAllChar {p : Char → Prop} [DecidablePred p] (chars : List Char) :
    Decidable (∀ ch ∈ chars, p ch) := List.decidableBAll p chars

def WellNamed (name : String) : Prop :=
  ∃ ch rest, name.toList = ch :: rest ∧ ch.isAlpha ∧ ∀ ch ∈ rest, nameChar ch

instance (name : String) : Decidable (WellNamed name) :=
  match h : name.toList with
  | [] => isFalse (by simp [WellNamed, h])
  | ch :: rest =>
    decidable_of_iff (ch.isAlpha ∧ ∀ ch ∈ rest, nameChar ch) (by simp [WellNamed, h])

def Value.Inert : Value → Prop
  | .bare => True
  | .single s => '\'' ∉ s.toList
  | .double s => '"' ∉ s.toList
  | .unquoted s => s.toList ≠ [] ∧ ∀ ch ∈ s.toList, nameChar ch

instance : (value : Value) → Decidable value.Inert
  | .bare => isTrue trivial
  | .single s => inferInstanceAs (Decidable ('\'' ∉ s.toList))
  | .double s => inferInstanceAs (Decidable ('"' ∉ s.toList))
  | .unquoted s => inferInstanceAs (Decidable (s.toList ≠ [] ∧ ∀ ch ∈ s.toList, nameChar ch))

structure Attr.Inert (a : Attr) : Prop where
  name : WellNamed a.name
  value : a.value.Inert

instance (a : Attr) : Decidable a.Inert :=
  decidable_of_iff (WellNamed a.name ∧ a.value.Inert) ⟨fun h => ⟨h.1, h.2⟩, fun h => ⟨h.1, h.2⟩⟩

def lower (name : String) : List Char := name.toList.map Char.toLower

def Attr.token (a : Attr) : List Char := lower a.name

def Node.Inert : Node → Prop
  | .text s => Markup.Inert .data s.toList
  | .tag name attrs =>
    WellNamed name ∧ contentOf (lower name) = .data ∧ ∀ a ∈ attrs, a.Inert
  | .close name => WellNamed name
  | .raw name attrs parts =>
    WellNamed name ∧ (∀ ch ∈ name.toList, ch.isAlpha) ∧
      (contentOf (lower name)).element = some (lower name) ∧ (∀ a ∈ attrs, a.Inert) ∧
        ∀ part ∈ parts, Markup.Inert (contentOf (lower name)) part.toList

def Node.tokens : Node → List Token
  | .text _ => []
  | .tag name attrs => [.start (lower name) (attrs.map Attr.token)]
  | .close name => [.stop (lower name)]
  | .raw name attrs _ => [.start (lower name) (attrs.map Attr.token), .stop (lower name)]

/-! ### Names and attributes -/

section Names
variable {ch : Char}

theorem nameChar_ne (h : nameChar ch = true) :
    isSpace ch = false ∧ ch ≠ '/' ∧ ch ≠ '>' ∧ ch ≠ '=' := by
  have hne (d : Char) (hd : nameChar d = false) : ch ≠ d := by
    rintro rfl
    rw [h] at hd
    cases hd
  refine ⟨?_, hne '/' rfl, hne '>' rfl, hne '=' rfl⟩
  simp only [isSpace, decide_eq_false_iff_not, List.mem_cons, List.not_mem_nil, or_false, not_or]
  exact ⟨hne _ rfl, hne _ rfl, hne _ rfl, hne _ rfl, hne _ rfl⟩

theorem nameChar_of_isAlpha (h : ch.isAlpha = true) : nameChar ch = true := by
  simp [nameChar, Char.isAlphanum, h]

theorem tagStep_alpha (t : Draft) (h : ch.isAlpha = true) :
    tagStep t ch = (.attrName t [ch.toLower], []) := by
  obtain ⟨hspace, hslash, hclose, -⟩ := nameChar_ne (nameChar_of_isAlpha h)
  simp [tagStep, hspace, hslash, hclose]

theorem run_tagName {chars : List Char} (h : ∀ ch ∈ chars, nameChar ch) (closing : Bool)
    (name : List Char) :
    run (.tagName closing name) chars =
      (.tagName closing (name ++ chars.map Char.toLower), []) := by
  induction chars generalizing name with
  | nil => simp
  | cons ch chars ih =>
    obtain ⟨hspace, hslash, hclose, -⟩ := nameChar_ne (h ch List.mem_cons_self)
    refine run_cons_eq (r := .tagName closing (name ++ [ch.toLower])) ?_ ?_
    · simp [step, hspace, hslash, hclose]
    · rw [ih fun c hc => h c (List.mem_cons_of_mem ch hc)]
      simp

theorem run_attrName {chars : List Char} (h : ∀ ch ∈ chars, nameChar ch) (t : Draft)
    (name : List Char) :
    run (.attrName t name) chars = (.attrName t (name ++ chars.map Char.toLower), []) := by
  induction chars generalizing name with
  | nil => simp
  | cons ch chars ih =>
    obtain ⟨hspace, hslash, hclose, heq⟩ := nameChar_ne (h ch List.mem_cons_self)
    refine run_cons_eq (r := .attrName t (name ++ [ch.toLower])) ?_ ?_
    · simp [step, hspace, hslash, hclose, heq]
    · rw [ih fun c hc => h c (List.mem_cons_of_mem ch hc)]
      simp

theorem run_closeName {chars : List Char} (h : ∀ ch ∈ chars, ch.isAlpha) (c : Content)
    (name : List Char) :
    run (.closeName c name) chars = (.closeName c (name ++ chars.map Char.toLower), []) := by
  induction chars generalizing name with
  | nil => simp
  | cons ch chars ih =>
    refine run_cons_eq (r := .closeName c (name ++ [ch.toLower])) ?_ ?_
    · simp [step, h ch List.mem_cons_self]
    · rw [ih fun c hc => h c (List.mem_cons_of_mem ch hc)]
      simp

end Names

/-- The state stands behind the name or a complete attribute of the tag `t`. -/
structure Ready (s : State) (t : Draft) : Prop where
  finish : step s '>' = finish t
  next : ∀ ch : Char, ch.isAlpha → run s [' ', ch] = (.attrName t [ch.toLower], [])

theorem ready_tagName (closing : Bool) (name : List Char) :
    Ready (.tagName closing name) ⟨closing, name, []⟩ where
  finish := by simp [step, tagStep, isSpace]
  next ch hch := by
    refine run_cons_eq (r := .beforeName ⟨closing, name, []⟩) (by simp [step, tagStep, isSpace]) ?_
    exact run_cons_eq (tagStep_alpha _ hch) rfl

theorem ready_attrName (t : Draft) (name : List Char) : Ready (.attrName t name) (t.add name) where
  finish := by simp [step, tagStep, isSpace]
  next ch hch := by
    obtain ⟨hspace, -, -, heq⟩ := nameChar_ne (nameChar_of_isAlpha hch)
    refine run_cons_eq (r := .afterName (t.add name)) (by simp [step, isSpace]) ?_
    refine run_cons_eq (r := .attrName (t.add name) [ch.toLower]) ?_ rfl
    simp [step, hspace, heq, tagStep_alpha _ hch]

theorem ready_afterQuoted (t : Draft) : Ready (.afterQuoted t) t where
  finish := by simp [step, tagStep, isSpace]
  next ch hch := by
    refine run_cons_eq (r := .beforeName t) (by simp [step, tagStep, isSpace]) ?_
    exact run_cons_eq (tagStep_alpha t hch) rfl

theorem ready_unquoted (t : Draft) : Ready (.unquoted t) t where
  finish := by simp [step, isSpace]
  next ch hch := by
    refine run_cons_eq (r := .beforeName t) (by simp [step, isSpace]) ?_
    exact run_cons_eq (tagStep_alpha t hch) rfl

theorem run_quoted {t : Draft} {quote : Char} {chars : List Char}
    (hquote : quote = '"' ∨ quote = '\'') (h : quote ∉ chars) :
    run (.beforeValue t) (quote :: chars ++ [quote]) = (.afterQuoted t, []) := by
  have hopen : step (.beforeValue t) quote = (.quoted t quote, []) := by
    rcases hquote with rfl | rfl <;> simp [step, isSpace]
  have hstay : run (.quoted t quote) chars = (.quoted t quote, []) := by
    refine run_stay fun ch hch => ?_
    have hne : ch ≠ quote := fun heq => h (heq ▸ hch)
    simp [step, hne]
  refine run_cons_eq hopen (run_trans hstay (run_cons_eq (r := .afterQuoted t) ?_ rfl))
  simp [step]

theorem run_unquoted {t : Draft} {chars : List Char} (hne : chars ≠ [])
    (h : ∀ ch ∈ chars, nameChar ch) : run (.beforeValue t) chars = (.unquoted t, []) := by
  cases chars with
  | nil => exact absurd rfl hne
  | cons ch chars =>
    have hquote : ch ≠ '"' ∧ ch ≠ '\'' := by
      have hch := h ch List.mem_cons_self
      constructor <;> rintro rfl <;> revert hch <;> decide
    obtain ⟨hspace, -, hclose, -⟩ := nameChar_ne (h ch List.mem_cons_self)
    refine run_cons_eq (r := .unquoted t) ?_ (run_stay fun d hd => ?_)
    · simp [step, hspace, hclose, hquote]
    · obtain ⟨hspace, -, hclose, -⟩ := nameChar_ne (h d (List.mem_cons_of_mem ch hd))
      simp [step, hspace, hclose]

theorem run_attr_name {s : State} {t : Draft} {a : Attr} (hs : Ready s t) (ha : WellNamed a.name) :
    run s (' ' :: a.name.toList) = (.attrName t a.token, []) := by
  obtain ⟨ch, rest, hname, hch, hrest⟩ := ha
  have hrun := run_trans (hs.next ch hch) (run_attrName hrest t [ch.toLower])
  rw [Attr.token, lower, hname]
  simpa using hrun

theorem run_attr {s : State} {t : Draft} {a : Attr} (hs : Ready s t) (ha : a.Inert) :
    ∃ s', run s a.render = (s', []) ∧ Ready s' (t.add a.token) := by
  have hname := run_attr_name hs ha.name
  have heq : step (.attrName t a.token) '=' = (.beforeValue (t.add a.token), []) := by
    simp [step, isSpace]
  have hvalue := ha.value
  cases hkind : a.value with
  | bare =>
    refine ⟨.attrName t a.token, ?_, ready_attrName t a.token⟩
    simpa [Attr.render, hkind, Value.render] using hname
  | single s =>
    rw [hkind] at hvalue
    refine ⟨.afterQuoted (t.add a.token), ?_, ready_afterQuoted _⟩
    have hrun := run_trans hname (run_cons_eq heq (run_quoted (.inr rfl) hvalue))
    simpa [Attr.render, hkind, Value.render] using hrun
  | double s =>
    rw [hkind] at hvalue
    refine ⟨.afterQuoted (t.add a.token), ?_, ready_afterQuoted _⟩
    have hrun := run_trans hname (run_cons_eq heq (run_quoted (.inl rfl) hvalue))
    simpa [Attr.render, hkind, Value.render] using hrun
  | unquoted s =>
    rw [hkind] at hvalue
    refine ⟨.unquoted (t.add a.token), ?_, ready_unquoted _⟩
    have hrun := run_trans hname (run_cons_eq heq (run_unquoted hvalue.1 hvalue.2))
    simpa [Attr.render, hkind, Value.render] using hrun

theorem run_attrs {attrs : List Attr} (h : ∀ a ∈ attrs, a.Inert) {s : State} {t : Draft}
    (hs : Ready s t) :
    ∃ s', run s (attrs.flatMap Attr.render) = (s', []) ∧
      Ready s' { t with attrs := t.attrs ++ attrs.map Attr.token } := by
  induction attrs generalizing s t with
  | nil => exact ⟨s, rfl, by simpa using hs⟩
  | cons a attrs ih =>
    obtain ⟨s₁, hrun₁, hs₁⟩ := run_attr hs (h a List.mem_cons_self)
    obtain ⟨s₂, hrun₂, hs₂⟩ := ih (fun b hb => h b (List.mem_cons_of_mem a hb)) hs₁
    refine ⟨s₂, run_trans hrun₁ hrun₂, ?_⟩
    simpa [Draft.add] using hs₂

/-! ### Pieces -/

theorem run_renderTag {name : String} {attrs : List Attr} (hname : WellNamed name)
    (hattrs : ∀ a ∈ attrs, a.Inert) :
    run (.text .data) (renderTag name attrs) =
      (.text (contentOf (lower name)), [.start (lower name) (attrs.map Attr.token)]) := by
  obtain ⟨ch, rest, hchars, hch, hrest⟩ := hname
  have hopen : run (.text .data) ['<', ch] = (.tagName false [ch.toLower], []) := by
    have hslash : ch ≠ '/' := (nameChar_ne (nameChar_of_isAlpha hch)).2.1
    have hmark : ch ≠ '!' ∧ ch ≠ '?' := by
      constructor <;> rintro rfl <;> revert hch <;> decide
    simp [run_cons, step, textStep, hslash, hmark, hch]
  have hname := run_trans hopen (run_tagName hrest false [ch.toLower])
  obtain ⟨s, hrun, hs⟩ := run_attrs hattrs
    (ready_tagName false ([ch.toLower] ++ rest.map Char.toLower))
  have hclose : run s ['>'] = (.text (contentOf (lower name)),
      [.start (lower name) (attrs.map Attr.token)]) := by
    rw [run_cons, hs.finish]
    simp [finish, lower, hchars]
  have hall := run_trans (run_trans hname hrun) hclose
  simpa [renderTag, hchars] using hall

theorem run_renderClose {name : String} (hname : WellNamed name) :
    run (.text .data) (renderClose name) = (.text .data, [.stop (lower name)]) := by
  obtain ⟨ch, rest, hchars, hch, hrest⟩ := hname
  have hopen : run (.text .data) ['<', '/', ch] = (.tagName true [ch.toLower], []) := by
    simp [run_cons, step, textStep, hch]
  have hname := run_trans hopen (run_tagName hrest true [ch.toLower])
  have hclose : run (.tagName true ([ch.toLower] ++ rest.map Char.toLower)) ['>'] =
      (.text .data, [.stop (lower name)]) := by
    rw [run_cons, (ready_tagName true _).finish]
    simp [finish, lower, hchars]
  have hall := run_trans hname hclose
  simpa [renderClose, hchars] using hall

theorem contentOf_cases (name : List Char) :
    contentOf name = .data ∨ contentOf name = .plain ∨ contentOf name = .script ∨
      contentOf name = .raw name := by
  unfold contentOf
  split
  · exact .inr (.inr (.inl rfl))
  split
  · exact .inr (.inr (.inr rfl))
  split
  · exact .inr (.inl rfl)
  · exact .inl rfl

theorem run_rawClose {name : String} (hname : WellNamed name)
    (halpha : ∀ ch ∈ name.toList, ch.isAlpha)
    (hcontent : (contentOf (lower name)).element = some (lower name)) :
    run (.text (contentOf (lower name))) (renderClose name) =
      (.text .data, [.stop (lower name)]) := by
  obtain ⟨ch, rest, hchars, hch, -⟩ := hname
  rw [hchars] at halpha
  have hopen : run (.text (contentOf (lower name))) ['<', '/', ch] =
      (.closeName (contentOf (lower name)) [ch.toLower], []) := by
    rcases contentOf_cases (lower name) with h | h | h | h <;> rw [h] at hcontent ⊢
    · cases hcontent
    · cases hcontent
    · simp [run_cons, step, textStep, hch]
    · simp [run_cons, step, textStep, hch]
  have hread := run_trans hopen
    (run_closeName (fun c hc => halpha c (List.mem_cons_of_mem ch hc)) _ [ch.toLower])
  have hclose : run (.closeName (contentOf (lower name)) ([ch.toLower] ++ rest.map Char.toLower))
      ['>'] = (.text .data, [.stop (lower name)]) := by
    have hlower : [ch.toLower] ++ rest.map Char.toLower = lower name := by simp [lower, hchars]
    rw [hlower, run_cons]
    simp [step, hcontent, tagStep, isSpace, finish]
  have hall := run_trans hread hclose
  simpa [renderClose, hchars] using hall

theorem run_parts {c : Content} {parts : List String}
    (h : ∀ part ∈ parts, Inert c part.toList) : Inert c (parts.flatMap String.toList) := by
  induction parts with
  | nil => exact Inert.nil
  | cons part parts ih =>
    exact (h part List.mem_cons_self).append (ih fun p hp => h p (List.mem_cons_of_mem part hp))

theorem run_node {n : Node} (h : n.Inert) : run (.text .data) n.render = (.text .data, n.tokens) := by
  cases n with
  | text s => exact h
  | tag name attrs =>
    obtain ⟨hname, hdata, hattrs⟩ := h
    rw [Node.render, run_renderTag hname hattrs, hdata]
    rfl
  | close name => exact run_renderClose h
  | raw name attrs parts =>
    obtain ⟨hname, halpha, hcontent, hattrs, hparts⟩ := h
    exact run_trans (run_trans (run_renderTag hname hattrs) (run_parts hparts))
      (run_rawClose hname halpha hcontent)

/-! ### Pages -/

def tokens (nodes : List Node) : List Token := nodes.flatMap Node.tokens

@[simp] theorem tokens_nil : tokens [] = [] := rfl

@[simp] theorem tokens_cons (n : Node) (nodes : List Node) :
    tokens (n :: nodes) = n.tokens ++ tokens nodes := rfl

@[simp] theorem tokens_append (nodes rest : List Node) :
    tokens (nodes ++ rest) = tokens nodes ++ tokens rest := List.flatMap_append

theorem tokens_flatMap {α : Type} (f : α → List Node) (items : List α) :
    tokens (items.flatMap f) = items.flatMap fun a => tokens (f a) := by
  induction items with
  | nil => rfl
  | cons a items ih => rw [List.flatMap_cons, tokens_append, ih, List.flatMap_cons]

theorem tokens_rows {α β : Type} {f : α → List Node} {g : β → List Node} {out : List Token}
    (hf : ∀ a, tokens (f a) = out) (hg : ∀ b, tokens (g b) = out) {as : List α} {bs : List β}
    (h : as.length = bs.length) : tokens (as.flatMap f) = tokens (bs.flatMap g) := by
  have hrows {γ : Type} {r : γ → List Node} (hr : ∀ c, tokens (r c) = out) (cs : List γ) :
      tokens (cs.flatMap r) = (List.replicate cs.length out).flatten := by
    rw [tokens_flatMap, List.flatMap_def, funext hr, List.map_const']
  rw [hrows hf, hrows hg, h]

/-- The pieces are read together as what they are. -/
def Faithful (nodes : List Node) : Prop :=
  run (.text .data) (render nodes) = (.text .data, tokens nodes)

instance (nodes : List Node) : Decidable (Faithful nodes) := inferInstanceAs (Decidable (_ = _))

theorem Faithful.nil : Faithful [] := rfl

theorem Faithful.append {nodes rest : List Node} (h : Faithful nodes) (h' : Faithful rest) :
    Faithful (nodes ++ rest) := by
  unfold Faithful
  rw [render_append, tokens_append]
  exact run_trans h h'

theorem Faithful.flatMap {α : Type} {f : α → List Node} {items : List α}
    (h : ∀ a ∈ items, Faithful (f a)) : Faithful (items.flatMap f) := by
  induction items with
  | nil => exact .nil
  | cons a items ih =>
    rw [List.flatMap_cons]
    exact (h a List.mem_cons_self).append (ih fun b hb => h b (List.mem_cons_of_mem a hb))

theorem faithful_of_inert {nodes : List Node} (h : ∀ n ∈ nodes, n.Inert) : Faithful nodes := by
  induction nodes with
  | nil => exact .nil
  | cons n nodes ih =>
    exact run_trans (run_node (h n List.mem_cons_self))
      (ih fun m hm => h m (List.mem_cons_of_mem n hm))

theorem Faithful.tags {nodes : List Node} (h : Faithful nodes) :
    tags (render nodes) = tokens nodes := congrArg Prod.snd h

end Markup
