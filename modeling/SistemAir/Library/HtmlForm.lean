import Mathlib.Data.List.Basic

/-! Forms as a script and a browser see them: controls in document order, the
jQuery operations on the controls a selector hits, what a user can type, and the
fields a submission sends. -/
namespace HtmlForm

inductive Control
  | input (type name value : String)
  | radio (name value : String) (checked : Bool)
  | textarea (name value : String)
  | select (name : String) (options : List String) (chosen : Option String) (disabled : Bool)
  | button (type name value : String)
  deriving DecidableEq, Repr

abbrev Controls := List Control

abbrev Selector := Control → Bool

namespace Control

def name : Control → String
  | input _ name _ => name
  | radio name _ _ => name
  | textarea name _ => name
  | select name _ _ _ => name
  | button _ name _ => name

/-- `.val(v)`; a select without that option is left with nothing chosen. -/
def setVal (v : String) : Control → Control
  | input type name _ => input type name v
  | radio name _ checked => radio name v checked
  | textarea name _ => textarea name v
  | select name options _ disabled =>
    select name options (if v ∈ options then some v else none) disabled
  | button type name _ => button type name v

/-- What a user types or picks; hidden inputs and buttons are out of reach. -/
def fill (v : String) : Control → Control
  | input type name value => if type = "hidden" then input type name value else input type name v
  | radio name value _ => radio name value (value = v)
  | textarea name _ => textarea name v
  | select name options chosen disabled =>
    select name options (if v ∈ options && !disabled then some v else chosen) disabled
  | button type name value => button type name value

/-- The fields a control sends, in a form whose only submit button was pressed. -/
def fields : Control → List (String × String)
  | input _ name value => [(name, value)]
  | radio name value checked => if checked then [(name, value)] else []
  | textarea name value => [(name, value)]
  | select name _ chosen disabled => if disabled then [] else chosen.toList.map fun v => (name, v)
  | button type name value => if type = "submit" then [(name, value)] else []

@[simp] theorem name_setVal (v : String) (c : Control) : (c.setVal v).name = c.name := by
  cases c <;> rfl

@[simp] theorem name_fill (v : String) (c : Control) : (c.fill v).name = c.name := by
  cases c with
  | input type name value =>
    simp only [fill]
    split <;> rfl
  | _ => rfl

theorem name_of_mem_fields {c : Control} {field : String × String} (h : field ∈ c.fields) :
    field.1 = c.name := by
  cases c with
  | input type name value =>
    rw [List.mem_singleton.mp h]
    rfl
  | radio name value checked =>
    cases checked with
    | false => cases h
    | true =>
      rw [List.mem_singleton.mp h]
      rfl
  | textarea name value =>
    rw [List.mem_singleton.mp h]
    rfl
  | select name options chosen disabled =>
    cases disabled with
    | true => cases h
    | false =>
      obtain ⟨v, -, rfl⟩ := List.mem_map.mp h
      rfl
  | button type name value =>
    simp only [fields] at h
    split at h
    · rw [List.mem_singleton.mp h]
      rfl
    · cases h

end Control

/-! ## Selectors -/

def isInput : Selector
  | .input _ _ _ => true
  | .radio _ _ _ => true
  | _ => false

def isTextarea : Selector
  | .textarea _ _ => true
  | _ => false

def isSelect : Selector
  | .select _ _ _ _ => true
  | _ => false

def isButton : Selector
  | .button _ _ _ => true
  | _ => false

def hasType (t : String) : Selector
  | .input type _ _ => type = t
  | .radio _ _ _ => t = "radio"
  | .button type _ _ => type = t
  | _ => false

def hasName (n : String) : Selector := fun c => c.name = n

/-! ## Operations on a form -/

def val (sel : Selector) (v : String) (form : Controls) : Controls :=
  form.map fun c => if sel c then c.setVal v else c

def remove (sel : Selector) (form : Controls) : Controls := form.filter fun c => !sel c

def append (c : Control) (form : Controls) : Controls := form ++ [c]

/-- The user fills in the field called `n`. -/
def fill (n v : String) (form : Controls) : Controls :=
  form.map fun c => if c.name = n then c.fill v else c

def submit (form : Controls) : List (String × String) := form.flatMap Control.fields

theorem fill_eq_self {form : Controls} (n v : String) (h : ∀ c ∈ form, c.fill v = c) :
    fill n v form = form := by
  unfold fill
  conv_rhs => rw [← List.map_id form]
  apply List.map_congr_left
  intro c hc
  split
  · exact h c hc
  · rfl

/-! ## The controls of some names

What a submission sends under some names depends on the controls of these names
only, and an operation that hits none of them changes none of their fields. -/

def named (p : String → Bool) (form : Controls) : Controls := form.filter fun c => p c.name

section Named
variable (p : String → Bool) {sel : Selector} {form : Controls}

theorem named_append (form rest : Controls) : named p (form ++ rest) = named p form ++ named p rest :=
  List.filter_append _ _

theorem filter_submit (form : Controls) :
    (submit form).filter (fun field => p field.1) = submit (named p form) := by
  induction form with
  | nil => rfl
  | cons c form ih =>
    have hhead : c.fields.filter (fun field => p field.1) = if p c.name then c.fields else [] := by
      split
      · rename_i hp
        apply List.filter_eq_self.mpr
        intro field hfield
        rwa [Control.name_of_mem_fields hfield]
      · rename_i hp
        apply List.filter_eq_nil_iff.mpr
        intro field hfield
        rwa [Control.name_of_mem_fields hfield]
    simp only [submit, List.flatMap_cons, List.filter_append] at ih ⊢
    rw [hhead, ih]
    cases hp : p c.name <;> simp [named, hp]

theorem named_val_comm (sel : Selector) (v : String) (form : Controls) :
    named p (val sel v form) = val sel v (named p form) := by
  unfold named val
  rw [List.filter_map]
  congr 1
  apply List.filter_congr
  intro c _
  simp only [Function.comp_apply]
  split
  · rw [Control.name_setVal]
  · rfl

theorem named_fill_comm (n v : String) (form : Controls) :
    named p (fill n v form) = fill n v (named p form) := by
  unfold named fill
  rw [List.filter_map]
  congr 1
  apply List.filter_congr
  intro c _
  simp only [Function.comp_apply]
  split
  · rw [Control.name_fill]
  · rfl

variable {p}

theorem named_map {f : Control → Control} (hname : ∀ c, (f c).name = c.name)
    (h : ∀ c ∈ named p form, f c = c) : named p (form.map f) = named p form := by
  induction form with
  | nil => rfl
  | cons c form ih =>
    simp only [named, List.map_cons, List.filter_cons, hname] at h ih ⊢
    cases hp : p c.name with
    | false =>
      rw [hp] at h
      simpa using ih h
    | true =>
      simp only [hp, if_true, List.mem_cons, forall_eq_or_imp] at h
      simp only [if_true]
      rw [h.1, ih h.2]

theorem named_val (v : String) (h : ∀ c ∈ named p form, sel c = false) :
    named p (val sel v form) = named p form := by
  apply named_map
  · intro c
    split
    · exact Control.name_setVal v c
    · rfl
  · intro c hc
    simp [h c hc]

theorem named_remove (h : ∀ c ∈ named p form, sel c = false) :
    named p (remove sel form) = named p form := by
  unfold named remove
  rw [List.filter_filter]
  apply List.filter_congr
  intro c hc
  cases hp : p c.name with
  | false => rfl
  | true => simp [h c (List.mem_filter.mpr ⟨hc, hp⟩)]

theorem named_fill (n v : String) (h : ∀ c ∈ named p form, c.name = n → c.fill v = c) :
    named p (fill n v form) = named p form := by
  apply named_map
  · intro c
    split
    · exact Control.name_fill v c
    · rfl
  · intro c hc
    split
    · exact h c hc ‹_›
    · rfl

theorem named_fill_of_hidden (n v : String) {name value : String}
    (h : named p form = [.input "hidden" name value]) :
    named p (fill n v form) = [.input "hidden" name value] := by
  rw [named_fill, h]
  intro c hc _
  rw [h, List.mem_singleton] at hc
  rw [hc]
  rfl

theorem named_append_of_not {c : Control} (h : p c.name = false) :
    named p (append c form) = named p form := by
  rw [append, named_append]
  simp [named, h]

end Named

end HtmlForm
