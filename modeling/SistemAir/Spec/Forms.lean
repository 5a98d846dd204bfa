import SistemAir.Model.Forms

/-! Do the pages' own forms pass the token guard? The hidden token is followed
through every sequence of clicks, one lemma for each handler. -/
namespace SistemAir

open HtmlForm

section Get

theorem get?_filter (form : Form) (n : String) :
    Form.get? (form.filter fun field => field.1 = n) n = form.get? n := by
  induction form with
  | nil => rfl
  | cons field form ih =>
    obtain ⟨name, value⟩ := field
    by_cases hname : name = n
    · rw [List.filter_cons_of_pos (by simpa using hname), Form.get?, Form.get?, ih]
    · rw [List.filter_cons_of_neg (by simpa using hname), Form.get?, ih, if_neg hname, Option.or_none]

theorem get?_submit (form : Controls) (n : String) :
    Form.get? (submit form) n = Form.get? (submit (named (fun name => name = n) form)) n := by
  rw [← filter_submit (fun name => name = n) form]
  exact (get?_filter (submit form) n).symm

theorem get?_submit_of_hidden {form : Controls} {n v : String}
    (h : named (fun name => name = n) form = [.input "hidden" n v]) :
    Form.get? (submit form) n = some v := by
  rw [get?_submit, h]
  simp [submit, Control.fields, Form.get?]

theorem get?_submit_of_none {form : Controls} {n : String}
    (h : named (fun name => name = n) form = []) : Form.get? (submit form) n = none := by
  rw [get?_submit, h]
  rfl

end Get

/-! ## The token through the clicks -/

def tokenControls (form : Controls) : Controls := named (fun name => name = "csrf_token") form

def FormId.diisi : FormId → Bool
  | .userForm => true
  | .tarifForm => true
  | .meterForm => true
  | _ => false

/-- The add-user button empties every input of user_form, hidden ones included. -/
def dikosongkan (h : Halaman) (ks : List Klik) (f : FormId) : Prop :=
  f = .userForm ∧ h.p ∈ ["user", "user_edit"] ∧ Klik.tambahUser ∈ ks

instance (h : Halaman) (ks : List Klik) (f : FormId) : Decidable (dikosongkan h ks f) :=
  inferInstanceAs (Decidable (_ ∧ _))

section Token
variable {h : Halaman} {form : Controls} {t : String}

theorem tokenControls_val {sel : Selector} (v : String)
    (hsel : ∀ name value, sel (.input "hidden" name value) = false)
    (hform : tokenControls form = [.input "hidden" "csrf_token" t]) :
    tokenControls (val sel v form) = [.input "hidden" "csrf_token" t] := by
  unfold tokenControls at hform ⊢
  rw [named_val, hform]
  intro c hc
  rw [hform, List.mem_singleton] at hc
  rw [hc]
  exact hsel _ _

theorem tokenControls_kosongkanUser (hform : tokenControls form = [.input "hidden" "csrf_token" t]) :
    tokenControls (kosongkanUser form) = [.input "hidden" "csrf_token" ""] := by
  unfold tokenControls kosongkanUser at *
  rw [named_val_comm, hform]
  rfl

theorem tokenControls_kosongkanTarif (hform : tokenControls form = [.input "hidden" "csrf_token" t]) :
    tokenControls (kosongkanTarif form) = [.input "hidden" "csrf_token" t] := by
  unfold kosongkanTarif
  apply tokenControls_val _ (fun _ _ => rfl)
  exact tokenControls_val _ (fun _ _ => rfl) hform

theorem tokenControls_kosongkanMeter (hform : tokenControls form = [.input "hidden" "csrf_token" t]) :
    tokenControls (kosongkanMeter form) = [.input "hidden" "csrf_token" t] := by
  have hval : tokenControls (val
      (fun c => isInput c && (hasType "text" c || hasType "number" c) || isSelect c) "" form) =
      [.input "hidden" "csrf_token" t] := tokenControls_val _ (fun _ _ => rfl) hform
  unfold kosongkanMeter
  apply tokenControls_val _ (fun _ _ => rfl)
  unfold tokenControls at hval ⊢
  rw [named_remove, hval]
  intro c hc
  rw [hval, List.mem_singleton] at hc
  rw [hc]
  rfl

theorem tokenControls_handler {k : Klik} (htarget : k.target.diisi = true)
    (hform : tokenControls form = [.input "hidden" "csrf_token" t]) :
    tokenControls (k.handler form) =
      [.input "hidden" "csrf_token" (if k = .tambahUser then "" else t)] := by
  cases k with
  | tambahUser => exact tokenControls_kosongkanUser hform
  | tambahTarif => exact tokenControls_kosongkanTarif hform
  | tambahMeter => exact tokenControls_kosongkanMeter hform
  | isi f name value => exact named_fill_of_hidden name value hform
  | hapusUser user => cases htarget
  | hapusMeter no => cases htarget
  | hapusTarif id => cases htarget

theorem tokenControls_append {c : Control} (hname : c.name ≠ "csrf_token")
    (hform : tokenControls form = [.input "hidden" "csrf_token" t]) :
    tokenControls (append c form) = [.input "hidden" "csrf_token" t] := by
  unfold tokenControls at hform ⊢
  rw [named_append_of_not (by simpa using hname), hform]

theorem tokenControls_muat (h : Halaman) {f : FormId} (hf : f.diisi = true) :
    tokenControls (muat h f) = [csrfInput h] := by
  cases f with
  | userForm =>
    have hprinted : tokenControls (userForm h) = [csrfInput h] := rfl
    simp only [muat, ready, cetak]
    split
    · exact tokenControls_append (show "yuser" ≠ "csrf_token" by decide)
        (tokenControls_val _ (fun _ _ => rfl) hprinted)
    · exact hprinted
  | tarifForm =>
    have hprinted : tokenControls (tarifForm h) = [csrfInput h] := rfl
    simp only [muat, ready, cetak]
    split
    · exact tokenControls_append (show "id_tarif_lama" ≠ "csrf_token" by decide)
        (tokenControls_val _ (fun _ _ => rfl) hprinted)
    · exact hprinted
  | meterForm =>
    have hprinted : tokenControls (meterForm h) = [csrfInput h] := by
      unfold meterForm statusBayarControl
      split <;> split <;> rfl
    simp only [muat, ready, cetak]
    split
    · apply tokenControls_val _ (fun _ _ => rfl)
      exact tokenControls_append (show "no" ≠ "csrf_token" by decide) hprinted
    · exact hprinted
  | myModal => cases hf
  | modalTarif => cases hf
  | modalMeter => cases hf

theorem klik_of_ne {p : String} {forms : FormId → Controls} {k : Klik} {f : FormId}
    (hne : k.target ≠ f) : klik p forms k f = forms f := by
  unfold klik
  split
  · exact Function.update_of_ne hne.symm _ _
  · rfl

theorem klik_target {p : String} {forms : FormId → Controls} {k : Klik}
    (hbound : terpasang p k = true) : klik p forms k k.target = k.handler (forms k.target) := by
  unfold klik
  rw [if_pos hbound, Function.update_self]

theorem tokenControls_setelahKlik (h : Halaman) (ks : List Klik) {f : FormId}
    (hf : f.diisi = true) :
    tokenControls (setelahKlik h ks f) =
      [.input "hidden" "csrf_token" (if dikosongkan h ks f then "" else h.token)] := by
  induction ks using List.reverseRecOn with
  | nil =>
    have hnone : ¬dikosongkan h [] f := fun hd => by cases hd.2.2
    rw [if_neg hnone]
    exact tokenControls_muat h hf
  | append_singleton ks k ih =>
    rw [setelahKlik, Trace.run_concat]
    have hrun : Trace.run (klik h.p) (muat h) ks = setelahKlik h ks := rfl
    rw [hrun]
    -- A click on another form, or on a button nothing listens to, changes nothing here.
    have hsame : (∀ hd : k.target = f, terpasang h.p k = false) →
        tokenControls (klik h.p (setelahKlik h ks) k f) =
          [.input "hidden" "csrf_token" (if dikosongkan h (ks ++ [k]) f then "" else h.token)] := by
      intro hidle
      have hform : klik h.p (setelahKlik h ks) k f = setelahKlik h ks f := by
        by_cases htarget : k.target = f
        · unfold klik
          rw [hidle htarget]
          rfl
        · exact klik_of_ne htarget
      have hiff : dikosongkan h (ks ++ [k]) f ↔ dikosongkan h ks f := by
        unfold dikosongkan
        rw [List.mem_append, List.mem_singleton]
        constructor
        · rintro ⟨rfl, hp, hmem | rfl⟩
          · exact ⟨rfl, hp, hmem⟩
          · have hbound := hidle rfl
            simp [terpasang, hp] at hbound
        · exact fun hd => ⟨hd.1, hd.2.1, .inl hd.2.2⟩
      rw [hform, ih]
      simp only [hiff]
    by_cases htarget : k.target = f
    · cases hbound : terpasang h.p k with
      | false => exact hsame fun _ => hbound
      | true =>
        subst htarget
        rw [klik_target hbound, tokenControls_handler hf ih]
        have hiff : dikosongkan h (ks ++ [k]) k.target ↔
            k = .tambahUser ∨ dikosongkan h ks k.target := by
          unfold dikosongkan
          rw [List.mem_append, List.mem_singleton]
          constructor
          · rintro ⟨hu, hp, hmem | hk⟩
            · exact .inr ⟨hu, hp, hmem⟩
            · exact .inl hk.symm
          · rintro (rfl | hd)
            · exact ⟨rfl, by simpa [terpasang] using hbound, .inr rfl⟩
            · exact ⟨hd.1, hd.2.1, .inl hd.2.2⟩
        by_cases hk : k = .tambahUser
        · rw [if_pos hk, if_pos (hiff.mpr (.inl hk))]
        · rw [if_neg hk]
          have hiff' : dikosongkan h (ks ++ [k]) k.target ↔ dikosongkan h ks k.target := by
            rw [hiff]
            exact or_iff_right hk
          simp only [hiff']
    · exact hsame fun hd => absurd hd htarget

end Token

/-! ## The delete modals -/

def Klik.kunci : FormId → Klik → Option (String × String)
  | .myModal, .hapusUser user => some ("yuser", user)
  | .modalMeter, .hapusMeter no => some ("no", no)
  | .modalTarif, .hapusTarif idTarif => some ("id_tarif", idTarif)
  | _, _ => none

def FormId.tombol : FormId → String
  | .myModal => "user_hapus"
  | .modalTarif => "tarif_hapus"
  | _ => "meter_hapus"

def kunciTerakhir (f : FormId) (ks : List Klik) : Option (String × String) :=
  (ks.filterMap (Klik.kunci f)).getLast?

/-- A modal after its clicks: as printed, or with the last key instead of the token. -/
def modalSetelah (h : Halaman) (f : FormId) : Option (String × String) → Controls
  | none => modalForm h f.tombol
  | some (key, value) =>
    [.button "button" "" "", submitButton f.tombol, .input "hidden" key value]

section Modal
variable {h : Halaman} {f : FormId}

theorem bukaModal_modalSetelah (key value : String) (last : Option (String × String)) :
    bukaModal key value (modalSetelah h f last) = modalSetelah h f (some (key, value)) := by
  cases last <;> rfl

theorem fill_modalSetelah (n v : String) (last : Option (String × String)) :
    fill n v (modalSetelah h f last) = modalSetelah h f last := by
  apply fill_eq_self
  cases last with
  | none =>
    intro c hc
    simp only [modalSetelah, modalForm, csrfInput, submitButton, List.mem_cons, List.not_mem_nil,
      or_false] at hc
    rcases hc with rfl | rfl | rfl <;> rfl
  | some kv =>
    intro c hc
    simp only [modalSetelah, submitButton, List.mem_cons, List.not_mem_nil, or_false] at hc
    rcases hc with rfl | rfl | rfl <;> rfl

theorem setelahKlik_modal (h : Halaman) (ks : List Klik) (hf : f.diisi = false) :
    setelahKlik h ks f = modalSetelah h f (kunciTerakhir f ks) := by
  induction ks using List.reverseRecOn with
  | nil =>
    cases f with
    | userForm => cases hf
    | tarifForm => cases hf
    | meterForm => cases hf
    | myModal => rfl
    | modalTarif => rfl
    | modalMeter => rfl
  | append_singleton ks k ih =>
    rw [setelahKlik, Trace.run_concat]
    have hrun : Trace.run (klik h.p) (muat h) ks = setelahKlik h ks := rfl
    rw [hrun]
    have hlast : kunciTerakhir f (ks ++ [k]) = (Klik.kunci f k).or (kunciTerakhir f ks) := by
      unfold kunciTerakhir
      rw [List.filterMap_append]
      cases hkey : Klik.kunci f k <;> simp [hkey]
    rw [hlast]
    by_cases htarget : k.target = f
    · subst htarget
      cases k with
      | tambahUser => cases hf
      | tambahTarif => cases hf
      | tambahMeter => cases hf
      | hapusUser user =>
        rw [klik_target rfl, ih]
        exact bukaModal_modalSetelah _ _ _
      | hapusMeter no =>
        rw [klik_target rfl, ih]
        exact bukaModal_modalSetelah _ _ _
      | hapusTarif id =>
        rw [klik_target rfl, ih]
        exact bukaModal_modalSetelah _ _ _
      | isi f name value =>
        rw [klik_target rfl, ih]
        have hnone : Klik.kunci (Klik.isi f name value).target (.isi f name value) = none := by
          cases f <;> rfl
        rw [hnone, Option.none_or]
        exact fill_modalSetelah _ _ _
    · have hnone : Klik.kunci f k = none := by
        cases f <;> cases k <;> first | rfl | exact absurd rfl htarget
      rw [klik_of_ne htarget, ih, hnone, Option.none_or]

theorem get?_csrf_modal (kv : String × String) (hkey : kv.1 ≠ "csrf_token") :
    Form.get? (submit (modalSetelah h f (some kv))) "csrf_token" = none := by
  apply get?_submit_of_none
  obtain ⟨key, value⟩ := kv
  simp only [named, modalSetelah, submitButton, List.filter_eq_nil_iff]
  intro c hc
  simp only [List.mem_cons, List.not_mem_nil, or_false] at hc
  rcases hc with rfl | rfl | rfl
  · exact (show ¬decide ("" = "csrf_token") = true by decide)
  · exact (show ¬decide ("tombol" = "csrf_token") = true by decide)
  · exact fun hname => hkey (of_decide_eq_true hname)

end Modal

theorem kunci_ne_csrf {f : FormId} {ks : List Klik} {kv : String × String}
    (h : kunciTerakhir f ks = some kv) : kv.1 ≠ "csrf_token" := by
  have hmem := List.mem_of_getLast? h
  obtain ⟨k, -, hk⟩ := List.mem_filterMap.mp hmem
  cases f <;> cases k <;> cases hk
  · exact (show "yuser" ≠ "csrf_token" by decide)
  · exact (show "id_tarif" ≠ "csrf_token" by decide)
  · exact (show "no" ≠ "csrf_token" by decide)

theorem kunci_kirimForm {h : Halaman} {ks : List Klik} {f : FormId} {kv : String × String}
    (hf : f.diisi = false) (hlast : kunciTerakhir f ks = some kv) :
    (kirimForm h ks f).filter (fun field => field.1 ∈ ["yuser", "no", "id_tarif"]) = [kv] := by
  rw [kirimForm, setelahKlik_modal h ks hf, hlast]
  have hmem := List.mem_of_getLast? hlast
  obtain ⟨k, -, hk⟩ := List.mem_filterMap.mp hmem
  cases f <;> cases k <;> cases hk <;> rfl

/-! ## What the guard sees -/

/-- The submission passes the guard of login/index.php, and a delete form names
exactly the row clicked last. -/
structure Lolos (h : Halaman) (ks : List Klik) (f : FormId) : Prop where
  token : tokenRefused h.token ((kirimForm h ks f).get? "csrf_token") = false
  kunci : f.diisi = false → ∃ kv, kunciTerakhir f ks = some kv ∧
    (kirimForm h ks f).filter (fun field => field.1 ∈ ["yuser", "no", "id_tarif"]) = [kv]

/-- A form passes exactly when it is tarif_form or meter_form, or user_form on a page
where no add-user click has emptied it. No delete form ever does: before a click it
has no key, after one it has no token. -/
theorem lolos_iff (h : Halaman) (ks : List Klik) (f : FormId)
    (htoken : isEmpty (some h.token) = false) :
    Lolos h ks f ↔ f.diisi = true ∧ ¬dikosongkan h ks f := by
  cases hf : f.diisi with
  | true =>
    have hget : (kirimForm h ks f).get? "csrf_token" =
        some (if dikosongkan h ks f then "" else h.token) :=
      get?_submit_of_hidden (tokenControls_setelahKlik h ks hf)
    constructor
    · intro hlolos
      refine ⟨rfl, fun hempty => ?_⟩
      have hguard := hlolos.token
      rw [hget, if_pos hempty] at hguard
      cases hguard
    · rintro ⟨-, hkept⟩
      refine ⟨?_, fun hmodal => by rw [hf] at hmodal; cases hmodal⟩
      rw [hget, if_neg hkept]
      exact tokenRefused_eq_false_iff.mpr ⟨rfl, htoken⟩
  | false =>
    constructor
    · intro hlolos
      obtain ⟨kv, hlast, -⟩ := hlolos.kunci hf
      have hguard := hlolos.token
      rw [kirimForm, setelahKlik_modal h ks hf, hlast, get?_csrf_modal kv (kunci_ne_csrf hlast)]
        at hguard
      cases hguard
    · rintro ⟨hfalse, -⟩
      cases hfalse

def halamanUser : Halaman where
  php := .decimal
  p := "user"
  user := ""
  idTarif := ""
  no := ""
  token := "7f3a"
  post := []
  level := .admin
  levelTarget := none
  tipe := none
  status := none
  warga := ["budi"]

theorem lolos_tarif :
    Lolos halamanUser [.isi .userForm "nama" "Sari", .isi .tarifForm "tarif" "1500"] .tarifForm :=
  (lolos_iff _ _ _ (by decide)).mpr ⟨rfl, fun hempty => by cases hempty.1⟩

/-- The add-user button empties the token along with the fields, and opening a modal
removes it along with the old key. -/
theorem tambahUser_tertolak :
    ¬Lolos halamanUser [.tambahUser, .isi .userForm "yuser" "sari"] .userForm ∧
    ¬Lolos halamanUser [.hapusUser "budi"] .myModal := by
  constructor
  · intro hlolos
    exact absurd hlolos.token (by decide +kernel)
  · intro hlolos
    exact absurd hlolos.token (by decide +kernel)

end SistemAir
