import SistemAir.Model.Tautan
import SistemAir.Spec.Change
import SistemAir.Spec.Forms
import SistemAir.Spec.Page

/-! The Ubah link of a row: does the page it opens edit that row? The key passes through the
attribute, the address, `$_GET`, `URLSearchParams` and the form's hidden field. -/
namespace SistemAir

open HtmlForm StatementProgram Prog Urlencoded

/-! ## What is read from the address -/

section Get
variable {get : Form} {n v : String}

theorem get?_append (form rest : Form) (n : String) :
    Form.get? (form ++ rest) n = (rest.get? n).or (form.get? n) := by
  induction form with
  | nil => simp [Form.get?]
  | cons field form ih =>
    obtain ⟨name, value⟩ := field
    rw [List.cons_append, Form.get?, Form.get?, ih, Option.or_assoc]

theorem get?_filter_ne (form : Form) (name n : String) :
    Form.get? (form.filter fun field => field.1 ≠ name) n =
      if n = name then none else form.get? n := by
  induction form with
  | nil => simp [Form.get?]
  | cons field form ih =>
    obtain ⟨name', value⟩ := field
    by_cases hname : name' = name
    · rw [List.filter_cons_of_neg (by simpa using hname), ih, Form.get?]
      split
      · rfl
      · rename_i hne
        rw [if_neg fun h : name' = n => hne (h.symm.trans hname), Option.or_none]
    · rw [List.filter_cons_of_pos (by simpa using hname), Form.get?, ih, Form.get?]
      split
      · rename_i heq
        rw [if_neg fun h : name' = n => hname (h.trans heq), Option.or_none]
      · rfl

theorem get?_registerVariable {field : Bytes × Bytes}
    (h : (registerVariable get field).get? n = some v) :
    get.get? n = some v ∨ field.2 = utf8 v.toList := by
  have hkept {nama : String} (h : Form.get? (get.filter fun g => g.1 ≠ nama) n = some v) :
      get.get? n = some v := by
    rw [get?_filter_ne] at h
    split at h
    · cases h
    · exact h
  unfold registerVariable at h
  dsimp only at h
  split at h
  · exact .inl h
  split at h
  · exact .inl h
  rw [get?_append, Option.or_eq_some_iff] at h
  rcases h with hnew | ⟨-, hold⟩
  · split at hnew
    · cases hnew
    · cases hvalue : text field.2 with
      | none =>
        rw [hvalue] at hnew
        cases hnew
      | some value =>
        rw [hvalue] at hnew
        simp only [Option.toList_some, List.map_cons, List.map_nil, Form.get?, Option.none_or,
          Option.ite_none_right_eq_some, Option.some.injEq] at hnew
        exact .inr (hnew.2 ▸ eq_utf8_of_text hvalue)
  · exact .inl (hkept hold)

theorem get?_registerVariables {rest : List (Bytes × Bytes)}
    (h : (rest.foldl registerVariable get).get? n = some v) :
    get.get? n = some v ∨ ∃ field ∈ rest, field.2 = utf8 v.toList := by
  induction rest generalizing get with
  | nil => exact .inl h
  | cons field rest ih =>
    rcases ih h with hget | ⟨later, hlater, hvalue⟩
    · exact (get?_registerVariable hget).imp_right fun hvalue => ⟨field, List.mem_cons_self, hvalue⟩
    · exact .inr ⟨later, List.mem_cons_of_mem _ hlater, hvalue⟩

theorem get?_suntik (post : Form) (isi : List (String × Option String)) (n : String) :
    (post.suntik isi).get? n =
      ((isi.reverse.find? fun field => field.1 = n).map Prod.snd).getD (post.get? n) := by
  induction isi generalizing post with
  | nil => rfl
  | cons field isi ih =>
    obtain ⟨name, value⟩ := field
    rw [Form.suntik, ih, get?_append, get?_filter_ne, List.reverse_cons, List.find?_append]
    cases (isi.reverse.find? fun field => field.1 = n) with
    | some later => rfl
    | none =>
      by_cases hname : name = n
      · cases value <;> simp [Form.get?, hname]
      · cases value <;> simp [Form.get?, hname, Ne.symm hname]

end Get

/-! ## The links -/

theorem toList_htmlspecialchars (s : String) :
    (htmlspecialchars s).toList = s.toList.flatMap Href.escapeChar := by
  have hescaped : ∀ r ∈ Href.references, r.2 ∈ ['&', '<', '>', '"', '\''] := by decide
  rw [htmlspecialchars, String.toList_ofList]
  refine List.flatMap_congr fun c _ => ?_
  split
  · decide
  · decide
  · decide
  · decide
  · decide
  · have hfind : (Href.references.find? fun r => r.2 = c) = none := by
      rw [List.find?_eq_none]
      rintro r hr hc
      have hmem := hescaped r hr
      rw [of_decide_eq_true hc] at hmem
      simp_all
    rw [Href.escapeChar, hfind]

section Links
variable {get : Form} {l : Href.Link} {p kunci u : String}

theorem polos_of_all {bytes : Bytes} (h : bytes.all (· ∉ [0, 32, 46, 91]) = true) :
    ∀ b ∈ bytes, b ∉ [0, 32, 46, 91] :=
  fun b hb => of_decide_eq_true (List.all_eq_true.mp h b hb)

theorem registerVariable_polos (get : Form) (hpolos : ∀ b ∈ utf8 kunci.toList, b ∉ [0, 32, 46, 91])
    (hisi : utf8 kunci.toList ≠ []) (value : String) :
    registerVariable get (utf8 kunci.toList, utf8 value.toList) =
      get.filter (fun g => g.1 ≠ kunci) ++ [(kunci, value)] := by
  have hnul : (utf8 kunci.toList).takeWhile (· ≠ 0) = utf8 kunci.toList := by
    refine List.takeWhile_eq_self_iff.mpr fun b hb => decide_eq_true ?_
    rintro rfl
    exact hpolos _ hb (by decide)
  have hblank : (utf8 kunci.toList).dropWhile (· = 32) = utf8 kunci.toList := by
    refine List.dropWhile_eq_self_iff.mpr fun hlength h => ?_
    exact hpolos _ (List.getElem_mem hlength) (by rw [of_decide_eq_true h]; decide)
  have hindeks : ∀ b ∈ utf8 kunci.toList, decide (b ≠ 91) = true := by
    intro b hb
    refine decide_eq_true ?_
    rintro rfl
    exact hpolos _ hb (by decide)
  have harray : (utf8 kunci.toList).dropWhile (· ≠ 91) = [] :=
    List.dropWhile_eq_nil_iff.mpr hindeks
  have hgaris : (utf8 kunci.toList).map
      (fun b => if b = 32 || b = 46 || b = 91 then 95 else b) = utf8 kunci.toList := by
    conv_rhs => rw [← List.map_id (utf8 kunci.toList)]
    refine List.map_congr_left fun b hb => if_neg ?_
    have hb' := hpolos b hb
    simp only [List.mem_cons, List.not_mem_nil, or_false, not_or] at hb'
    simp [hb']
  unfold registerVariable
  simp only [hnul, hblank, List.takeWhile_eq_self_iff.mpr hindeks, harray, List.not_mem_nil,
    decide_false, Bool.false_eq_true, if_false, hgaris, text_utf8, String.ofList_toList]
  rw [if_neg hisi]
  rfl

/-- What the link passes: the page `p` and a value under the name `kunci`. -/
structure Menunjuk (l : Href.Link) (p kunci : String) : Prop where
  first : fieldOf l.first = (utf8 "p".toList, utf8 p.toList)
  name : decode (encode l.name) = utf8 kunci.toList
  beda : kunci ≠ "p"
  isi : utf8 kunci.toList ≠ []
  polos : ∀ b ∈ utf8 kunci.toList, b ∉ [0, 32, 46, 91]

theorem Menunjuk.baca (h : Menunjuk l p kunci) (hwhole : Href.Whole u.toList) {v : String}
    (hv : decode (encode u.toList) = utf8 v.toList) :
    phpGet (l.sent u.toList) = [("p", p), (kunci, v)] ∧
      ∀ b : Peramban, b.params (l.sent u.toList) "p" = some p ∧
        b.params (l.sent u.toList) kunci = some v := by
  have hfields : fields (l.sent u.toList) =
      [(utf8 "p".toList, utf8 p.toList), (utf8 kunci.toList, utf8 v.toList)] := by
    rw [l.fields_sent_of_whole hwhole, h.first, h.name, hv]
  constructor
  · have hp : registerVariable [] (utf8 "p".toList, utf8 p.toList) = [("p", p)] :=
      registerVariable_polos [] (polos_of_all (by decide)) (by decide) p
    have hkunci := registerVariable_polos [("p", p)] h.polos h.isi v
    rw [phpGet, hfields, List.take_of_length_le (by simp [maxInputVars]), List.foldl_cons, hp,
      List.foldl_cons, hkunci, List.foldl_nil, List.filter_cons_of_pos (by simpa using h.beda.symm)]
    rfl
  · intro b
    simp only [Peramban.params, hfields, List.find?_cons, b.dekode_utf8]
    simp [b.dekode_utf8, h.beda.symm]

theorem Menunjuk.survives (h : Menunjuk l p kunci)
    (hget : (phpGet (l.sent u.toList)).get? kunci = some u) : Href.Survives u.toList := by
  obtain ⟨head, tail, hsplit⟩ :=
    List.exists_cons_of_ne_nil (List.splitOn_ne_nil '&' (Href.trimmed (Href.normalize u.toList)))
  have hfields := l.fields_sent hsplit
  have hp : registerVariable [] (utf8 "p".toList, utf8 p.toList) = [("p", p)] :=
    registerVariable_polos [] (polos_of_all (by decide)) (by decide) p
  rw [phpGet, hfields, h.first, maxInputVars, List.take_succ_cons, List.foldl_cons, hp] at hget
  rcases get?_registerVariables hget with hold | ⟨field, hfield, hvalue⟩
  · simp [Form.get?, h.beda.symm] at hold
  · refine l.survives_of_mem ?_ hvalue
    rw [hfields, List.tail_cons]
    exact List.mem_of_mem_take hfield

end Links

def tautanUser : Href.Link where
  path := "index.php".toList
  first := "p=user_edit".toList
  name := "user".toList

def tautanTarif : Href.Link where
  path := "index.php".toList
  first := "p=tarif_edit".toList
  name := "id_tarif".toList

theorem menunjuk_tautanUser : Menunjuk tautanUser "user_edit" "user" :=
  ⟨by decide +kernel, by decide +kernel, by decide, by decide, polos_of_all (by decide)⟩

theorem menunjuk_tautanTarif : Menunjuk tautanTarif "tarif_edit" "id_tarif" :=
  ⟨by decide +kernel, by decide +kernel, by decide, by decide, polos_of_all (by decide)⟩

theorem hrefs_barisUser (u : String) (d : DataUser) :
    hrefs (barisUser u d) = ["index.php?p=user_edit&user=" ++ esc (some u)] := rfl

theorem hrefs_barisTarif (t : Tarif) :
    hrefs (barisTarif t) = ["index.php?p=tarif_edit&id_tarif=" ++ esc (some t.idTarif)] := rfl

theorem kueri_tautanUser (u : String) :
    kueriTautan ("index.php?p=user_edit&user=" ++ esc (some u)) = tautanUser.sent u.toList := by
  unfold kueriTautan Href.Link.sent Href.Link.text
  rw [String.toList_append, esc, orEmpty, Option.getD_some, toList_htmlspecialchars]
  rfl

theorem kueri_tautanTarif (u : String) :
    kueriTautan ("index.php?p=tarif_edit&id_tarif=" ++ esc (some u)) =
      tautanTarif.sent u.toList := by
  unfold kueriTautan Href.Link.sent Href.Link.text
  rw [String.toList_append, esc, orEmpty, Option.getD_some, toList_htmlspecialchars]
  rfl

/-! ## The forms of the two pages -/

section Forms
variable {h : Halaman} {f : FormId} {ks : List Klik}

theorem setelahKlik_isi {P : Controls → Prop} (hmuat : P (muat h f))
    (hfill : ∀ name value form, P form → P (fill name value form))
    (hks : ∀ k ∈ ks, k.target = f → ∃ name value, k = .isi f name value) :
    P (setelahKlik h ks f) := by
  induction ks using List.reverseRecOn with
  | nil => exact hmuat
  | append_singleton ks k ih =>
    have hbefore := ih fun k hk => hks k (List.mem_append_left _ hk)
    rw [setelahKlik, Trace.run_concat]
    by_cases htarget : k.target = f
    · obtain ⟨name, value, rfl⟩ := hks k (by simp) htarget
      have hklik (forms : FormId → Controls) :
          klik h.p forms (.isi f name value) f = fill name value (forms f) :=
        klik_target (k := .isi f name value) rfl
      rw [hklik]
      exact hfill name value _ hbefore
    · rw [klik_of_ne htarget]
      exact hbefore

theorem named_setelahKlik {p : String → Bool} {form : Controls} (hmuat : named p (muat h f) = form)
    (hfill : ∀ name value, fill name value form = form)
    (hks : ∀ k ∈ ks, k.target = f → ∃ name value, k = .isi f name value) :
    named p (setelahKlik h ks f) = form := by
  refine setelahKlik_isi (P := fun controls => named p controls = form) hmuat ?_ hks
  intro name value controls hcontrols
  rw [named_fill_comm, hcontrols, hfill]

theorem fill_submitButton (n v tombol : String) :
    fill n v [submitButton tombol] = [submitButton tombol] :=
  fill_eq_self n v fun c hc => by
    rw [List.mem_singleton.mp hc]
    rfl

theorem get?_tombol {form : Controls} {tombol : String}
    (hform : named (fun name => name = "tombol") form = [submitButton tombol]) :
    Form.get? (submit form) "tombol" = some tombol := by
  rw [get?_submit, hform]
  simp [submit, submitButton, Control.fields, Form.get?]

theorem kirimForm_userEdit (hp : h.p = "user_edit") (hks : .tambahUser ∉ ks) :
    (kirimForm h ks .userForm).get? "tombol" = some "user_edit" ∧
      (kirimForm h ks .userForm).get? "yuser" = some h.user := by
  have hisi : ∀ k ∈ ks, k.target = .userForm → ∃ name value, k = .isi .userForm name value := by
    intro k hk htarget
    cases k with
    | tambahUser => exact absurd hk hks
    | isi f name value => exact ⟨name, value, by rw [show f = .userForm from htarget]⟩
    | _ => cases htarget
  constructor
  · apply get?_tombol
    refine named_setelahKlik ?_ (fun name value => fill_submitButton name value _) hisi
    simp only [muat, ready, cetak, hp, if_true]
    rfl
  · have hnamed : ∃ v, named (fun name => name = "yuser") (setelahKlik h ks .userForm) =
        [.input "text" "yuser" v, .input "hidden" "yuser" h.user] := by
      refine setelahKlik_isi (P := fun form => ∃ v, named (fun name => name = "yuser") form =
        [.input "text" "yuser" v, .input "hidden" "yuser" h.user])
        ⟨orEmpty (h.post.get? "yuser"), ?_⟩ (fun name value form hform => ?_) hisi
      · simp only [muat, ready, cetak, hp, if_true]
        rfl
      · obtain ⟨v, hv⟩ := hform
        rw [named_fill_comm, hv]
        by_cases hname : name = "yuser"
        · exact ⟨value, by simp [fill, hname, Control.name, Control.fill]⟩
        · exact ⟨v, by simp [fill, Ne.symm hname, Control.name]⟩
    obtain ⟨v, hv⟩ := hnamed
    rw [kirimForm, get?_submit, hv]
    simp [submit, Control.fields, Form.get?]

theorem kirimForm_tarifEdit (hp : h.p = "tarif_edit") (hks : .tambahTarif ∉ ks) :
    (kirimForm h ks .tarifForm).get? "tombol" = some "tarif_edit" ∧
      (kirimForm h ks .tarifForm).get? "id_tarif_lama" = some h.idTarif := by
  have hisi : ∀ k ∈ ks, k.target = .tarifForm → ∃ name value, k = .isi .tarifForm name value := by
    intro k hk htarget
    cases k with
    | tambahTarif => exact absurd hk hks
    | isi f name value => exact ⟨name, value, by rw [show f = .tarifForm from htarget]⟩
    | _ => cases htarget
  constructor
  · apply get?_tombol
    refine named_setelahKlik ?_ (fun name value => fill_submitButton name value _) hisi
    simp only [muat, ready, cetak, hp, if_true]
    rfl
  · apply get?_submit_of_hidden
    refine named_setelahKlik ?_ (fun name value => fill_eq_self name value ?_) hisi
    · simp only [muat, ready, cetak, hp, if_true]
      rfl
    · intro c hc
      rw [List.mem_singleton.mp hc]
      rfl

end Forms

/-! ## Following the link and submitting the form -/

/-- A logged-in session with an account of this level and a token. -/
structure SesiTerbuka (w : World) (q : Request) (actor : String) (level : Level) : Prop where
  page : q.page = .loginIndex
  user : (w.session q.sid).user = some actor
  named : isEmpty (some actor) = false
  active : idle (w.session q.sid) q.clock.time = false
  hasLevel : w.db.levelOf (some actor) = some level
  token : isEmpty (some (w.csrfToken q)) = false

/-- The Ubah link in the row of `u` loads the account `u`, and its form, however it is filled
in, edits the account `u` and no other. -/
structure MenyuntingUser (b : Peramban) (php : Php) (u : String) : Prop where
  memuat : ∀ (d : DataUser), ∀ href ∈ hrefs (barisUser u d), ∀ (q : Request) (s : Server),
    q.query = phpGet (kueriTautan href) → q.post = [] →
      pageRefused .admin (q.query.get? "p") = false ∧
      (suntikGet php q (variabelPost php q)).run execKueri s =
        (.ok ((variabelPost php q).suntikUser (some u) ((s.db.akun u).map Login.data)), s)
  mengubah : ∀ (d : DataUser), ∀ href ∈ hrefs (barisUser u d), ∀ (v : Variabel)
    (warga : List String) (ks : List Klik) (w : World) (q : Request) (actor : String),
    .tambahUser ∉ ks → SesiTerbuka w q actor .admin →
    q.post = kirimForm (halamanTautan php b (kueriTautan href) v .admin (w.csrfToken q) warga) ks
      .userForm →
    Authorized w q actor .admin "user_edit" ∧
      (step php w q).db.login.rows = w.db.login.rows.map fun a =>
        if a.username = u then Login.edited php q.salt q.post a else a

/-- The same for the tariff `u`; a price that is no number leaves every row as it was. -/
structure MenyuntingTarif (b : Peramban) (php : Php) (u : String) : Prop where
  memuat : ∀ (t : Tarif), t.idTarif = u → ∀ href ∈ hrefs (barisTarif t), ∀ (q : Request)
    (s : Server), q.query = phpGet (kueriTautan href) → q.post = [] →
      (∀ level ∈ [Level.admin, .bendahara], pageRefused level (q.query.get? "p") = false) ∧
      (suntikGet php q (variabelPost php q)).run execKueri s =
        (.ok ((variabelPost php q).suntikTarif (some u)
          ((s.db.tarif.find? u).map fun t => (t.tipeTarif, t.tarif, t.status))), s)
  mengubah : ∀ (t : Tarif), t.idTarif = u → ∀ href ∈ hrefs (barisTarif t), ∀ (v : Variabel)
    (warga : List String) (ks : List Klik) (w : World) (q : Request) (actor : String),
    .tambahTarif ∉ ks → ∀ level ∈ [Level.admin, .bendahara], SesiTerbuka w q actor level →
    q.post = kirimForm (halamanTautan php b (kueriTautan href) v level (w.csrfToken q) warga) ks
      .tarifForm →
    Authorized w q actor level "tarif_edit" ∧
      (step php w q).db.tarif.rows =
        match readOperand php (q.post.get? "tarif") with
        | none => w.db.tarif.rows
        | some tarif => w.db.tarif.rows.map fun t =>
          if t.idTarif = u then
            Tarif.set (q.post.get? "tipe_tarif") tarif (q.post.get? "status") t
          else t

section Following
variable {b : Peramban} {php : Php} {u : String}

theorem sqlEq_some {α : Type} [DecidableEq α] (x y : α) :
    sqlEq (some x) (some y) = decide (x = y) := by simp [sqlEq]

theorem SesiTerbuka.authorized {w : World} {q : Request} {actor tombol : String} {level : Level}
    (h : SesiTerbuka w q actor level) (hasks : q.tombol = some tombol)
    (htoken : q.post.get? "csrf_token" = some (w.csrfToken q))
    (hrole : roleRefused level tombol = false) : Authorized w q actor level tombol where
  page := h.page
  user := h.user
  named := h.named
  active := h.active
  hasLevel := h.hasLevel
  asks := hasks
  token := tokenRefused_eq_false_iff.mpr ⟨htoken, h.token⟩
  role := hrole

theorem get?_csrf_kirimForm {h : Halaman} (ks : List Klik) {f : FormId} (hf : f.diisi = true)
    (hks : ¬dikosongkan h ks f) : (kirimForm h ks f).get? "csrf_token" = some h.token := by
  have htoken := tokenControls_setelahKlik h ks hf
  rw [if_neg hks] at htoken
  exact get?_submit_of_hidden htoken

/-- A GET leaves PHP's variables as no handler has touched them. -/
theorem run_suntikGet_get {q : Request} (hpost : q.post = []) (s : Server) :
    (suntikGet php q (variabelPost php q)).run execKueri s = (.ok (s.db.variabel php q), s) := by
  have htombol : q.tombol = none := by rw [Request.tombol, hpost]; rfl
  have hbase : s.db.variabelPost php q = variabelPost php q := if_neg (by simp [htombol])
  rw [← hbase, run_suntikGet]

theorem menyuntingUser_of_survives (h : Href.Survives u.toList) : MenyuntingUser b php u := by
  obtain ⟨hphp, hjs⟩ := menunjuk_tautanUser.baca h.toWhole h.decode_encode
  constructor
  · intro d href hhref q s hquery hpost
    rw [hrefs_barisUser, List.mem_singleton] at hhref
    rw [hhref, kueri_tautanUser, hphp] at hquery
    have hp : q.query.get? "p" = some "user_edit" := by rw [hquery]; rfl
    have huser : q.query.get? "user" = some u := by rw [hquery]; simp [Form.get?]
    constructor
    · rw [hp]
      rfl
    · rw [run_suntikGet_get hpost, Db.variabel, hp, huser]
      simp [Db.variabelPost, Request.tombol, hpost, Select.jawab, Form.get?]
  · intro d href hhref v warga ks w q actor hks hsesi hpost
    rw [hrefs_barisUser, List.mem_singleton] at hhref
    rw [hhref, kueri_tautanUser] at hpost
    obtain ⟨hp, huser⟩ := hjs b
    have hform := kirimForm_userEdit (h := halamanTautan php b (tautanUser.sent u.toList) v .admin
      (w.csrfToken q) warga) (by simp [halamanTautan, hp, orEmpty]) hks
    have htoken := get?_csrf_kirimForm (h := halamanTautan php b (tautanUser.sent u.toList) v .admin
      (w.csrfToken q) warga) ks (f := .userForm) rfl (fun hempty => hks hempty.2.2)
    rw [← hpost] at hform htoken
    obtain ⟨htombol, hyuser⟩ := hform
    have hauth := hsesi.authorized htombol htoken rfl
    obtain ⟨entries, hdb⟩ := userEdit_db php hauth
    refine ⟨hauth, ?_⟩
    have huser' : q.post.get? "yuser" = some u := by
      rw [hyuser]
      simp [halamanTautan, huser, orEmpty]
    have hrows : (w.db.ubahUser php q.post q.salt).login.rows = w.db.login.rows.map fun a =>
        if sqlEq (some a.username) (q.post.get? "yuser") then Login.edited php q.salt q.post a
        else a := rfl
    rw [hdb, Db.logs_login, hrows, huser']
    simp only [sqlEq_some, decide_eq_true_eq]

theorem menyuntingTarif_of_survives (h : Href.Survives u.toList) : MenyuntingTarif b php u := by
  obtain ⟨hphp, hjs⟩ := menunjuk_tautanTarif.baca h.toWhole h.decode_encode
  constructor
  · rintro t rfl href hhref q s hquery hpost
    rw [hrefs_barisTarif, List.mem_singleton] at hhref
    rw [hhref, kueri_tautanTarif, hphp] at hquery
    have hp : q.query.get? "p" = some "tarif_edit" := by rw [hquery]; rfl
    have hid : q.query.get? "id_tarif" = some t.idTarif := by rw [hquery]; simp [Form.get?]
    constructor
    · rw [hp]
      decide
    · rw [run_suntikGet_get hpost, Db.variabel, hp, hid]
      simp [Db.variabelPost, Request.tombol, hpost, Select.jawab, Form.get?]
  · rintro t rfl href hhref v warga ks w q actor hks level hlevel hsesi hpost
    rw [hrefs_barisTarif, List.mem_singleton] at hhref
    rw [hhref, kueri_tautanTarif] at hpost
    obtain ⟨hp, hid⟩ := hjs b
    have hform := kirimForm_tarifEdit (h := halamanTautan php b (tautanTarif.sent t.idTarif.toList) v
      level (w.csrfToken q) warga) (by simp [halamanTautan, hp, orEmpty]) hks
    have htoken := get?_csrf_kirimForm (h := halamanTautan php b (tautanTarif.sent t.idTarif.toList) v
      level (w.csrfToken q) warga) ks (f := .tarifForm) rfl
      (fun hempty => by cases hempty.1)
    rw [← hpost] at hform htoken
    obtain ⟨htombol, hlama⟩ := hform
    have hrole : roleRefused level "tarif_edit" = false := by
      simp only [List.mem_cons, List.not_mem_nil, or_false] at hlevel
      rcases hlevel with rfl | rfl
      · rfl
      · rfl
    have hauth := hsesi.authorized htombol htoken hrole
    refine ⟨hauth, ?_⟩
    have hid' : q.post.get? "id_tarif_lama" = some t.idTarif := by
      rw [hlama]
      simp [halamanTautan, hid, orEmpty]
    cases htarif : readOperand php (q.post.get? "tarif") with
    | none =>
      rw [db_of_authorized hauth, dispatch,
        run_tarifEdit_rejected php actor level q.post (w.opened q) htarif]
      rfl
    | some tarif =>
      obtain ⟨entries, hdb⟩ := tarifEdit_db hauth htarif
      have hrows : (w.db.ubahTarif q.post tarif).tarif.rows = w.db.tarif.rows.map fun t =>
          if sqlEq (some t.idTarif) (q.post.get? "id_tarif_lama") then
            Tarif.set (q.post.get? "tipe_tarif") tarif (q.post.get? "status") t
          else t := rfl
      rw [hdb, Db.logs_tarif, hrows, hid']
      simp only [sqlEq_some, decide_eq_true_eq]

def bukaTautan (kueri : Bytes) : Request :=
  { Request.kirim 0 .loginIndex hariBuka [] with query := phpGet kueri }

@[simp] theorem query_bukaTautan (kueri : Bytes) : (bukaTautan kueri).query = phpGet kueri := rfl

@[simp] theorem post_bukaTautan (kueri : Bytes) : (bukaTautan kueri).post = [] := rfl

theorem variabel_bukaTautan (db : Db) (php : Php) (kueri : Bytes) :
    ((db.variabel php (bukaTautan kueri)).post.get? "yuser" = some u →
      (phpGet kueri).get? "user" = some u) ∧
    ((db.variabel php (bukaTautan kueri)).post.get? "id_tarif" = some u →
      (phpGet kueri).get? "id_tarif" = some u) := by
  have hpost : db.variabelPost php (bukaTautan kueri) = ⟨[], none, none, none⟩ := rfl
  rw [Db.variabel, query_bukaTautan, hpost]
  split
  · simp [Variabel.suntikUser, get?_suntik, Form.get?]
  · simp [Variabel.suntikTarif, get?_suntik, Form.get?]
  · simp [Variabel.suntikMeter, get?_suntik, Form.get?]
  · simp [Form.get?]

theorem survives_of_menyuntingUser (h : MenyuntingUser b php u) (s : Server) :
    Href.Survives u.toList := by
  have hhref : "index.php?p=user_edit&user=" ++ esc (some u) ∈
      hrefs (barisUser u ⟨none, none, none, none, .warga, none, none⟩) := by
    rw [hrefs_barisUser]
    exact List.mem_singleton_self _
  have hquery : (bukaTautan (tautanUser.sent u.toList)).query =
      phpGet (kueriTautan ("index.php?p=user_edit&user=" ++ esc (some u))) := by
    rw [query_bukaTautan, kueri_tautanUser]
  obtain ⟨-, hload⟩ := h.memuat _ _ hhref _ s hquery (post_bukaTautan _)
  rw [run_suntikGet_get (post_bukaTautan _)] at hload
  have hvariabel := Except.ok.inj (Prod.mk.inj hload).1
  refine menunjuk_tautanUser.survives ((variabel_bukaTautan s.db php _).1 ?_)
  rw [hvariabel, Variabel.suntikUser, get?_suntik]
  simp

theorem survives_of_menyuntingTarif (h : MenyuntingTarif b php u) (s : Server) :
    Href.Survives u.toList := by
  have hhref : "index.php?p=tarif_edit&id_tarif=" ++ esc (some u) ∈
      hrefs (barisTarif ⟨u, none, none, none⟩) := by
    rw [hrefs_barisTarif]
    exact List.mem_singleton_self _
  have hquery : (bukaTautan (tautanTarif.sent u.toList)).query =
      phpGet (kueriTautan ("index.php?p=tarif_edit&id_tarif=" ++ esc (some u))) := by
    rw [query_bukaTautan, kueri_tautanTarif]
  obtain ⟨-, hload⟩ := h.memuat _ rfl _ hhref _ s hquery (post_bukaTautan _)
  rw [run_suntikGet_get (post_bukaTautan _)] at hload
  have hvariabel := Except.ok.inj (Prod.mk.inj hload).1
  refine menunjuk_tautanTarif.survives ((variabel_bukaTautan s.db php _).2 ?_)
  rw [hvariabel, Variabel.suntikTarif, get?_suntik]
  simp

end Following

/-- An Ubah link edits the row it stands on exactly where the key has none of `&`, `#`, `+`,
tab, line ends and U+0000, does not end in a blank or a control character, and has no `%`
before two hex digits. -/
theorem edit_link_iff (b : Peramban) (php : Php) (u : String) :
    (MenyuntingUser b php u ↔ Href.Survives u.toList) ∧
      (MenyuntingTarif b php u ↔ Href.Survives u.toList) := by
  constructor
  · constructor
    · exact fun h => survives_of_menyuntingUser h World.pertama.server
    · exact menyuntingUser_of_survives
  · constructor
    · exact fun h => survives_of_menyuntingTarif h World.pertama.server
    · exact menyuntingTarif_of_survives

def kantorKembar : World :=
  serve .decimal World.pertama <| masuk 0 hariBuka "admin" "rahasia" ++
    [ajukan 0 hariBuka "user_add" [("yuser", "a+b"), ("passwet", "x"), ("nama", "Satu"),
      ("level", "warga")],
    ajukan 0 hariBuka "user_add" [("yuser", "a b"), ("passwet", "y"), ("nama", "Dua"),
      ("level", "warga")]]

/-- The link of the one opens the form of the other. -/
theorem edit_link_plus :
    let kueri := kueriTautan ("index.php?p=user_edit&user=" ++ esc (some "a+b"))
    (kantorKembar.db.akun "a+b").bind Login.nama = some "Satu" ∧
      (kantorKembar.db.akun "a b").bind Login.nama = some "Dua" ∧
      phpGet kueri = [("p", "user_edit"), ("user", "a b")] ∧
      Peramban.sederhana.params kueri "user" = some "a b" ∧
      ((kantorKembar.db.variabel .decimal (bukaTautan kueri)).post.get? "nama") = some "Dua" ∧
      ¬MenyuntingUser .sederhana .decimal "a+b" ∧ ¬MenyuntingTarif .sederhana .decimal "a+b" := by
  intro kueri
  have hlost : ¬Href.Survives "a+b".toList := by decide
  have hdecode : decode (encode "a+b".toList) = utf8 "a b".toList := by decide
  obtain ⟨hphp, hjs⟩ := menunjuk_tautanUser.baca (u := "a+b") (by decide) hdecode
  have hkueri : kueri = tautanUser.sent "a+b".toList := kueri_tautanUser "a+b"
  rw [hkueri]
  have hvariabel : kantorKembar.db.variabel .decimal (bukaTautan (tautanUser.sent "a+b".toList)) =
      (⟨[], none, none, none⟩ : Variabel).suntikUser (some "a b")
        ((kantorKembar.db.akun "a b").map Login.data) := by
    rw [Db.variabel, query_bukaTautan, hphp]
    rfl
  have hbaris : (kantorKembar.db.akun "a+b").bind Login.nama = some "Satu" ∧
      (kantorKembar.db.akun "a b").bind Login.nama = some "Dua" := by decide +kernel
  refine ⟨hbaris.1, hbaris.2, hphp, (hjs _).2, ?_,
    fun h => hlost (survives_of_menyuntingUser h kantorKembar.server),
    fun h => hlost (survives_of_menyuntingTarif h kantorKembar.server)⟩
  rw [hvariabel, ← hbaris.2, Variabel.suntikUser, get?_suntik]
  cases kantorKembar.db.akun "a b" <;> rfl

end SistemAir
