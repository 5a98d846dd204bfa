import SistemAir.Spec.PageIsolation
import SistemAir.Spec.PageTags

/-! Which texts stay texts on login/index.php. Whatever the templates escape, and every
number and date, is read as it was meant; a few values are printed as they are. -/
namespace SistemAir

open KeyedTable Markup StatementProgram Prog

/-! ## Plain texts -/

/-- A text without the characters that end a text, an attribute or an element. -/
def Polos (s : String) : Prop := ∀ c ∈ s.toList, c ∉ ['<', '\'', '"']

instance (s : String) : Decidable (Polos s) := inferInstanceAs (Decidable (∀ c ∈ s.toList, _))

section Polos
variable {s t : String}

theorem Polos.append (hs : Polos s) (ht : Polos t) : Polos (s ++ t) := by
  intro c hc
  rw [String.toList_append, List.mem_append] at hc
  exact hc.elim (hs c) (ht c)

theorem polos_ofList {chars : List Char} (h : ∀ c ∈ chars, c ∉ ['<', '\'', '"']) :
    Polos (String.ofList chars) := by
  intro c hc
  rw [String.toList_ofList] at hc
  exact h c hc

theorem polos_htmlspecialchars (s : String) : Polos (htmlspecialchars s) := by
  refine polos_ofList fun c hc => ?_
  obtain ⟨d, -, hd⟩ := List.mem_flatMap.mp hc
  have hescape (entity : String) (h : Polos entity) (hc : c ∈ entity.toList) :
      c ∉ ['<', '\'', '"'] := h c hc
  split at hd
  · exact hescape "&amp;" (by decide) hd
  · exact hescape "&lt;" (by decide) hd
  · exact hescape "&gt;" (by decide) hd
  · exact hescape "&quot;" (by decide) hd
  · exact hescape "&#039;" (by decide) hd
  · rw [List.mem_singleton.mp hd]
    simp_all

theorem polos_esc (s : Option String) : Polos (esc s) := polos_htmlspecialchars _

theorem polos_of_isDigit {c : Char} (h : c.isDigit = true) : c ∉ ['<', '\'', '"'] := by
  intro hc
  simp only [List.mem_cons, List.not_mem_nil, or_false] at hc
  rcases hc with rfl | rfl | rfl <;> cases h

theorem polos_repr (n : Nat) : Polos n.repr :=
  fun _ hc => polos_of_isDigit (isDigit_of_mem_repr hc)

theorem polos_nat (n : Nat) : Polos (toString n) := by
  rw [Nat.toString_eq_repr]
  exact polos_repr n

theorem polos_decimal (x : Decimal) : Polos x.text := by
  have hdigits : ∀ c ∈ x.digits, c ∉ ['<', '\'', '"'] := by
    intro c hc
    rw [Decimal.digits, List.mem_append] at hc
    rcases hc with hc | hc
    · exact polos_of_isDigit (Decimal.isDigit_of_mem_whole hc)
    · split at hc
      · cases hc
      · rcases List.mem_cons.mp hc with rfl | hc
        · decide
        · exact polos_of_isDigit (x.isDigit_of_mem_fraction hc)
  refine polos_ofList ?_
  split
  · exact List.forall_mem_cons.mpr ⟨by decide, hdigits⟩
  · exact hdigits

theorem polos_angka (n : Option Decimal) : Polos (angka n) := by
  cases n with
  | none => decide
  | some n => exact polos_decimal n

theorem polos_pad (width n : Nat) : Polos (pad width n) := by
  refine (polos_ofList fun c hc => ?_).append (polos_nat n)
  rw [List.eq_of_mem_replicate hc]
  decide

theorem polos_teks (d : Date) : Polos d.teks :=
  ((((polos_pad _ _).append (by decide)).append (polos_pad _ _)).append (by decide)).append
    (polos_pad _ _)

theorem polos_tglBalik (d : Date) : Polos (tglBalik d) :=
  ((((polos_pad _ _).append (by decide)).append (polos_pad _ _)).append (by decide)).append
    (polos_pad _ _)

theorem polos_jam (waktu : Fin 86400) : Polos (jam waktu) :=
  ((((polos_pad _ _).append (by decide)).append (polos_pad _ _)).append (by decide)).append
    (polos_pad _ _)

theorem polos_ribuan {digits : List Char} (h : ∀ c ∈ digits, c ∉ ['<', '\'', '"']) :
    ∀ c ∈ ribuan digits, c ∉ ['<', '\'', '"'] := by
  fun_induction ribuan digits with
  | case1 a b c d rest ih =>
    obtain ⟨ha, h⟩ := List.forall_mem_cons.mp h
    obtain ⟨hb, h⟩ := List.forall_mem_cons.mp h
    obtain ⟨hc, h⟩ := List.forall_mem_cons.mp h
    have hdot : '.' ∉ ['<', '\'', '"'] := by decide
    exact List.forall_mem_cons.mpr ⟨ha, List.forall_mem_cons.mpr ⟨hb,
      List.forall_mem_cons.mpr ⟨hc, List.forall_mem_cons.mpr ⟨hdot, ih h⟩⟩⟩⟩
  | case2 digits => exact h

theorem polos_rupiah (n : Decimal) : Polos (rupiah n) := by
  have hsign : Polos (if n.round < 0 then "-" else "") := by
    split <;> decide
  refine Polos.append (by decide) (hsign.append (polos_ofList fun c hc => ?_))
  refine polos_ribuan (fun d hd => ?_) c (List.mem_reverse.mp hc)
  exact polos_nat n.round.natAbs d (List.mem_reverse.mp hd)

theorem Polos.inert (h : Polos s) : Inert .data s.toList :=
  inert_of_notMem (.inl rfl) fun hmem => h _ hmem (by decide)

theorem Polos.notMem (h : Polos s) : '"' ∉ s.toList ∧ '\'' ∉ s.toList :=
  ⟨fun hmem => h _ hmem (by decide), fun hmem => h _ hmem (by decide)⟩

end Polos

/-! ## Elements of plain texts -/

section Pieces

theorem faithful_text {s : String} (h : Polos s) : Faithful [.text s] :=
  faithful_of_inert (List.forall_mem_singleton.mpr h.inert)

theorem inert_double {name value : String} (hname : WellNamed name) (h : Polos value) :
    Attr.Inert ⟨name, .double value⟩ := ⟨hname, h.notMem.1⟩

theorem inert_single {name value : String} (hname : WellNamed name) (h : Polos value) :
    Attr.Inert ⟨name, .single value⟩ := ⟨hname, h.notMem.2⟩

def Biasa (name : String) : Prop := WellNamed name ∧ contentOf (lower name) = .data

instance (name : String) : Decidable (Biasa name) := inferInstanceAs (Decidable (_ ∧ _))

theorem faithful_tag {name : String} {attrs : List Attr} (hname : Biasa name)
    (hattrs : ∀ a ∈ attrs, a.Inert) : Faithful [.tag name attrs] :=
  faithful_of_inert (List.forall_mem_singleton.mpr ⟨hname.1, hname.2, hattrs⟩)

theorem faithful_elemen {name : String} {attrs : List Attr} {isi : List Node} (hname : Biasa name)
    (hattrs : ∀ a ∈ attrs, a.Inert) (hisi : Faithful isi) : Faithful (elemen name attrs isi) :=
  ((faithful_tag hname hattrs).append hisi).append
    (faithful_of_inert (List.forall_mem_singleton.mpr hname.1))

theorem faithful_td {s : String} (h : Polos s) : Faithful (td s) :=
  faithful_elemen (by decide) (by decide) (faithful_text h)

theorem faithful_inputNode {type id name value : String} {lagi : List Attr} (htype : Polos type)
    (hid : Polos id) (hname : Polos name) (hvalue : Polos value) (hlagi : ∀ a ∈ lagi, a.Inert) :
    Faithful [inputNode type id name value lagi] := by
  refine faithful_tag (by decide) (List.forall_mem_append.mpr ⟨?_, hlagi⟩)
  simp only [List.forall_mem_cons, List.not_mem_nil, false_implies, implies_true, and_true]
  exact ⟨inert_double (by decide) htype, by decide, inert_double (by decide) hid,
    inert_double (by decide) hname, inert_double (by decide) hvalue, by decide⟩

theorem faithful_alamat {isi : String} (h : Polos isi) :
    Faithful [.raw "textarea" [kelas "form-control", ⟨"id", .double "alamat"⟩,
      ⟨"name", .double "alamat"⟩, ⟨"required", .bare⟩] [isi]] := by
  have hcontent : contentOf (lower "textarea") = .raw (lower "textarea") := by decide
  refine faithful_of_inert (List.forall_mem_singleton.mpr
    ⟨by decide, by decide, by decide, by decide, List.forall_mem_singleton.mpr ?_⟩)
  rw [hcontent]
  exact inert_of_notMem (.inr (.inr ⟨_, rfl⟩)) fun hmem => h _ hmem (by decide)

theorem faithful_csrfToken {token : String} (h : Polos token) : Faithful [csrfToken token] := by
  refine faithful_tag (by decide) ?_
  simp only [List.forall_mem_cons, List.not_mem_nil, false_implies, implies_true, and_true]
  exact ⟨by decide, by decide, inert_double (by decide) h⟩

theorem faithful_tombolBaris {p kunci modal data value : String} (hp : Polos p)
    (hkunci : Polos kunci) (hmodal : Polos modal) (hdata : WellNamed data) (hvalue : Polos value) :
    Faithful (tombolBaris p kunci modal data value) := by
  have hhref : Polos ("index.php?p=" ++ p ++ "&" ++ kunci ++ "=" ++ value) :=
    (((((Polos.append (by decide) hp).append (by decide)).append hkunci).append
      (by decide)).append hvalue)
  refine Faithful.append (faithful_elemen (by decide) ?_ ?_) (faithful_elemen (by decide) ?_ ?_)
  · exact List.forall_mem_singleton.mpr (inert_single (by decide) hhref)
  · exact faithful_elemen (by decide) (by decide) (faithful_text (by decide))
  · simp only [List.forall_mem_cons, List.not_mem_nil, false_implies, implies_true, and_true]
    exact ⟨by decide, by decide, by decide, inert_single (by decide) hmodal,
      inert_single hdata hvalue⟩
  · exact faithful_text (by decide)

theorem faithful_badgeStatus (status : Option String) : Faithful (badgeStatus status) := by
  unfold badgeStatus
  split <;> exact faithful_elemen (by decide) (by decide) (faithful_text (by decide))

theorem faithful_opsi {value label : String} (hvalue : Polos value) (hlabel : Polos label)
    {pilih : Option String} (hpilih : ∀ name ∈ pilih, WellNamed name) :
    Faithful (opsi value label pilih) := by
  refine faithful_elemen (by decide) ?_ (faithful_text hlabel)
  refine List.forall_mem_cons.mpr ⟨inert_single (by decide) hvalue, ?_⟩
  cases pilih with
  | none => exact nofun
  | some name => exact List.forall_mem_singleton.mpr ⟨hpilih name rfl, trivial⟩

theorem faithful_opsiTetap {value label : String} (hvalue : Polos value) (hlabel : Polos label)
    (pilih : Bool) : Faithful (opsiTetap value label pilih) := by
  refine faithful_elemen (by decide) ?_ (faithful_text hlabel)
  refine List.forall_mem_cons.mpr ⟨inert_double (by decide) hvalue, ?_⟩
  cases pilih <;> decide

end Pieces

/-! ## The values that are printed as they are -/

def skripAtas (l : Latar) : Node :=
  .raw "script" [] ["\n        var level_user = ", jsonTeks (some l.level.name),
    ";\n        var user = ", jsonTeks (some l.actor), ";    \n    "]

/-- Every element below the messages that prints a value as it is stored, sent or encoded
for a script is read as that element. -/
structure HalamanUtuh (db : Db) (l : Latar) (v : Variabel) : Prop where
  token : Polos l.token
  opsi : ∀ dw ∈ Select.daftarWarga.jawab _ db, Faithful (opsiWarga l.php v dw)
  simpan : Faithful (simpanMeter l)
  skrip : Faithful [skripMeter l ((Select.dataLastMeter l.now).jawab _ db)]
  kdTarif : ∀ r ∈ (Select.pemakaianSaya l.actor).jawab _ db, Faithful (td r.kdTarif)
  bukti : ∀ r ∈ (Select.pemakaianSaya l.actor).jawab _ db, Faithful (aksiBayar r)

section Templates
variable {db : Db} {l : Latar} (v : Variabel)

theorem faithful_isi (naskah : Naskah) (bagian : Bagian) : Faithful (naskah.isi bagian) :=
  faithful_of_inert (naskah.isi_inert bagian)

theorem faithful_res (slot : Slot) (res : Option Res) : Faithful (l.res slot res) :=
  .flatMap fun res _ => faithful_isi l.naskah (.res slot l.level res)

theorem wellNamed_pilih (word : String) (h : WellNamed word) (b : Bool) :
    ∀ name ∈ (if b then some word else none), WellNamed name := by
  cases b with
  | true => exact fun name hname => Option.some.inj hname ▸ h
  | false => exact nofun

theorem faithful_navigasi (h : Faithful [skripAtas l]) : Faithful (navigasi l) := by
  have hisi := faithful_isi l.naskah
  have hlevel : Polos (" Logged in as : " ++ esc (some l.level.name)) :=
    Polos.append (by decide) (polos_esc _)
  have hnama : Polos ("\n" ++ esc l.nama ++ " (" ++ esc l.kota ++ ")") :=
    ((((Polos.append (by decide) (polos_esc _)).append (by decide)).append (polos_esc _)).append
      (by decide))
  have hikon : Faithful (elemen "i" [kelas "fa-regular fa-user fa-flip text-danger"] []) :=
    faithful_elemen (by decide) (by decide) .nil
  exact hisi .kepala
    |>.append h
    |>.append (hisi _)
    |>.append (faithful_elemen (by decide) (by decide) (hikon.append (faithful_text hlevel)))
    |>.append (faithful_text hnama)
    |>.append (hisi _)
    |>.append (hisi _)

theorem faithful_userFormNodes (htoken : Polos l.token) : Faithful (userFormNodes l v) := by
  have htetap (n : Nat) : Faithful (l.tetap .userForm n) := faithful_isi _ _
  have hinput (type id name value : String) (h : Polos type ∧ Polos id ∧ Polos name) :
      Faithful [inputNode type id name (esc (v.post.get? value)) []] :=
    faithful_inputNode h.1 h.2.1 h.2.2 (polos_esc _) nofun
  have hlevel : ∀ x ∈ [("admin", "Admin"), ("bendahara", "Bendahara"), ("petugas", "Petugas"),
      ("warga", "Warga")], Polos x.1 ∧ Polos x.2 := by
    decide
  have htipe : ∀ x ∈ ["RT", "Kos"], Polos x := by decide
  have hstatus : ∀ x ∈ ["AKTIF", "TDK AKTIF"], Polos x := by decide
  have hpilih := wellNamed_pilih "SELECTED" (by decide)
  exact htetap 0
    |>.append (faithful_csrfToken htoken)
    |>.append (htetap 1)
    |>.append (hinput "text" "username" "yuser" "yuser" (by decide))
    |>.append (htetap 2)
    |>.append (hinput "password" "password" "passwet" "passwet" (by decide))
    |>.append (htetap 3)
    |>.append (hinput "text" "nama" "nama" "nama" (by decide))
    |>.append (htetap 4)
    |>.append (faithful_alamat (polos_esc _))
    |>.append (htetap 5)
    |>.append (hinput "text" "kota" "kota" "kota" (by decide))
    |>.append (htetap 6)
    |>.append (hinput "text" "telepon" "tlp" "tlp" (by decide))
    |>.append (htetap 7)
    |>.append (.flatMap fun x hx => faithful_opsi (hlevel x hx).1 (hlevel x hx).2 (hpilih _))
    |>.append (htetap 8)
    |>.append (.flatMap fun x hx => faithful_opsi (htipe x hx) (htipe x hx) (hpilih _))
    |>.append (htetap 9)
    |>.append (.flatMap fun x hx => faithful_opsi (hstatus x hx) (hstatus x hx) (hpilih _))
    |>.append (htetap 10)

theorem faithful_tarifFormNodes (htoken : Polos l.token) : Faithful (tarifFormNodes l v) := by
  have htetap (n : Nat) : Faithful (l.tetap .tarifForm n) := faithful_isi _ _
  have hinput (type id value : String) (h : Polos type ∧ Polos id) :
      Faithful [inputNode type id id (esc (v.post.get? value)) []] :=
    faithful_inputNode h.1 h.2 h.2 (polos_esc _) nofun
  have hradio (id value : String) (hid : Polos id) (hvalue : Polos value) :
      Faithful [.tag "input" ([kelas "form-check-input", ⟨"type", .double "radio"⟩,
        ⟨"name", .double "status"⟩, ⟨"id", .double id⟩, ⟨"value", .double value⟩] ++
        (if v.post.get? "status" = some value then [⟨"checked", .bare⟩] else []) ++
        [⟨"required", .bare⟩])] := by
    refine faithful_tag (by decide) (List.forall_mem_append.mpr
      ⟨List.forall_mem_append.mpr ⟨?_, ?_⟩, by decide⟩)
    · simp only [List.forall_mem_cons, List.not_mem_nil, false_implies, implies_true, and_true]
      exact ⟨by decide, by decide, by decide, inert_double (by decide) hid,
        inert_double (by decide) hvalue⟩
    · split <;> decide
  exact htetap 0
    |>.append (faithful_csrfToken htoken)
    |>.append (htetap 1)
    |>.append (hinput "text" "id_tarif" "id_tarif" (by decide))
    |>.append (htetap 2)
    |>.append (faithful_opsiTetap (by decide) (by decide) _)
    |>.append (faithful_opsiTetap (by decide) (by decide) _)
    |>.append (htetap 3)
    |>.append (hinput "number" "tarif" "tarif" (by decide))
    |>.append (htetap 4)
    |>.append (hradio "status_aktif" "AKTIF" (by decide) (by decide))
    |>.append (htetap 5)
    |>.append (hradio "status_tdk" "TDK AKTIF" (by decide) (by decide))
    |>.append (htetap 6)

theorem faithful_barisUser (u : String) (d : DataUser) : Faithful (barisUser u d) := by
  have htd (s : Option String) : Faithful (td (esc s)) := faithful_td (polos_esc s)
  refine faithful_elemen (by decide) (by decide) ?_
  exact htd _
    |>.append (htd _)
    |>.append (htd _)
    |>.append (htd _)
    |>.append (htd _)
    |>.append (htd _)
    |>.append (htd _)
    |>.append (htd _)
    |>.append (faithful_elemen (by decide) (by decide)
      (faithful_tombolBaris (by decide) (by decide) (by decide) (by decide) (polos_esc _)))

theorem faithful_barisTarif (t : Tarif) : Faithful (barisTarif t) := by
  have htd (s : Option String) : Faithful (td (esc s)) := faithful_td (polos_esc s)
  refine faithful_elemen (by decide) (by decide) ?_
  exact htd _
    |>.append (htd _)
    |>.append (htd _)
    |>.append (htd _)
    |>.append (faithful_elemen (by decide) (by decide)
      (faithful_tombolBaris (by decide) (by decide) (by decide) (by decide) (polos_esc _)))

theorem faithful_barisLog (kalender : Kalender) (e : AuditLog) :
    Faithful (barisLog kalender e) := by
  have htd (s : Option String) : Faithful (td (esc s)) := faithful_td (polos_esc s)
  refine faithful_elemen (by decide) (by decide) ?_
  exact htd _
    |>.append (htd _)
    |>.append (htd _)
    |>.append (htd _)
    |>.append (htd _)
    |>.append (htd _)

theorem faithful_barisMeterNodes (nama : Option String) (r : BarisMeter) :
    Faithful (barisMeterNodes l nama r) := by
  have htgl : Polos (tglBalik r.tgl ++ " " ++ jam r.waktu ++ " | " ++ l.now.date.teks ++ " " ++
      toString (daysSince r.tgl l.now) ++ " hari") :=
    (((((((polos_tglBalik _).append (by decide)).append (polos_jam _)).append (by decide)).append
      (polos_teks _)).append (by decide)).append (polos_nat _)).append (by decide)
  have htagihan : Faithful (if l.level = .petugas then []
      else td (rupiah r.tagihan) ++ elemen "td" [] (badgeStatus r.status)) := by
    split
    · exact .nil
    · exact (faithful_td (polos_rupiah _)).append
        (faithful_elemen (by decide) (by decide) (faithful_badgeStatus _))
  have haksi : Faithful ((aksiMeter l.level r.tgl l.now).nodes r.no) := by
    cases aksiMeter l.level r.tgl l.now with
    | ubahHapus =>
      exact faithful_tombolBaris (by decide) (by decide) (by decide) (by decide) (polos_nat _)
    | terkunci => exact faithful_elemen (by decide) (by decide) (faithful_text (by decide))
  refine faithful_elemen (by decide) (by decide) ?_
  exact faithful_td (polos_esc _)
    |>.append (faithful_td htgl)
    |>.append (faithful_td (polos_angka _))
    |>.append (faithful_td (polos_angka _))
    |>.append (faithful_td (polos_decimal _))
    |>.append htagihan
    |>.append (faithful_elemen (by decide) (by decide) haksi)

theorem faithful_modalBayar (r : BarisWarga) (htoken : Polos l.token) :
    Faithful (modalBayar l r) := by
  have htetap (n : Nat) : Faithful (l.tetap .wargaList n) := faithful_isi _ _
  have hid : Polos ("modalBayar" ++ toString r.no) := Polos.append (by decide) (polos_nat _)
  have hno : Faithful [.tag "input" [⟨"type", .double "hidden"⟩, ⟨"name", .double "no_meter"⟩,
      ⟨"value", .double (toString r.no)⟩]] := by
    refine faithful_tag (by decide) ?_
    simp only [List.forall_mem_cons, List.not_mem_nil, false_implies, implies_true, and_true]
    exact ⟨by decide, by decide, inert_double (by decide) (polos_nat _)⟩
  refine faithful_elemen (by decide) ?_ ?_
  · simp only [List.forall_mem_cons, List.not_mem_nil, false_implies, implies_true, and_true]
    exact ⟨by decide, inert_double (by decide) hid, by decide, by decide⟩
  · exact htetap 2
      |>.append ((faithful_csrfToken htoken).append hno)
      |>.append (htetap 3)
      |>.append (faithful_elemen (by decide) (by decide) (faithful_text (polos_rupiah _)))
      |>.append (htetap 4)

theorem faithful_barisWargaNodes {r : BarisWarga} (htoken : Polos l.token)
    (hkd : Faithful (td r.kdTarif)) (hbukti : Faithful (aksiBayar r)) :
    Faithful (barisWargaNodes l r) := by
  have hmodal : Faithful (if r.status = some "LUNAS" then [] else modalBayar l r) := by
    split
    · exact .nil
    · exact faithful_modalBayar r htoken
  have htgl : Polos (r.tgl.teks ++ " " ++ jam r.waktu) :=
    ((polos_teks _).append (by decide)).append (polos_jam _)
  refine .append (faithful_elemen (by decide) (by decide) ?_) hmodal
  exact faithful_td htgl
    |>.append hkd
    |>.append (faithful_td (polos_angka _))
    |>.append (faithful_td (polos_angka _))
    |>.append (faithful_td (polos_decimal _))
    |>.append (faithful_td (polos_rupiah _))
    |>.append (faithful_elemen (by decide) (by decide) (faithful_badgeStatus _))
    |>.append (faithful_elemen (by decide) (by decide) hbukti)

theorem faithful_modalHapus (htoken : Polos l.token) : Faithful (modalHapus l) := by
  have htetap (n : Nat) : Faithful (l.tetap .modal n) := faithful_isi _ _
  exact htetap 0
    |>.append (faithful_csrfToken htoken)
    |>.append (htetap 1)
    |>.append (faithful_csrfToken htoken)
    |>.append (htetap 2)
    |>.append (faithful_csrfToken htoken)
    |>.append (htetap 3)

theorem faithful_settingsNodes (htoken : Polos l.token) (d : Option DataProfil) :
    Faithful (settingsNodes l d) := by
  have htetap (n : Nat) : Faithful (l.tetap .settings n) := faithful_isi _ _
  have hinput (id name : String) (value : Option String) (h : Polos id ∧ Polos name) :
      Faithful [inputNode "text" id name (esc value) []] :=
    faithful_inputNode (by decide) h.1 h.2 (polos_esc _) nofun
  exact htetap 0
    |>.append (faithful_res .settings _)
    |>.append (htetap 1)
    |>.append (faithful_csrfToken htoken)
    |>.append (htetap 2)
    |>.append (hinput "set_nama" "nama" _ (by decide))
    |>.append (htetap 3)
    |>.append (hinput "set_alamat" "alamat" _ (by decide))
    |>.append (htetap 4)
    |>.append (hinput "set_kota" "kota" _ (by decide))
    |>.append (htetap 5)
    |>.append (hinput "set_tlp" "tlp" _ (by decide))
    |>.append (htetap 6)

theorem inert_kunci (b : Bool) : ∀ a ∈ kunci b, a.Inert := by
  cases b <;> decide

theorem faithful_meterFormNodes (warga : List (String × Option String)) (riwayat : Riwayat)
    (htoken : Polos l.token) (hopsi : ∀ dw ∈ warga, Faithful (opsiWarga l.php v dw))
    (hsimpan : Faithful (simpanMeter l)) (hskrip : Faithful [skripMeter l riwayat]) :
    Faithful (meterFormNodes l v warga riwayat) := by
  have htetap (n : Nat) : Faithful (l.tetap .meterForm n) := faithful_isi _ _
  have hselect : ∀ a ∈ [kelas "form-select", ⟨"id", .double "username"⟩,
      ⟨"name", .double "username"⟩, ⟨"required", .bare⟩] ++
      (if decide (l.query.get? "p" = some "meter_edit") = true then [⟨"disabled", .bare⟩] else []),
      a.Inert := by
    refine List.forall_mem_append.mpr ⟨by decide, ?_⟩
    split <;> decide
  have hstatus : Faithful (statusBayarNodes l v) := by
    have hopsi : ∀ s ∈ ["BELUM LUNAS", "LUNAS"], Polos s := by decide
    unfold statusBayarNodes
    split
    · exact htetap 4
        |>.append (.flatMap fun s hs => faithful_opsiTetap (hopsi s hs) (hopsi s hs) _)
        |>.append (htetap 5)
    · exact faithful_tag (by decide) (by decide)
  have hwarga : Faithful (opsiTetap "" "Nama Warga" false ++ warga.flatMap (opsiWarga l.php v)) :=
    (faithful_opsiTetap (by decide) (by decide) false).append (.flatMap hopsi)
  exact htetap 0
    |>.append (faithful_csrfToken htoken)
    |>.append (htetap 1)
    |>.append (faithful_elemen (by decide) hselect hwarga)
    |>.append (htetap 2)
    |>.append (faithful_inputNode (by decide) (by decide) (by decide) (polos_esc _) (inert_kunci _))
    |>.append (htetap 3)
    |>.append (faithful_inputNode (by decide) (by decide) (by decide) (polos_esc _) (inert_kunci _))
    |>.append hstatus
    |>.append hsimpan
    |>.append hskrip
    |>.append (htetap 6)

theorem faithful_halaman (kalender : Kalender) (h : HalamanUtuh db l v) :
    Faithful (db.halaman kalender l v) := by
  have htetap (templat : Templat) (n : Nat) : Faithful (l.tetap templat n) := faithful_isi _ _
  have huser : Faithful (db.isiUser l) := by
    unfold Db.isiUser
    split
    · exact .flatMap fun r _ => faithful_barisUser r.1 r.2
    · exact .nil
  have htarif : Faithful (db.isiTarif l) := by
    unfold Db.isiTarif
    split
    · exact .flatMap fun r _ => faithful_barisTarif r
    · exact .nil
  have hmeter : Faithful (db.isiMeter l) := by
    unfold Db.isiMeter
    split
    · exact .flatMap fun r _ => faithful_barisMeterNodes _ r
    · exact .nil
  have hlog : Faithful (db.isiLog kalender l) := by
    unfold Db.isiLog
    split
    · exact .flatMap fun e _ => faithful_barisLog kalender e
    · exact .nil
  have hakhir : Faithful (if l.level ∈ [Level.admin, .bendahara] then l.tetap .activityLog 1
      else []) := by
    split
    · exact htetap _ _
    · exact .nil
  have hwarga : Faithful (db.isiWarga l) :=
    .flatMap fun r hr => faithful_barisWargaNodes h.token (h.kdTarif r hr) (h.bukti r hr)
  have hdasbor : Faithful (dasbor l) :=
    ((htetap .dasbor 0).append (faithful_isi _ _)).append (htetap .dasbor 1)
  exact hdasbor
    |>.append (faithful_userFormNodes v h.token)
    |>.append (htetap .userList 0
      |>.append (faithful_res .user _)
      |>.append (htetap .userList 1)
      |>.append huser
      |>.append (htetap .userList 2))
    |>.append (faithful_tarifFormNodes v h.token)
    |>.append (htetap .tarifList 0
      |>.append (faithful_res .tarif _)
      |>.append (htetap .tarifList 1)
      |>.append htarif
      |>.append (htetap .tarifList 2))
    |>.append (htetap .meterList 0
      |>.append (faithful_res .meter _)
      |>.append (htetap .meterList 1)
      |>.append hmeter
      |>.append (htetap .meterList 2))
    |>.append (faithful_meterFormNodes v _ _ h.token h.opsi h.simpan h.skrip)
    |>.append (htetap .wargaList 0 |>.append hwarga |>.append (htetap .wargaList 1))
    |>.append (faithful_modalHapus h.token)
    |>.append (faithful_settingsNodes h.token _)
    |>.append (htetap .activityLog 0 |>.append hlog |>.append hakhir)
    |>.append (faithful_isi _ _)

end Templates

/-! ## The request -/

def susunan (naskah : Naskah) (kalender : Kalender) (php : Php) (w : World) (q : Request) :
    Except Galat (List Token) :=
  (handleLoginIndexPenuh naskah kalender php w q).1.map fun out => tags (Markup.render out.2)

/-- The session is live and its user has the account `a`. -/
structure Dibuka (w : World) (q : Request) (actor : String) (a : Login) : Prop where
  user : (w.session q.sid).user = some actor
  named : isEmpty (some actor) = false
  active : idle (w.session q.sid) q.clock.time = false
  akun : w.db.akun actor = some a

/-- Every element that the request prints with a value as it is stored, sent or encoded for
a script is read as that element. -/
structure CetakUtuh (naskah : Naskah) (php : Php) (w : World) (q : Request) : Prop where
  atas : ∀ actor a, Dibuka w q actor a → Faithful [skripAtas (w.latar naskah php q a actor)]
  halaman : ∀ actor a pesan, Dibuka w q actor a →
    (handleLoginIndex php w q).1 = .ok (.halaman pesan) →
    HalamanUtuh (handleLoginIndex php w q).2.db (w.latar naskah php q a actor)
      ((handleLoginIndex php w q).2.db.variabel php q)

/-- Where the page is printed, its resident's options are selected alike after the replacement. -/
def PilihanSama (php : Php) (σ : Ganti) (w : World) (q : Request) : Prop :=
  ∀ pesan, (handleLoginIndex php w q).1 = .ok (.halaman pesan) →
    ((handleLoginIndex php w q).2.db.variabel php q).DipilihSama php σ
      (Select.daftarWarga.jawab _ (handleLoginIndex php w q).2.db)

/-- The second state and request hold the replaced texts and are otherwise the first: the
edit page and form are about the same reading, and a button is answered alike and leaves
such tables again. -/
structure Sepasang (php : Php) (σ : Ganti) (w w' : World) (q : Request) : Prop where
  sesi : w'.session q.sid = σ.sesi (w.session q.sid)
  bernama : isEmpty ((w.session q.sid).user.map σ.username) = isEmpty (w.session q.sid).user
  db : w.db.Berganti σ w'.db
  no : ∀ form ∈ [q.query, q.post], ∀ no ∈ form.get? "no", php.intval (σ.no no) = php.intval no
  tombol : q.tombol ≠ none →
    (handleLoginIndex php w' (σ.request q)).1 = (handleLoginIndex php w q).1 ∧
      (handleLoginIndex php w q).2.db.Berganti σ (handleLoginIndex php w' (σ.request q)).2.db

section Request
variable (naskah : Naskah) (kalender : Kalender) (php : Php) {σ : Ganti} {w w' : World}
  {q : Request} {actor : String} {a : Login}

theorem render_inj {level : Level} {hasil hasil' : Hasil} (h : hasil.dariHandler = true)
    (h' : hasil'.dariHandler = true) (heq : render level q hasil' = render level q hasil) :
    hasil' = hasil := by
  cases hrefused : pageRefused level (q.query.get? "p") with
  | true =>
    cases hasil <;> cases hasil' <;> simp_all [render, Hasil.dariHandler]
  | false =>
    have hsame (hasil : Hasil) : render level q hasil = hasil := by
      cases hasil <;> simp [render, hrefused]
    rwa [hsame, hsame] at heq

theorem dariHandler_tangani {level : Level} {token : String} {s : Server} {hasil : Hasil}
    (h : ((tangani php q actor level token).run exec s).1 = .ok hasil) :
    hasil.dariHandler = true := by
  unfold tangani at h
  cases htombol : q.tombol with
  | none =>
    rw [htombol] at h
    cases h
    rfl
  | some tombol =>
    simp only [htombol] at h
    split at h
    · cases h
      rfl
    split at h
    · cases h
      rfl
    · exact dariHandler_dispatch php q actor level h

theorem query_request (name : String) (hname : σ.kolom name = id) :
    (σ.request q).query.get? name = q.query.get? name := by
  change (σ.form q.query).get? name = _
  rw [Ganti.get?_form, hname, Option.map_id]
  rfl

theorem tombol_request : (σ.request q).tombol = q.tombol := by
  change (σ.form q.post).get? "tombol" = q.post.get? "tombol"
  rw [Ganti.get?_form]
  exact Option.map_id'

theorem tokens_keluaran {db db' : Db} (h : db.Berganti σ db')
    (hno : ∀ form ∈ [q.query, q.post], ∀ no ∈ form.get? "no",
      php.intval (σ.no no) = php.intval no) (l : Latar) {hasil : Hasil}
    (hsama : ∀ pesan, render l.level q hasil = .halaman pesan →
      (db.variabel php q).DipilihSama l.php σ (Select.daftarWarga.jawab _ db)) :
    tokens (db'.keluaran kalender php (σ.request q) (σ.latar l) hasil) =
      tokens (db.keluaran kalender php q l hasil) := by
  have hnaskah : (σ.latar l).naskah = l.naskah := rfl
  have hlevel : (σ.latar l).level = l.level := rfl
  have hp : (σ.request q).query.get? "p" = q.query.get? "p" := query_request "p" rfl
  cases hasil with
  | halaman pesan =>
    simp only [Db.keluaran, hnaskah, hlevel, hp, tokens_append, tokens_navigasi]
    split
    · rfl
    · rename_i hopen
      rw [variabel_ganti h php q hno,
        tokens_halaman σ l _ h kalender (hsama pesan (by simp [render, hopen]))]
  | _ =>
    simp only [Db.keluaran, hnaskah, hp, tombol_request, tokens_append, tokens_navigasi]

theorem faithful_keluaran {db : Db} {l : Latar} {hasil : Hasil} (hatas : Faithful [skripAtas l])
    (hhalaman : ∀ pesan, render l.level q hasil = .halaman pesan →
      HalamanUtuh db l (db.variabel php q)) :
    Faithful (db.keluaran kalender php q l hasil) := by
  have hnavigasi := faithful_navigasi hatas
  cases hasil with
  | halaman pesan =>
    have hpesan : Faithful (cetakPesan l.naskah pesan) :=
      .flatMap fun pesan _ => faithful_isi l.naskah (.pesan pesan)
    refine (hnavigasi.append hpesan).append ?_
    split
    · exact faithful_isi l.naskah _
    · rename_i hopen
      exact faithful_halaman _ kalender (hhalaman pesan (by simp [render, hopen]))
  | _ => exact hnavigasi.append (faithful_isi l.naskah _)

theorem susunan_open (h : Dibuka w q actor a) :
    let out := (tangani php q actor a.level (w.csrfToken q)).run exec (w.opened q)
    susunan naskah kalender php w q = (out.1.map fun hasil => tags (Markup.render
        (out.2.db.keluaran kalender php q (w.latar naskah php q a actor) hasil))) ∧
      (handleLoginIndex php w q).1 = out.1.map (render a.level q) ∧
      (handleLoginIndex php w q).2.db = out.2.db := by
  obtain ⟨hanswer, hserver⟩ :=
    handleLoginIndexPenuh_open naskah kalender php q h.user h.named h.active h.akun
  have hrefines := handleLoginIndexPenuh_refines naskah kalender php q w
  rw [← hrefines]
  refine ⟨?_, ?_, congrArg Server.db hserver⟩
  · unfold susunan
    rw [hanswer]
    cases ((tangani php q actor a.level (w.csrfToken q)).run exec (w.opened q)).1 <;> rfl
  · dsimp only
    rw [hanswer]
    cases ((tangani php q actor a.level (w.csrfToken q)).run exec (w.opened q)).1 <;> rfl

theorem susunan_utuh (h : Dibuka w q actor a) (hutuh : CetakUtuh naskah php w q) :
    let out := (tangani php q actor a.level (w.csrfToken q)).run exec (w.opened q)
    susunan naskah kalender php w q = out.1.map fun hasil =>
      tokens (out.2.db.keluaran kalender php q (w.latar naskah php q a actor) hasil) := by
  obtain ⟨hsusunan, hjawab, hdb⟩ := susunan_open naskah kalender php h
  dsimp only
  rw [hsusunan]
  cases hout : ((tangani php q actor a.level (w.csrfToken q)).run exec (w.opened q)).1 with
  | error galat => rfl
  | ok hasil =>
    rw [hout] at hjawab
    have hfaithful := faithful_keluaran kalender php (hutuh.atas actor a h) fun pesan hpesan =>
        hutuh.halaman actor a pesan h (hjawab.trans (congrArg Except.ok hpesan))
    rw [hdb] at hfaithful
    exact congrArg Except.ok hfaithful.tags

theorem Sepasang.dibuka (h : Sepasang php σ w w' q) (hopen : Dibuka w q actor a) :
    Dibuka w' (σ.request q) (σ.username actor) (σ.login a) := by
  have hsesi : w'.session (σ.request q).sid = σ.sesi (w.session q.sid) := h.sesi
  have hbernama := h.bernama
  rw [hopen.user, hopen.named] at hbernama
  exact
    { user := by rw [hsesi, Ganti.sesi, hopen.user, Option.map_some]
      named := hbernama
      active := by
        rw [hsesi]
        exact hopen.active
      akun := by
        rw [akun_berganti h.db, hopen.akun, Option.map_some] }

theorem Sepasang.latar (h : Sepasang php σ w w' q) :
    w'.latar naskah php (σ.request q) (σ.login a) (σ.username actor) =
      σ.latar (w.latar naskah php q a actor) := by
  have hsesi : w'.session (σ.request q).sid = σ.sesi (w.session q.sid) := h.sesi
  have htoken : w'.csrfToken (σ.request q) = w.csrfToken q := by
    unfold World.csrfToken
    rw [hsesi]
    rfl
  unfold World.latar Latar.dari
  rw [hsesi, htoken]
  rfl

theorem Sepasang.tangani (h : Sepasang php σ w w' q) (hopen : Dibuka w q actor a) :
    let out := (SistemAir.tangani php q actor a.level (w.csrfToken q)).run exec (w.opened q)
    let out' := (SistemAir.tangani php (σ.request q) (σ.username actor) a.level
      (w'.csrfToken (σ.request q))).run exec (w'.opened (σ.request q))
    out'.1 = out.1 ∧ out.2.db.Berganti σ out'.2.db := by
  by_cases htombol : q.tombol = none
  · unfold SistemAir.tangani
    simp only [tombol_request, htombol]
    exact ⟨rfl, h.db⟩
  · -- A pair of answers to buttons comes from the same answer of the handler.
    obtain ⟨hanswer, hdb⟩ := h.tombol htombol
    obtain ⟨-, hfirst, hfirstDb⟩ := susunan_open Naskah.kosong ⟨fun _ => ""⟩ php hopen
    obtain ⟨-, hsecond, hsecondDb⟩ :=
      susunan_open Naskah.kosong ⟨fun _ => ""⟩ php (h.dibuka php hopen)
    have hrender : render a.level (σ.request q) = render a.level q := by
      funext hasil
      have hp : (σ.request q).query.get? "p" = q.query.get? "p" := query_request "p" rfl
      cases hasil with
      | halaman pesan => simp only [render, hp]
      | _ => rfl
    have hlevel : (σ.login a).level = a.level := rfl
    rw [hfirst, hsecond, hlevel, hrender] at hanswer
    rw [hfirstDb, hsecondDb] at hdb
    refine ⟨?_, hdb⟩
    cases hout : ((SistemAir.tangani php q actor a.level (w.csrfToken q)).run exec
        (w.opened q)).1 <;>
      cases hout' : ((SistemAir.tangani php (σ.request q) (σ.username actor) a.level
        (w'.csrfToken (σ.request q))).run exec (w'.opened (σ.request q))).1 <;>
      rw [hout, hout'] at hanswer <;> simp only [Except.map] at hanswer
    · exact hanswer
    · cases hanswer
    · cases hanswer
    · have hsame := render_inj (dariHandler_tangani php hout) (dariHandler_tangani php hout')
        (Except.ok.inj hanswer)
      rw [hsame]

theorem susunan_noLevel (huser : (w.session q.sid).user = some actor)
    (hnamed : isEmpty (some actor) = false)
    (hactive : idle (w.session q.sid) q.clock.time = false) (hakun : w.db.akun actor = none) :
    susunan naskah kalender php w q =
      .ok (tags (Markup.render (naskah.isi (.akhir .sesiTidakValid none none)))) := by
  have hactor : orEmpty (w.session q.sid).user = actor := by
    rw [huser]
    rfl
  have hrun := run_loginIndexPenuh_noLevel naskah kalender php q
    { w.session q.sid with lastActivity := some q.clock.time } (w.csrfToken q) (w.opened q) hakun
  unfold susunan handleLoginIndexPenuh
  rw [← huser] at hnamed
  simp only [hnamed, hactive, hactor, Bool.false_eq_true, if_false]
  exact congrArg (fun out : Except Galat (Hasil × List Node) × Server =>
    out.1.map fun out => tags (Markup.render out.2)) hrun

theorem map_congr_ok {α β ε : Type} {f g : α → β} {out : Except ε α}
    (h : ∀ x, out = .ok x → f x = g x) : out.map f = out.map g := by
  cases out with
  | error e => rfl
  | ok x => exact congrArg Except.ok (h x rfl)

theorem susunan_closed (h : Sepasang php σ w w' q) (hclosed : ∀ actor a, ¬Dibuka w q actor a) :
    susunan naskah kalender php w' (σ.request q) = susunan naskah kalender php w q := by
  have hsesi : w'.session (σ.request q).sid = σ.sesi (w.session q.sid) := h.sesi
  have hidle' : idle (σ.sesi (w.session q.sid)) (σ.request q).clock.time =
      idle (w.session q.sid) q.clock.time := rfl
  unfold susunan
  cases hnamed : isEmpty (w.session q.sid).user with
  | true =>
    have hnamed' : isEmpty (σ.sesi (w.session q.sid)).user = true := h.bernama.trans hnamed
    simp [handleLoginIndexPenuh, hsesi, hnamed, hnamed', Except.map]
  | false =>
    have hnamed' : isEmpty (σ.sesi (w.session q.sid)).user = false := h.bernama.trans hnamed
    cases hidle : idle (w.session q.sid) q.clock.time with
    | true =>
      simp [handleLoginIndexPenuh, hsesi, hnamed, hnamed', hidle, hidle', Except.map]
    | false =>
      obtain ⟨actor, huser⟩ : ∃ actor, (w.session q.sid).user = some actor := by
        cases huser : (w.session q.sid).user with
        | none => simp [huser, isEmpty] at hnamed
        | some actor => exact ⟨actor, rfl⟩
      have hakun : w.db.akun actor = none := by
        by_contra hsome
        obtain ⟨a, ha⟩ := Option.ne_none_iff_exists'.mp hsome
        rw [huser] at hnamed
        exact hclosed actor a ⟨huser, hnamed, hidle, ha⟩
      have hakun' : w'.db.akun (σ.username actor) = none := by
        rw [akun_berganti h.db, hakun, Option.map_none]
      have huser' : (w'.session (σ.request q).sid).user = some (σ.username actor) := by
        rw [hsesi, Ganti.sesi, huser, Option.map_some]
      have hactive' : idle (w'.session (σ.request q).sid) (σ.request q).clock.time = false := by
        rw [hsesi, hidle', hidle]
      rw [Ganti.sesi, huser, Option.map_some] at hnamed'
      have hfirst := susunan_noLevel naskah kalender php huser (huser ▸ hnamed) hidle hakun
      have hsecond := susunan_noLevel naskah kalender php huser' hnamed' hactive' hakun'
      exact hsecond.trans hfirst.symm

theorem cetakUtuh_of (huser : (w.session q.sid).user = some actor)
    (hakun : w.db.akun actor = some a) (hatas : Faithful [skripAtas (w.latar naskah php q a actor)])
    (hhalaman : HalamanUtuh (handleLoginIndex php w q).2.db (w.latar naskah php q a actor)
      ((handleLoginIndex php w q).2.db.variabel php q)) : CetakUtuh naskah php w q := by
  have hunique : ∀ actor' a', Dibuka w q actor' a' → actor' = actor ∧ a' = a := by
    intro actor' a' h
    obtain rfl : actor' = actor := Option.some.inj (h.user.symm.trans huser)
    exact ⟨rfl, Option.some.inj (h.akun.symm.trans hakun)⟩
  constructor
  · intro actor' a' h
    obtain ⟨rfl, rfl⟩ := hunique actor' a' h
    exact hatas
  · intro actor' a' pesan h hpesan
    obtain ⟨rfl, rfl⟩ := hunique actor' a' h
    exact hhalaman

end Request

/-- On two states and requests that differ by an injective replacement of the texts that
people filled in, login/index.php sends the same tags, provided that every element with a
value printed as it is stands is read as that element and that no two usernames are one
number to PHP in one of the two alone. -/
theorem markup_structure_same (naskah : Naskah) (kalender : Kalender) (php : Php) {σ : Ganti}
    {w w' : World} {q : Request} (h : Sepasang php σ w w' q) (hpilih : PilihanSama php σ w q)
    (hutuh : CetakUtuh naskah php w q) (hutuh' : CetakUtuh naskah php w' (σ.request q)) :
    susunan naskah kalender php w' (σ.request q) = susunan naskah kalender php w q := by
  by_cases hopen : ∃ actor a, Dibuka w q actor a
  · obtain ⟨actor, a, hopen⟩ := hopen
    obtain ⟨hanswer, htables⟩ := h.tangani php hopen
    obtain ⟨-, hjawab, hdb⟩ := susunan_open naskah kalender php hopen
    have hlevel : (σ.login a).level = a.level := rfl
    rw [susunan_utuh naskah kalender php hopen hutuh,
      susunan_utuh naskah kalender php (h.dibuka php hopen) hutuh', h.latar naskah php]
    simp only [hlevel, hanswer]
    refine map_congr_ok fun hasil hout =>
      tokens_keluaran kalender php htables h.no _ fun pesan hpesan => ?_
    have hhalaman : (handleLoginIndex php w q).1 = .ok (.halaman pesan) := by
      rw [hjawab, hout, ← hpesan]
      rfl
    rw [← hdb]
    exact hpilih pesan hhalaman
  · push Not at hopen
    exact susunan_closed naskah kalender php h hopen

def terdaftar (username : String) : World :=
  serve .decimal World.pertama
    ([Request.kirim 3 .index hariBuka [],
      Request.kirim 3 .index hariBuka
        [("csrf_token", "7f3a"), ("reg_username", username), ("reg_password", "b"),
          ("reg_nama", "Budi"), ("reg_tipe", "RT"), ("tombol", "register_warga")]] ++
      masuk 0 hariBuka "admin" "rahasia")

def Ganti.tukar (u v : String) : Ganti :=
  ⟨(Equiv.swap u v).toEmbedding, .refl _, .refl _, .refl _, .refl _, .refl _, .refl _⟩

def bukaHalaman : Request := Request.kirim 0 .loginIndex hariBuka []

theorem terdaftar_utuh_budi :
    CetakUtuh Naskah.kosong .decimal (terdaftar "budi") bukaHalaman := by
  suffices h : ((terdaftar "budi").session 0).user = some "admin" ∧
      (terdaftar "budi").db.akun "admin" = some adminPertama ∧ _ ∧ _ ∧ _ ∧ _ ∧ _ ∧ _ ∧ _ by
    obtain ⟨huser, hakun, htoken, hutuh⟩ := h
    exact cetakUtuh_of Naskah.kosong .decimal huser hakun htoken
      ⟨hutuh.1, hutuh.2.1, hutuh.2.2.1, hutuh.2.2.2.1, hutuh.2.2.2.2.1, hutuh.2.2.2.2.2⟩
  decide +kernel

theorem terdaftar_utuh_bayu :
    CetakUtuh Naskah.kosong .decimal (terdaftar "bayu") bukaHalaman := by
  suffices h : ((terdaftar "bayu").session 0).user = some "admin" ∧
      (terdaftar "bayu").db.akun "admin" = some adminPertama ∧ _ ∧ _ ∧ _ ∧ _ ∧ _ ∧ _ ∧ _ by
    obtain ⟨huser, hakun, htoken, hutuh⟩ := h
    exact cetakUtuh_of Naskah.kosong .decimal huser hakun htoken
      ⟨hutuh.1, hutuh.2.1, hutuh.2.2.1, hutuh.2.2.2.1, hutuh.2.2.2.2.1, hutuh.2.2.2.2.2⟩
  decide +kernel

theorem pilihanSama_bukaHalaman (php : Php) (σ : Ganti) (w : World) :
    PilihanSama php σ w bukaHalaman :=
  fun _ _ => Variabel.dipilihSama_of_teks fun _ hu => by cases hu

/-- The admin's page has the same tags whether budi or bayu has registered. -/
theorem markup_structure_bayu :
    susunan Naskah.kosong ⟨fun _ => ""⟩ .decimal (terdaftar "bayu")
        ((Ganti.tukar "budi" "bayu").request bukaHalaman) =
      susunan Naskah.kosong ⟨fun _ => ""⟩ .decimal (terdaftar "budi") bukaHalaman := by
  refine markup_structure_same Naskah.kosong ⟨fun _ => ""⟩ .decimal ?_
    (pilihanSama_bukaHalaman _ _ _) terdaftar_utuh_budi terdaftar_utuh_bayu
  suffices h : _ ∧ _ ∧ _ ∧ _ ∧ _ ∧ _ from
    { sesi := h.1
      bernama := h.2.1
      db := ⟨h.2.2.1, h.2.2.2.1, h.2.2.2.2.1, h.2.2.2.2.2⟩
      no := by decide
      tombol := nofun }
  decide +kernel

/-- A username that ends its option makes the admin's page another. -/
theorem markup_structure_violated :
    Sepasang .decimal (Ganti.tukar "budi" "budi'><script>") (terdaftar "budi")
        (terdaftar "budi'><script>") bukaHalaman ∧
      susunan Naskah.kosong ⟨fun _ => ""⟩ .decimal (terdaftar "budi'><script>")
          ((Ganti.tukar "budi" "budi'><script>").request bukaHalaman) ≠
        susunan Naskah.kosong ⟨fun _ => ""⟩ .decimal (terdaftar "budi") bukaHalaman := by
  constructor
  · suffices h : _ ∧ _ ∧ _ ∧ _ ∧ _ ∧ _ from
      { sesi := h.1
        bernama := h.2.1
        db := ⟨h.2.2.1, h.2.2.2.1, h.2.2.2.2.1, h.2.2.2.2.2⟩
        no := by decide
        tombol := nofun }
    decide +kernel
  · intro heq
    have hopen : Dibuka (terdaftar "budi") bukaHalaman "admin" adminPertama :=
      ⟨by decide +kernel, by decide, by decide +kernel, by decide +kernel⟩
    -- The first page is read as it was meant, so only the second is read from its text.
    rw [susunan_utuh Naskah.kosong ⟨fun _ => ""⟩ .decimal hopen terdaftar_utuh_budi] at heq
    have hlength := congrArg (fun out => out.toOption.map List.length) heq
    revert hlength
    decide +kernel

end SistemAir
