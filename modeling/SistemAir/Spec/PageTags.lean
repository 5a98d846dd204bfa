import Mathlib.Logic.Embedding.Basic
import SistemAir.Spec.Page

/-! The tags login/index.php means to print, on tables and in a request whose texts are
replaced by others: they are the same. -/
namespace SistemAir

open KeyedTable Markup StatementProgram Prog

/-! ## Replacing what people filled in -/

/-- An injective replacement of the texts of the columns and of the parameters that are
printed back. -/
structure Ganti where
  username : String ↪ String
  nama : String ↪ String
  alamat : String ↪ String
  kota : String ↪ String
  tlp : String ↪ String
  idTarif : String ↪ String
  no : String ↪ String

namespace Ganti
variable (σ : Ganti)

def login (r : Login) : Login :=
  { r with
    username := σ.username r.username
    nama := r.nama.map σ.nama
    alamat := r.alamat.map σ.alamat
    kota := r.kota.map σ.kota
    tlp := r.tlp.map σ.tlp }

def data (d : DataUser) : DataUser :=
  { d with
    nama := d.nama.map σ.nama
    alamat := d.alamat.map σ.alamat
    kota := d.kota.map σ.kota
    tlp := d.tlp.map σ.tlp }

def tarif (r : Tarif) : Tarif := { r with idTarif := σ.idTarif r.idTarif }

def pemakaian (r : Pemakaian) : Pemakaian :=
  { r with
    username := r.username.map σ.username
    kdTarif := σ.idTarif r.kdTarif }

def kolom : String → String → String
  | "username" | "yuser" | "user" => σ.username
  | "nama" => σ.nama
  | "alamat" => σ.alamat
  | "kota" => σ.kota
  | "tlp" => σ.tlp
  | "id_tarif" | "id_tarif_lama" => σ.idTarif
  | "no" => σ.no
  | _ => id

def form (f : Form) : Form := f.map fun field => (field.1, σ.kolom field.1 field.2)

def request (q : Request) : Request := { q with query := σ.form q.query, post := σ.form q.post }

def sesi (s : Session) : Session := { s with user := s.user.map σ.username }

def latar (l : Latar) : Latar :=
  { l with
    sesi := σ.sesi l.sesi
    actor := σ.username l.actor
    nama := l.nama.map σ.nama
    kota := l.kota.map σ.kota
    query := σ.form l.query }

def variabel (v : Variabel) : Variabel := { v with post := σ.form v.post }

@[simp] theorem get?_form (f : Form) (name : String) :
    (σ.form f).get? name = (f.get? name).map (σ.kolom name) := by
  induction f with
  | nil => rfl
  | cons field f ih =>
    obtain ⟨field, value⟩ := field
    change ((σ.form f).get? name).or (if field = name then some (σ.kolom field value) else none) = _
    rw [ih]
    by_cases hname : field = name
    · subst hname
      simp only [Form.get?, if_true]
      cases Form.get? f field <;> rfl
    · simp [Form.get?, hname]

end Ganti

/-- The second tables hold the replaced texts and are otherwise the first; the log has as
many entries. -/
structure Db.Berganti (σ : Ganti) (db db' : Db) : Prop where
  login : db'.login.rows = db.login.rows.map σ.login
  tarif : db'.tarif.rows = db.tarif.rows.map σ.tarif
  pemakaian : db'.pemakaian.rows = db.pemakaian.rows.map σ.pemakaian
  auditLog : db'.auditLog.length = db.auditLog.length

/-! ## Rows in the order of their dates -/

theorem Date.ordinal_injective : Function.Injective Date.ordinal := by
  intro d e h
  have hd := d.month_mem
  have he := e.month_mem
  have hd' := d.day_mem
  have he' := e.day_mem
  unfold Date.ordinal at h
  have hyear : d.year = e.year := by omega
  have hmonth : d.month = e.month := by omega
  have hday : d.day = e.day := by omega
  cases d
  cases e
  simp_all

theorem usernameLe_total (u v : Option String) : usernameLe u v = true ∨ usernameLe v u = true := by
  cases u with
  | none => exact .inl rfl
  | some u =>
    cases v with
    | none => exact .inr rfl
    | some v => simpa [usernameLe] using String.le_total u v

theorem usernameLe_trans {u v w : Option String} (h : usernameLe u v = true)
    (h' : usernameLe v w = true) : usernameLe u w = true := by
  cases u with
  | none => rfl
  | some u =>
    cases v with
    | none => cases h
    | some v =>
      cases w with
      | none => cases h'
      | some w =>
        simp only [usernameLe, decide_eq_true_eq] at h h' ⊢
        exact String.le_trans h h'

theorem ordinal_le_of_barisMeterLe {a b : BarisMeter} (h : barisMeterLe a b = true) :
    b.tgl.ordinal ≤ a.tgl.ordinal := by
  simp only [barisMeterLe, Bool.or_eq_true, Bool.and_eq_true, decide_eq_true_eq] at h
  omega

instance : Std.Total fun a b => barisMeterLe a b = true where
  total a b := by
    simp only [barisMeterLe, Bool.or_eq_true, Bool.and_eq_true, decide_eq_true_eq]
    have huser := usernameLe_total a.username b.username
    rcases lt_trichotomy a.tgl.ordinal b.tgl.ordinal with hlt | heq | hgt
    · exact .inr (.inl hlt)
    · exact huser.imp (fun h => .inr ⟨heq, h⟩) fun h => .inr ⟨heq.symm, h⟩
    · exact .inl (.inl hgt)

instance : IsTrans BarisMeter fun a b => barisMeterLe a b = true where
  trans a b c hab hbc := by
    simp only [barisMeterLe, Bool.or_eq_true, Bool.and_eq_true, decide_eq_true_eq] at hab hbc ⊢
    rcases hab with hab | ⟨hab, huser⟩
    · exact .inl (by omega)
    · rcases hbc with hbc | ⟨hbc, huser'⟩
      · exact .inl (by omega)
      · exact .inr ⟨hab.trans hbc, usernameLe_trans huser huser'⟩

theorem tgl_insertionSort (rows : List BarisMeter) :
    (rows.insertionSort fun a b => barisMeterLe a b).map BarisMeter.tgl =
      (rows.map BarisMeter.tgl).insertionSort fun a b => b.ordinal ≤ a.ordinal := by
  have hperm : ((rows.insertionSort fun a b => barisMeterLe a b).map BarisMeter.tgl).Perm
      ((rows.map BarisMeter.tgl).insertionSort fun a b => b.ordinal ≤ a.ordinal) :=
    ((List.perm_insertionSort _ rows).map _).trans (List.perm_insertionSort _ _).symm
  have hsorted : ((rows.insertionSort fun a b => barisMeterLe a b).map BarisMeter.tgl).Pairwise
      fun a b => b.ordinal ≤ a.ordinal :=
    List.pairwise_map.mpr
      ((List.pairwise_insertionSort _ rows).imp fun h => ordinal_le_of_barisMeterLe h)
  refine hperm.eq_of_pairwise (fun a b _ _ hab hba => ?_) hsorted (List.pairwise_insertionSort _ _)
  exact Date.ordinal_injective (le_antisymm hba hab)

section Lookups
variable {σ : Ganti} {db db' : Db} (h : db.Berganti σ db')

include h

theorem akun_berganti (u : String) : db'.akun (σ.username u) = (db.akun u).map σ.login :=
  Table.find?_of_rows_map h.login σ.username.injective (fun _ => rfl) u

theorem find?_berganti (id : String) :
    db'.tarif.find? (σ.idTarif id) = (db.tarif.find? id).map σ.tarif :=
  Table.find?_of_rows_map h.tarif σ.idTarif.injective (fun _ => rfl) id

theorem pemakaianByNo_berganti (no : Option Int) :
    db'.pemakaianByNo no = (db.pemakaianByNo no).map σ.pemakaian := by
  unfold Db.pemakaianByNo
  rw [h.pemakaian, List.find?_map]
  rfl

theorem pemakaianOf_berganti (u : String) :
    db'.pemakaianOf (σ.username u) = (db.pemakaianOf u).map σ.pemakaian := by
  unfold Db.pemakaianOf
  rw [h.pemakaian, List.filter_map]
  congr 2
  funext r
  cases hu : r.username <;> simp [Ganti.pemakaian, hu]

theorem daftarWarga_berganti : Select.daftarWarga.jawab _ db' =
    (Select.daftarWarga.jawab _ db).map fun dw => (σ.username dw.1, dw.2.map σ.nama) := by
  simp only [Select.jawab, Db.warga, h.login, List.filter_map, List.map_map]
  rfl

theorem pemakaianSaya_berganti (u : String) :
    (Select.pemakaianSaya (σ.username u)).jawab _ db' =
      ((Select.pemakaianSaya u).jawab _ db).map fun r => { r with kdTarif := σ.idTarif r.kdTarif } := by
  have hsort := List.map_insertionSort (fun a b : Pemakaian => b.tgl.ordinal ≤ a.tgl.ordinal)
    (fun a b : Pemakaian => b.tgl.ordinal ≤ a.tgl.ordinal) σ.pemakaian (db.pemakaianOf u)
    fun _ _ _ _ => Iff.rfl
  simp only [Select.jawab, pemakaianOf_berganti h, ← hsort, List.map_map]
  rfl

theorem daftarMeter_berganti : (Select.daftarMeter.jawab _ db').map BarisMeter.tgl =
    (Select.daftarMeter.jawab _ db).map BarisMeter.tgl := by
  simp only [Select.jawab, tgl_insertionSort, h.pemakaian, List.map_map]
  rfl

end Lookups

/-! ## PHP's variables -/

section Variabel
variable {σ : Ganti}

theorem suntik_ganti (post : Form) (fields : List (String × Option String)) :
    (σ.form post).suntik (fields.map fun field => (field.1, field.2.map (σ.kolom field.1))) =
      σ.form (post.suntik fields) := by
  induction fields generalizing post with
  | nil => rfl
  | cons field fields ih =>
    obtain ⟨name, value⟩ := field
    have hpost : (σ.form post).filter (fun field => field.1 ≠ name) ++
        ((value.map (σ.kolom name)).toList.map fun v => (name, v)) =
        σ.form (post.filter (fun field => field.1 ≠ name) ++
          value.toList.map fun v => (name, v)) := by
      unfold Ganti.form
      rw [List.map_append, List.filter_map]
      cases value <;> rfl
    simp only [List.map_cons, Form.suntik, hpost]
    exact ih _

theorem variabelPost_ganti (php : Php) (q : Request) :
    variabelPost php (σ.request q) = σ.variabel (variabelPost php q) := by
  have hsame (name : String) (hname : σ.kolom name = id) :
      (σ.form q.post).get? name = q.post.get? name := by
    rw [Ganti.get?_form, hname, Option.map_id]
    rfl
  have htombol : (σ.request q).tombol = q.tombol := hsame "tombol" rfl
  have hstatus : statusMeter php (σ.form q.post) = statusMeter php q.post := by
    simp only [statusMeter, hsame "meter_akhir" rfl, hsame "meter_awal" rfl,
      hsame "status_bayar" rfl]
  simp only [variabelPost, htombol, Ganti.variabel]
  simp only [Ganti.request, hstatus, hsame "tipe" rfl, hsame "status" rfl]

theorem nomor_ganti (php : Php) {form : Form}
    (hno : ∀ no ∈ form.get? "no", php.intval (σ.no no) = php.intval no) :
    ((σ.form form).get? "no").map php.intval = (form.get? "no").map php.intval := by
  have hget : (σ.form form).get? "no" = (form.get? "no").map σ.no := σ.get?_form form "no"
  rw [hget]
  cases hform : form.get? "no" with
  | none => rfl
  | some no => exact congrArg some (hno no hform)

theorem db_variabelPost_ganti {db db' : Db} (h : db.Berganti σ db') (php : Php) (q : Request)
    (hno : ∀ no ∈ q.post.get? "no", php.intval (σ.no no) = php.intval no) :
    db'.variabelPost php (σ.request q) = σ.variabel (db.variabelPost php q) := by
  have htombol : (σ.request q).tombol = q.tombol :=
    (σ.get?_form q.post "tombol").trans Option.map_id'
  have hpemilik (no : Option Int) : db'.noToUser no = (db.noToUser no).map σ.username := by
    unfold Db.noToUser
    rw [pemakaianByNo_berganti h]
    cases db.pemakaianByNo no <;> rfl
  have hnomor : ((σ.request q).post.get? "no").map php.intval =
      (q.post.get? "no").map php.intval := nomor_ganti php hno
  have hfields := suntik_ganti (σ := σ) (variabelPost php q).post
    [("username", db.noToUser ((q.post.get? "no").map php.intval))]
  unfold Db.variabelPost
  rw [htombol, variabelPost_ganti, hnomor, hpemilik]
  split
  · unfold Ganti.variabel
    rw [← hfields]
    rfl
  · rfl

theorem suntikUser_ganti (v : Variabel) (user : Option String) (d : Option DataUser) :
    (σ.variabel v).suntikUser (user.map σ.username) (d.map σ.data) =
      σ.variabel (v.suntikUser user d) := by
  have hfields := suntik_ganti (σ := σ) v.post [("passwet", some ""), ("nama", d.bind (·.nama)),
    ("alamat", d.bind (·.alamat)), ("kota", d.bind (·.kota)), ("tlp", d.bind (·.tlp)),
    ("yuser", user)]
  unfold Variabel.suntikUser Ganti.variabel
  rw [← hfields]
  cases d <;> rfl

theorem suntikTarif_ganti (v : Variabel) (idTarif : Option String)
    (d : Option (Option String × Option Decimal × Option String)) :
    (σ.variabel v).suntikTarif (idTarif.map σ.idTarif) d =
      σ.variabel (v.suntikTarif idTarif d) := by
  have hfields := suntik_ganti (σ := σ) v.post [("id_tarif", idTarif),
    ("tipe_tarif", d.bind fun d => d.1), ("tarif", (d.bind fun d => d.2.1).map Decimal.text),
    ("status", d.bind fun d => d.2.2)]
  unfold Variabel.suntikTarif Ganti.variabel
  rw [← hfields]
  simp [Ganti.kolom]

theorem suntikMeter_ganti (v : Variabel) (d : Option (Option String × Option Decimal × Option Decimal))
    (status : Option (Option String)) :
    (σ.variabel v).suntikMeter (d.map fun d => (d.1.map σ.username, d.2)) status =
      σ.variabel (v.suntikMeter d status) := by
  have hfields := suntik_ganti (σ := σ) v.post [("username", d.bind fun d => d.1),
    ("meter_awal", (d.bind fun d => d.2.1).map Decimal.text),
    ("meter_akhir", (d.bind fun d => d.2.2).map Decimal.text), ("status_bayar", status.bind id)]
  unfold Variabel.suntikMeter Ganti.variabel
  rw [← hfields]
  cases d <;> simp [Ganti.kolom]

theorem variabel_ganti {db db' : Db} (h : db.Berganti σ db') (php : Php) (q : Request)
    (hno : ∀ form ∈ [q.query, q.post], ∀ no ∈ form.get? "no",
      php.intval (σ.no no) = php.intval no) :
    db'.variabel php (σ.request q) = σ.variabel (db.variabel php q) := by
  have hp : (σ.request q).query.get? "p" = q.query.get? "p" := by
    change (σ.form q.query).get? "p" = _
    rw [Ganti.get?_form]
    exact Option.map_id'
  have huser : (σ.request q).query.get? "user" = (q.query.get? "user").map σ.username :=
    σ.get?_form q.query "user"
  have hid : (σ.request q).query.get? "id_tarif" = (q.query.get? "id_tarif").map σ.idTarif :=
    σ.get?_form q.query "id_tarif"
  have hnomor : ((σ.request q).query.get? "no").map php.intval =
      (q.query.get? "no").map php.intval := nomor_ganti php (hno q.query (by simp))
  unfold Db.variabel
  rw [hp, huser, hid, hnomor, db_variabelPost_ganti h php q (hno q.post (by simp))]
  split
  · have hdata : (Select.userEdit ((q.query.get? "user").map σ.username)).jawab _ db' =
        ((Select.userEdit (q.query.get? "user")).jawab _ db).map σ.data := by
      cases q.query.get? "user" with
      | none => rfl
      | some u =>
        simp only [Select.jawab, Option.map_some, Option.bind_some, akun_berganti h, Option.map_map]
        rfl
    rw [hdata, suntikUser_ganti]
  · have hdata : (Select.tarifEdit ((q.query.get? "id_tarif").map σ.idTarif)).jawab _ db' =
        (Select.tarifEdit (q.query.get? "id_tarif")).jawab _ db := by
      cases q.query.get? "id_tarif" with
      | none => rfl
      | some id =>
        simp only [Select.jawab, Option.map_some, Option.bind_some, find?_berganti h,
          Option.map_map]
        rfl
    rw [hdata, suntikTarif_ganti]
  · have hdata (no : Option Int) : (Select.meterEdit no).jawab _ db' =
        ((Select.meterEdit no).jawab _ db).map fun d => (d.1.map σ.username, d.2) := by
      simp only [Select.jawab, pemakaianByNo_berganti h, Option.map_map]
      rfl
    have hstatus (no : Option Int) : (Select.statusOf no).jawab _ db' =
        (Select.statusOf no).jawab _ db := by
      simp only [Select.jawab, pemakaianByNo_berganti h, Option.map_map]
      rfl
    rw [hdata, hstatus, suntikMeter_ganti]
  · rfl

end Variabel

/-! ## The templates -/

section Pieces

theorem tokens_elemen (name : String) (attrs : List Attr) (isi : List Node) :
    tokens (elemen name attrs isi) = .start (lower name) (attrs.map Attr.token) ::
      (tokens isi ++ [.stop (lower name)]) := by
  simp only [elemen, tokens_append, tokens_cons, List.cons_append]
  rfl

theorem tokens_text (s : String) : (Node.text s).tokens = [] := rfl

theorem tokens_tag (name : String) (attrs : List Attr) :
    (Node.tag name attrs).tokens = [.start (lower name) (attrs.map Attr.token)] := rfl

theorem tokens_raw (name : String) (attrs : List Attr) (parts : List String) :
    (Node.raw name attrs parts).tokens =
      [.start (lower name) (attrs.map Attr.token), .stop (lower name)] := rfl

theorem tokens_td (s : String) :
    tokens (td s) = [.start (lower "td") [], .stop (lower "td")] := by
  simp only [td, tokens_elemen, tokens_cons, tokens_text, tokens_nil, List.map_nil,
    List.append_nil, List.nil_append]

theorem tokens_inputNode (type id name value : String) (lagi : List Attr) :
    (inputNode type id name value lagi).tokens = [.start (lower "input")
      (["type", "class", "id", "name", "value", "required"].map lower ++ lagi.map Attr.token)] := by
  simp only [inputNode, kelas, tokens_tag, Attr.token, List.map_append, List.map_cons, List.map_nil]

theorem tokens_tombolBaris (p kunci modal data value value' : String) :
    tokens (tombolBaris p kunci modal data value) =
      tokens (tombolBaris p kunci modal data value') := by
  simp only [tombolBaris, tokens_append, tokens_elemen, Attr.token, List.map_cons, List.map_nil]

theorem tokens_opsi (value value' label label' : String) (pilih : Option String) :
    tokens (opsi value label pilih) = tokens (opsi value' label' pilih) := by
  simp only [opsi, tokens_elemen, tokens_cons, tokens_text, Attr.token, List.map_cons]

theorem tokens_badgeStatus (status status' : Option String) :
    tokens (badgeStatus status) = tokens (badgeStatus status') := by
  unfold badgeStatus lencana
  split <;> split <;>
    simp only [tokens_elemen, tokens_cons, tokens_text, Attr.token, List.map_cons, List.map_nil]

end Pieces

/-- To PHP's `==` the username in the form and each resident's are one text before the
replacement exactly if they are after it. -/
def Variabel.DipilihSama (v : Variabel) (php : Php) (σ : Ganti)
    (warga : List (String × Option String)) : Prop :=
  ∀ u ∈ v.post.get? "username", ∀ dw ∈ warga,
    php.sama (σ.username u) (σ.username dw.1) = php.sama u dw.1

/-- Only numbers can be one text to `==` in two spellings. -/
theorem Variabel.dipilihSama_of_teks {v : Variabel} {php : Php} {σ : Ganti}
    {warga : List (String × Option String)}
    (h : ∀ u ∈ v.post.get? "username",
      php.numerik u = none ∧ php.numerik (σ.username u) = none) : v.DipilihSama php σ warga := by
  intro u hu dw hdw
  obtain ⟨hfirst, hsecond⟩ := h u hu
  simp only [Php.sama, hfirst, hsecond, σ.username.injective.eq_iff]

section Templates
variable (σ : Ganti) (l : Latar) (v : Variabel)

theorem query_latar (name : String) (hname : σ.kolom name = id) :
    (σ.latar l).query.get? name = l.query.get? name := by
  change (σ.form l.query).get? name = _
  rw [Ganti.get?_form, hname, Option.map_id]
  rfl

theorem post_variabel (name : String) (hname : σ.kolom name = id) :
    (σ.variabel v).post.get? name = v.post.get? name := by
  change (σ.form v.post).get? name = _
  rw [Ganti.get?_form, hname, Option.map_id]
  rfl

theorem tokens_navigasi : tokens (navigasi (σ.latar l)) = tokens (navigasi l) := by
  have htetap : (σ.latar l).tetap = l.tetap := rfl
  have hnaskah : (σ.latar l).naskah = l.naskah := rfl
  unfold navigasi
  simp only [query_latar σ l "p" rfl, htetap, hnaskah, tokens_append, tokens_elemen, tokens_cons,
    tokens_text, tokens_raw]

theorem tokens_userFormNodes :
    tokens (userFormNodes (σ.latar l) (σ.variabel v)) = tokens (userFormNodes l v) := by
  have htetap : (σ.latar l).tetap = l.tetap := rfl
  have htoken : (σ.latar l).token = l.token := rfl
  have hvariabel : (σ.variabel v).levelTarget = v.levelTarget ∧ (σ.variabel v).tipe = v.tipe ∧
      (σ.variabel v).status = v.status := ⟨rfl, rfl, rfl⟩
  unfold userFormNodes
  rw [post_variabel σ v "level" rfl, htetap, htoken, hvariabel.1, hvariabel.2.1, hvariabel.2.2]
  simp only [tokens_append, tokens_cons, tokens_inputNode, tokens_raw]

theorem tokens_tarifFormNodes :
    tokens (tarifFormNodes (σ.latar l) (σ.variabel v)) = tokens (tarifFormNodes l v) := by
  have htetap : (σ.latar l).tetap = l.tetap := rfl
  have htoken : (σ.latar l).token = l.token := rfl
  unfold tarifFormNodes
  simp only [post_variabel σ v "status" rfl, post_variabel σ v "tipe_tarif" rfl, htetap, htoken,
    tokens_append, tokens_cons, tokens_inputNode]

theorem tokens_opsiWarga (php : Php) {dw : String × Option String}
    (hsama : ∀ u ∈ v.post.get? "username",
      php.sama (σ.username u) (σ.username dw.1) = php.sama u dw.1) :
    tokens (opsiWarga php (σ.variabel v) (σ.username dw.1, dw.2.map σ.nama)) =
      tokens (opsiWarga php v dw) := by
  have hget : (σ.variabel v).post.get? "username" = (v.post.get? "username").map σ.username :=
    σ.get?_form v.post "username"
  have hpilih : (((v.post.get? "username").map σ.username).any
      fun u => php.sama u (σ.username dw.1)) =
      (v.post.get? "username").any fun u => php.sama u dw.1 := by
    cases hpost : v.post.get? "username" with
    | none => rfl
    | some u => exact hsama u hpost
  simp only [opsiWarga, hget, hpilih]
  exact tokens_opsi _ _ _ _ _

theorem tokens_meterFormNodes {warga : List (String × Option String)} (riwayat riwayat' : Riwayat)
    (hsama : v.DipilihSama l.php σ warga) :
    tokens (meterFormNodes (σ.latar l) (σ.variabel v)
      (warga.map fun dw => (σ.username dw.1, dw.2.map σ.nama)) riwayat') =
      tokens (meterFormNodes l v warga riwayat) := by
  have hphp : (σ.latar l).php = l.php := rfl
  have hopsi : tokens ((warga.map fun dw => (σ.username dw.1, dw.2.map σ.nama)).flatMap
      (opsiWarga l.php (σ.variabel v))) = tokens (warga.flatMap (opsiWarga l.php v)) := by
    rw [tokens_flatMap, tokens_flatMap, List.flatMap_map]
    exact List.flatMap_congr fun dw hdw =>
      tokens_opsiWarga σ v l.php fun u hu => hsama u hu dw hdw
  have hstatus : tokens (statusBayarNodes (σ.latar l) (σ.variabel v)) =
      tokens (statusBayarNodes l v) := by
    unfold statusBayarNodes
    simp only [post_variabel σ v "status_bayar" rfl]
    rfl
  have hsimpan : tokens (simpanMeter (σ.latar l)) = tokens (simpanMeter l) := by
    unfold simpanMeter
    rw [query_latar σ l "p" rfl]
    split <;> rfl
  have htetap : (σ.latar l).tetap = l.tetap := rfl
  have htoken : (σ.latar l).token = l.token := rfl
  have hlevel : (σ.latar l).level = l.level := rfl
  unfold meterFormNodes skripMeter
  simp only [query_latar σ l "p" rfl, hphp, htetap, htoken, hlevel, tokens_append, tokens_elemen,
    tokens_cons, tokens_inputNode, tokens_raw, hopsi, hstatus, hsimpan]

theorem tokens_barisUser (u u' : String) (d d' : DataUser) :
    tokens (barisUser u d) = tokens (barisUser u' d') := by
  simp only [barisUser, tokens_append, tokens_elemen, tokens_td,
    tokens_tombolBaris _ _ _ _ (esc (some u)) (esc (some u'))]

theorem tokens_barisTarif (r r' : Tarif) : tokens (barisTarif r) = tokens (barisTarif r') := by
  simp only [barisTarif, tokens_append, tokens_elemen, tokens_td,
    tokens_tombolBaris _ _ _ _ (esc (some r.idTarif)) (esc (some r'.idTarif))]

theorem tokens_barisLog (kalender : Kalender) (e e' : AuditLog) :
    tokens (barisLog kalender e) = tokens (barisLog kalender e') := by
  simp only [barisLog, tokens_append, tokens_elemen, tokens_td]

theorem tokens_barisMeterNodes {l' : Latar} (hlevel : l'.level = l.level) (hnow : l'.now = l.now)
    (nama nama' : Option String) {r r' : BarisMeter} (htgl : r'.tgl = r.tgl) :
    tokens (barisMeterNodes l' nama' r') = tokens (barisMeterNodes l nama r) := by
  have htagihan : tokens (if l.level = .petugas then []
      else td (rupiah r'.tagihan) ++ elemen "td" [] (badgeStatus r'.status)) =
      tokens (if l.level = .petugas then []
        else td (rupiah r.tagihan) ++ elemen "td" [] (badgeStatus r.status)) := by
    split
    · rfl
    · simp only [tokens_append, tokens_elemen, tokens_td, tokens_badgeStatus r'.status r.status]
  have haksi : tokens ((aksiMeter l.level r.tgl l.now).nodes r'.no) =
      tokens ((aksiMeter l.level r.tgl l.now).nodes r.no) := by
    cases aksiMeter l.level r.tgl l.now <;> rfl
  unfold barisMeterNodes
  simp only [hlevel, hnow, htgl, tokens_append, tokens_elemen, tokens_td, htagihan, haksi]

theorem tokens_barisWargaNodes (r : BarisWarga) :
    tokens (barisWargaNodes (σ.latar l) { r with kdTarif := σ.idTarif r.kdTarif }) =
      tokens (barisWargaNodes l r) := by
  have hmodal : modalBayar (σ.latar l) { r with kdTarif := σ.idTarif r.kdTarif } =
      modalBayar l r := rfl
  have haksi : aksiBayar { r with kdTarif := σ.idTarif r.kdTarif } = aksiBayar r := rfl
  unfold barisWargaNodes
  simp only [hmodal, haksi, tokens_append, tokens_elemen, tokens_td]

theorem tokens_settingsNodes (d d' : Option DataProfil) :
    tokens (settingsNodes (σ.latar l) d') = tokens (settingsNodes l d) := by
  have htetap : (σ.latar l).tetap = l.tetap := rfl
  have hres : (σ.latar l).res .settings (σ.latar l).sesi.resSettings =
      l.res .settings l.sesi.resSettings := rfl
  have htoken : (σ.latar l).token = l.token := rfl
  unfold settingsNodes
  simp only [htetap, hres, htoken, tokens_append, tokens_cons, tokens_inputNode]

/-! ### The lists -/

section Lists
variable {db db' : Db} (h : db.Berganti σ db')

include h

theorem tokens_isiUser : tokens (db'.isiUser (σ.latar l)) = tokens (db.isiUser l) := by
  have hlevel : (σ.latar l).level = l.level := rfl
  unfold Db.isiUser
  rw [hlevel]
  split
  · refine tokens_rows (fun r => tokens_barisUser _ "" _ ⟨none, none, none, none, .warga, none, none⟩)
      (fun r => tokens_barisUser _ _ _ _) ?_
    simp only [Select.jawab, List.length_map, List.length_insertionSort, h.login]
  · rfl

theorem tokens_isiTarif : tokens (db'.isiTarif (σ.latar l)) = tokens (db.isiTarif l) := by
  have hlevel : (σ.latar l).level = l.level := rfl
  unfold Db.isiTarif
  rw [hlevel]
  split
  · refine tokens_rows (fun r => tokens_barisTarif _ ⟨"", none, none, none⟩)
      (fun r => tokens_barisTarif _ _) ?_
    simp only [Select.jawab, List.length_map, List.length_insertionSort, h.tarif]
  · rfl

theorem tokens_isiLog (kalender : Kalender) :
    tokens (db'.isiLog kalender (σ.latar l)) = tokens (db.isiLog kalender l) := by
  have hlevel : (σ.latar l).level = l.level := rfl
  unfold Db.isiLog
  rw [hlevel]
  split
  · refine tokens_rows (fun e => tokens_barisLog kalender _ ⟨"", .warga, "", "", none, "", 0⟩)
      (fun e => tokens_barisLog kalender _ _) ?_
    simp only [Select.jawab, List.length_take, List.length_insertionSort, h.auditLog]
  · rfl

theorem tokens_isiMeter : tokens (db'.isiMeter (σ.latar l)) = tokens (db.isiMeter l) := by
  have hlevel : (σ.latar l).level = l.level := rfl
  unfold Db.isiMeter
  rw [hlevel]
  split
  · let baris (tgl : Date) : List Token :=
      tokens (barisMeterNodes l none ⟨0, none, none, none, 0, tgl, 0, 0, none⟩)
    have hrows (db : Db) (l' : Latar) (hlevel : l'.level = l.level) (hnow : l'.now = l.now) :
        tokens ((Select.daftarMeter.jawab _ db).flatMap fun r =>
          barisMeterNodes l' (db.namaPemilik r.username) r) =
          ((Select.daftarMeter.jawab _ db).map BarisMeter.tgl).flatMap baris := by
      rw [tokens_flatMap, List.flatMap_map]
      exact congrArg (List.flatMap · _)
        (funext fun r => tokens_barisMeterNodes l hlevel hnow none _ rfl)
    rw [hrows db' (σ.latar l) rfl rfl, hrows db l rfl rfl, daftarMeter_berganti h]
  · rfl

theorem tokens_isiWarga : tokens (db'.isiWarga (σ.latar l)) = tokens (db.isiWarga l) := by
  have hactor : (σ.latar l).actor = σ.username l.actor := rfl
  unfold Db.isiWarga
  rw [hactor, pemakaianSaya_berganti h, tokens_flatMap, tokens_flatMap, List.flatMap_map]
  exact congrArg (List.flatMap · _) (funext (tokens_barisWargaNodes σ l))

theorem tokens_halaman (kalender : Kalender)
    (hsama : v.DipilihSama l.php σ (Select.daftarWarga.jawab _ db)) :
    tokens (db'.halaman kalender (σ.latar l) (σ.variabel v)) =
      tokens (db.halaman kalender l v) := by
  have huser := tokens_isiUser σ l h
  have htarif := tokens_isiTarif σ l h
  have hmeter := tokens_isiMeter σ l h
  have hwarga := tokens_isiWarga σ l h
  have hlog := tokens_isiLog σ l h kalender
  have hdasbor : dasbor (σ.latar l) = dasbor l := rfl
  have hmodal : modalHapus (σ.latar l) = modalHapus l := rfl
  have htetap : (σ.latar l).tetap = l.tetap := rfl
  have hres (slot : Slot) (res : Option Res) : (σ.latar l).res slot res = l.res slot res := rfl
  have hsesi : (σ.latar l).sesi.resUser = l.sesi.resUser ∧
      (σ.latar l).sesi.resTarif = l.sesi.resTarif ∧
      (σ.latar l).sesi.resMeter = l.sesi.resMeter := ⟨rfl, rfl, rfl⟩
  have hlevel : (σ.latar l).level = l.level := rfl
  have hnaskah : (σ.latar l).naskah = l.naskah := rfl
  unfold Db.halaman
  rw [daftarWarga_berganti h]
  simp only [hdasbor, hmodal, htetap, hres, hsesi, hlevel, hnaskah, tokens_append,
    tokens_userFormNodes, tokens_tarifFormNodes,
    tokens_meterFormNodes σ l v ((Select.dataLastMeter l.now).jawab _ db) _ hsama,
    tokens_settingsNodes σ l ((Select.profil l.actor).jawab _ db), huser, htarif, hmeter, hwarga,
    hlog]

end Lists

end Templates

end SistemAir
